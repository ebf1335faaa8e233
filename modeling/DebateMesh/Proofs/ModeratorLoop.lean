import DebateMesh.Daemon.ModeratorLoop
import DebateMesh.Proofs.Moderator.Run

namespace DebateMesh

/-- What the moderator is asked for when an event comes. -/
def LoopEvent.asks? (time : UInt64) : LoopEvent → Option Moderator.Event
  | .line bytes requestId =>
    match (Utf8.decodeChars bytes).map Text.trimChars with
    | some (c :: cs) => some (.submit (String.ofList (c :: cs)) requestId none time)
    | _ => none
  | .endOfInput => none
  | .datagram (.json bs) => some (.message bs)
  | .datagram (.frame bs) => some (.frame bs)
  | .datagram (.sessionInit _) => none
  | .alarm fresh => some (.timeout fresh)

/-- A line is submitted as it is; all else that is asked for is traffic or a timeout. -/
theorem LoopEvent.asks?_cases {time : UInt64} {event : LoopEvent} {e : Moderator.Event}
    (h : event.asks? time = some e) :
    (∃ text requestId, e = .submit text requestId none time) ∨
      e.isTraffic = true ∨ e.isTimeout = true := by
  unfold asks? at h
  split at h
  · split at h
    · cases h
      exact Or.inl ⟨_, _, rfl⟩
    · cases h
  · cases h
  · cases h
    exact Or.inr (Or.inl rfl)
  · cases h
    exact Or.inr (Or.inl rfl)
  · cases h
  · cases h
    exact Or.inr (Or.inr rfl)

def Effect.line? : Effect → Option String
  | .print line => some line
  | .send .. => none

/-- How long the timer that is armed may run. -/
def Action.delay? : Action → Option UInt64
  | .armTimer delay => some delay
  | _ => none

/-- The timer that is armed last counts. -/
theorem deadline_foldl (now : Nat) (d : Option Nat) (actions : List Action) :
    actions.foldl (Action.deadline now) d =
      ((actions.filterMap Action.delay?).getLast?.map fun delay => now + delay.toNat).or d := by
  induction actions generalizing d with
  | nil => rfl
  | cons x actions ih =>
    rw [List.foldl_cons, ih]
    cases x with
    | broadcast | sendInit | failed | complete => rfl
    | armTimer delay =>
      simp only [List.filterMap_cons, Action.delay?, Action.deadline, List.getLast?_cons]
      cases (actions.filterMap Action.delay?).getLast? <;> rfl

namespace ModeratorLoop

/-- Whether an event can come. Lines and their end come while the input is open, and the alarm once
the deadline has passed. -/
def isReady (l : ModeratorLoop) (clock : Nat) : LoopEvent → Bool
  | .line .. => l.inputOpen
  | .endOfInput => l.inputOpen
  | .datagram _ => true
  | .alarm _ => l.isDue clock

/-- An event and its clocks. -/
structure Cue where
  event : LoopEvent
  /-- The clock when the event comes. -/
  woken : Nat
  /-- The clock when timers are armed. -/
  now : Nat
  /-- Time of day. -/
  time : UInt64 := 0

/-- One turn after which the loop goes on. -/
structure Turn extends Cue where
  before : ModeratorLoop
  effects : List Effect
  after : ModeratorLoop
  ready : before.isReady woken event = true
  step : before.step now time event = .ok (after, effects)

namespace Cue

def asks? (c : Cue) : Option Moderator.Event := c.event.asks? c.time

/-- The text and the identifier of a request that is submitted. -/
def submission? (c : Cue) : Option (String × String) :=
  match c.asks? with
  | some (.submit text requestId ..) => some (text, requestId)
  | _ => none

end Cue

namespace Turn

/-- What the moderator orders. -/
def actions (t : Turn) : List Action :=
  match t.asks? with
  | some e => (t.before.moderator.step e).2.actions
  | none => []

def timers (t : Turn) : List UInt64 := t.actions.filterMap Action.delay?

def printed (t : Turn) : List String := t.effects.filterMap Effect.line?

/-- What is known of a turn that asks the moderator for something. -/
structure Asked (t : Turn) (e : Moderator.Event) : Prop where
  move : Moderator.Move t.before.moderator e (.ok t.actions) t.after.moderator
  deadline : t.after.deadline =
    (t.timers.getLast?.map fun delay => t.now + delay.toNat).or
      (if e.isTimeout then none else t.before.deadline)
  effects : t.effects = t.actions.filterMap Action.effect?

/-- What is known of a turn that asks for nothing. -/
structure Unasked (t : Turn) : Prop where
  moderator : t.after.moderator = t.before.moderator
  deadline : t.after.deadline = t.before.deadline
  actions : t.actions = []
  effects : t.effects = []

end Turn

variable {l start : ModeratorLoop} {t : Turn} {e : Moderator.Event}

/-- The loop takes an answer that is no fault, and carries out what it orders. -/
theorem settle_ok {now : Nat} {answer : Moderator × Moderator.Outcome} {l' : ModeratorLoop}
    {effects : List Effect} (h : l.settle now answer = .ok (l', effects)) :
    answer.2 = .ok answer.2.actions ∧ l'.moderator = answer.1 ∧
      l'.deadline = answer.2.actions.foldl (Action.deadline now) l.deadline ∧
      effects = answer.2.actions.filterMap Action.effect? := by
  obtain ⟨m, o⟩ := answer
  cases o with
  | error fault => cases h
  | ok actions =>
    cases h
    exact ⟨rfl, rfl, rfl, rfl⟩

theorem Turn.Asked.of_settle (h : t.asks? = some e) {d : Option Nat}
    (hd : d = if e.isTimeout then none else t.before.deadline)
    (hsettle : { t.before with deadline := d }.settle t.now (t.before.moderator.step e) =
      .ok (t.after, t.effects)) : t.Asked e := by
  obtain ⟨houtcome, hafter, hdeadline, heffects⟩ := settle_ok hsettle
  have hactions : t.actions = (t.before.moderator.step e).2.actions := by
    rw [actions, h]
  rw [← hactions] at houtcome hdeadline heffects
  refine ⟨?_, ?_, heffects⟩
  · rw [← houtcome, hafter]
    exact t.before.moderator.step_moves e
  · rw [hdeadline, deadline_foldl, hd]
    rfl

theorem Turn.Unasked.of_step (h : t.asks? = none)
    (hmoderator : t.after.moderator = t.before.moderator)
    (hdeadline : t.after.deadline = t.before.deadline) (heffects : t.effects = []) :
    t.Unasked := by
  refine ⟨hmoderator, hdeadline, ?_, heffects⟩
  rw [Turn.actions, h]

/-- Every turn asks for nothing, or for one thing. -/
theorem Turn.cases (t : Turn) :
    (t.asks? = none ∧ t.Unasked) ∨ ∃ e, t.asks? = some e ∧ t.Asked e := by
  have hstep := t.step
  have hasks : t.asks? = t.event.asks? t.time := rfl
  cases hevent : t.event with
  | line bytes requestId =>
    rw [hevent] at hstep hasks
    rw [ModeratorLoop.step, onLine] at hstep
    cases hread : Utf8.decodeChars bytes with
    | none =>
      rw [hread] at hstep
      cases hstep
    | some chars =>
      rw [hread] at hstep
      rw [LoopEvent.asks?, hread, Option.map_some] at hasks
      cases htrim : Text.trimChars chars with
      | nil =>
        simp only [htrim, Except.ok.injEq, Prod.mk.injEq] at hstep
        rw [htrim] at hasks
        exact Or.inl ⟨hasks, .of_step hasks (by rw [hstep.1]) (by rw [hstep.1]) hstep.2.symm⟩
      | cons c cs =>
        simp only [htrim] at hstep
        rw [htrim] at hasks
        exact Or.inr ⟨_, hasks, .of_settle hasks rfl hstep⟩
  | endOfInput =>
    rw [hevent] at hstep hasks
    simp only [ModeratorLoop.step, Except.ok.injEq, Prod.mk.injEq] at hstep
    exact Or.inl ⟨hasks, .of_step hasks (by rw [← hstep.1]) (by rw [← hstep.1]) hstep.2.symm⟩
  | datagram d =>
    rw [hevent] at hstep hasks
    cases d with
    | json bs => exact Or.inr ⟨_, hasks, .of_settle hasks rfl hstep⟩
    | frame bs => exact Or.inr ⟨_, hasks, .of_settle hasks rfl hstep⟩
    | sessionInit bs =>
      have hsettle : t.before.settle t.now (t.before.moderator, .ok []) =
          .ok (t.after, t.effects) := hstep
      obtain ⟨-, hmoderator, hdeadline, heffects⟩ := settle_ok hsettle
      exact Or.inl ⟨hasks, .of_step hasks hmoderator hdeadline heffects⟩
  | alarm fresh =>
    rw [hevent] at hstep hasks
    exact Or.inr ⟨_, hasks, .of_settle hasks rfl hstep⟩

/-- What a loop can come to: each turn starts where the one before it ended. -/
inductive Run (start : ModeratorLoop) : List Turn → ModeratorLoop → Prop
  | start : Run start [] start
  | turn {ts : List Turn} (t : Turn) (soFar : Run start ts t.before) : Run start (ts ++ [t]) t.after

theorem Run.concat {ts : List Turn} (h : Run start (ts ++ [t]) l) :
    Run start ts t.before ∧ l = t.after := by
  generalize hts : ts ++ [t] = us at h
  cases h with
  | start => simp at hts
  | turn u soFar =>
    obtain ⟨rfl, hlast⟩ := List.append_inj' hts rfl
    cases hlast
    exact ⟨soFar, rfl⟩

/-- What is behind a cut is a run of its own. -/
theorem Run.cut {front back : List Turn} (h : Run start (front ++ back) l) :
    ∃ mid, Run start front mid ∧ Run mid back l := by
  induction back using List.reverseRecOn generalizing l with
  | nil =>
    rw [List.append_nil] at h
    exact ⟨l, h, .start⟩
  | append_singleton back t ih =>
    rw [← List.append_assoc] at h
    obtain ⟨hbefore, rfl⟩ := h.concat
    obtain ⟨mid, hfront, hback⟩ := ih hbefore
    exact ⟨mid, hfront, .turn t hback⟩

theorem Run.split {front back : List Turn} (h : Run start (front ++ t :: back) l) :
    Run start front t.before ∧ Run t.after back l := by
  rw [← List.singleton_append, ← List.append_assoc] at h
  obtain ⟨mid, hfront, hback⟩ := h.cut
  obtain ⟨hbefore, rfl⟩ := hfront.concat
  exact ⟨hbefore, hback⟩

theorem Run.cons {ts : List Turn} (h : Run t.after ts l) : Run t.before (t :: ts) l := by
  generalize hmid : t.after = mid at h
  induction h with
  | start =>
    rw [← hmid]
    exact .turn t .start
  | turn u _ ih => exact .turn u ih

/-- The turn that a cue leads to, if its event can come and the loop goes on. -/
def turn? (l : ModeratorLoop) (c : Cue) : Option Turn :=
  if ready : l.isReady c.woken c.event = true then
    match step : l.step c.now c.time c.event with
    | .ok (after, effects) => some { c with before := l, effects, after, ready, step }
    | .error _ => none
  else none

def turns? (l : ModeratorLoop) : List Cue → Option (List Turn)
  | [] => some []
  | c :: cs => do
    let t ← l.turn? c
    let ts ← t.after.turns? cs
    return t :: ts

theorem turn?_eq_some {c : Cue} (h : l.turn? c = some t) : t.toCue = c ∧ t.before = l := by
  unfold turn? at h
  split at h
  · split at h
    · cases h
      exact ⟨rfl, rfl⟩
    · cases h
  · cases h

theorem turns?_run {cs : List Cue} {ts : List Turn} (h : l.turns? cs = some ts) :
    ts.map Turn.toCue = cs ∧ ∃ l', Run l ts l' := by
  induction cs generalizing l ts with
  | nil =>
    cases h
    exact ⟨rfl, l, .start⟩
  | cons c cs ih =>
    obtain ⟨t, ht, h⟩ := Option.bind_eq_some_iff.mp h
    obtain ⟨us, hus, h⟩ := Option.bind_eq_some_iff.mp h
    cases h
    obtain ⟨rfl, rfl⟩ := turn?_eq_some ht
    obtain ⟨hcues, l', hrun⟩ := ih hus
    exact ⟨by rw [List.map_cons, hcues], l', hrun.cons⟩

end ModeratorLoop

end DebateMesh

import DebateMesh.Proofs.Moderator.Accounting
import DebateMesh.Proofs.ModeratorLoop

namespace DebateMesh

/-- The state of a request: all of it but the offers, which come in one and the same state. -/
def Active.state (a : Active) : Active :=
  { a with discovery := { a.discovery with offers := [] } }

/-- How long a request may stay in its state. -/
def Active.patience (a : Active) : UInt64 :=
  match a.session with
  | none => a.discovery.timeout
  | some _ => roundTimeout

theorem Active.patience_state (a : Active) : a.state.patience = a.patience := rfl

/-- A line that tells how a request ended. -/
def IsOutcome (requestId line : String) : Prop :=
  line = "[" ++ requestId ++ "] no experts available" ∨
    ∃ transcript, line = verdict requestId transcript

/-- The line that tells the user of an action. -/
def Action.line? (x : Action) : Option String := x.effect?.bind Effect.line?

theorem Debate.append_ne (d : Debate) (p : DebatePacket) : d.append p ≠ d := by
  intro h
  have hlength := congrArg (fun d => d.transcript.length) h
  simp [Debate.append] at hlength

namespace Moderator

/-- The state of the request under way. -/
def standing (m : Moderator) : Option Active := m.active.map Active.state

variable {m m' : Moderator} {e : Event} {actions : List Action}

/-- A step without a fault leaves no request, leaves the state and arms no timer, or enters a state
and arms its timer. -/
theorem Move.paces (h : Move m e (.ok actions) m') :
    m'.active = none ∨
    (e.isSubmit = false ∧ e.isTimeout = false ∧ m'.standing = m.standing ∧
      actions.filterMap Action.delay? = []) ∨
    ∃ a, m'.active = some a ∧ (e.isSubmit = true ∨ m'.standing ≠ m.standing) ∧
      actions.filterMap Action.delay? = [a.patience] := by
  cases h with
  | accepts => exact Or.inr (Or.inr ⟨_, rfl, .inl rfl, rfl⟩)
  | ignores traffic =>
    exact Or.inr (Or.inl ⟨Event.isSubmit_of_passive (.inl traffic),
      Event.isTimeout_of_traffic traffic, rfl, rfl⟩)
  | hears active _ traffic =>
    refine Or.inr (Or.inl ⟨Event.isSubmit_of_passive (.inl traffic),
      Event.isTimeout_of_traffic traffic, ?_, rfl⟩)
    rw [standing, standing, active]
    rfl
  | records active debating =>
    refine Or.inr (Or.inr ⟨_, rfl, .inr fun h => ?_, rfl⟩)
    have hsession := congrArg (Option.bind · Active.session) h
    simp [standing, withSession, active, Active.state, debating, Debate.append_ne] at hsession
  | opens active searching =>
    refine Or.inr (Or.inr ⟨_, rfl, .inr fun h => ?_, rfl⟩)
    have hsession := congrArg (Option.bind · Active.session) h
    simp [standing, withSession, active, Active.state, searching] at hsession
  | escalates active searching _ phase =>
    refine Or.inr (Or.inr ⟨_, rfl, .inr fun h => ?_, ?_⟩)
    · have hphase := congrArg (Option.map fun a => a.discovery.phase) h
      simp [standing, active, Active.state, Discovery.escalate, phase] at hphase
    · simp only [Active.patience, searching]
      rfl
  | concludes | expires | fails | cancels => exact Or.inl rfl
  | rests idle => exact Or.inl idle

/-- What a step prints ends the request under way. -/
theorem Move.tells (h : Move m e (.ok actions) m') (he : e.isTraffic = true ∨ e.isTimeout = true) :
    (actions.filterMap Action.line?).length + m'.load = m.load ∧
    ∀ line ∈ actions.filterMap Action.line?, ∃ a, m.active = some a ∧
      IsOutcome a.request.id line := by
  cases h with
  | accepts | cancels => rcases he with he | he <;> cases he
  | ignores | rests => exact ⟨Nat.zero_add _, fun line hline => by cases hline⟩
  | hears active | records active | opens active | escalates active =>
    exact ⟨(load_of_active active).symm, fun line hline => by cases hline⟩
  | concludes active | expires active =>
    refine ⟨(load_of_active active).symm, fun line hline => ⟨_, active, .inr ?_⟩⟩
    exact ⟨_, List.mem_singleton.mp hline⟩
  | fails active =>
    refine ⟨(load_of_active active).symm, fun line hline => ⟨_, active, .inl ?_⟩⟩
    exact List.mem_singleton.mp hline

/-- A submission without a fault prints nothing, and its request is under way. -/
theorem Move.submits {text requestId : String} {constraints : Option Constraints} {time : UInt64}
    (h : Move m (.submit text requestId constraints time) (.ok actions) m') :
    actions.filterMap Action.line? = [] ∧ m'.load = 1 ∧
      m'.Holds (m.requestOf text requestId constraints time) text := by
  cases h with
  | accepts request =>
    refine ⟨rfl, rfl, ⟨fun a ha => ?_⟩⟩
    cases ha
    exact ⟨request, rfl⟩
  | ignores traffic | hears _ _ traffic | records _ _ traffic | concludes _ _ traffic =>
    cases traffic

end Moderator

namespace ModeratorLoop

variable {l start : ModeratorLoop} {t : Turn} {ts front back : List Turn} {a b : Active}
  {r : RoutingRequest} {text requestId : String}

/-- The turn submits a request, or changes the state of the one under way. -/
def Turn.Enters (t : Turn) : Prop :=
  t.submission?.isSome = true ∨ t.after.moderator.standing ≠ t.before.moderator.standing

theorem Cue.submission?_isSome {c : Cue} {e : Moderator.Event} (h : c.asks? = some e) :
    c.submission?.isSome = e.isSubmit := by
  unfold submission?
  rw [h]
  cases e <;> rfl

/-- A turn leaves no request, leaves the state and the deadline, or enters a state and sets the
deadline for it. -/
theorem Turn.paces (t : Turn) :
    t.after.moderator.active = none ∨
    (¬ t.Enters ∧ t.after.moderator.standing = t.before.moderator.standing ∧ t.timers = [] ∧
      t.after.deadline = t.before.deadline) ∨
    ∃ a, t.after.moderator.active = some a ∧ t.Enters ∧ t.timers = [a.patience] ∧
      t.after.deadline = some (t.now + a.patience.toNat) := by
  rcases t.cases with ⟨hasks, hturn⟩ | ⟨e, hasks, hturn⟩
  · have hsubmits : t.submission? = none := by
      rw [Cue.submission?, hasks]
    refine Or.inr (Or.inl ⟨?_, by rw [hturn.moderator], by rw [timers, hturn.actions]; rfl,
      hturn.deadline⟩)
    rintro (h | h)
    · simp [hsubmits] at h
    · exact h (by rw [hturn.moderator])
  · have hsubmits := Cue.submission?_isSome hasks
    have hdeadline := hturn.deadline
    rcases hturn.move.paces with hidle | ⟨hsubmit, htimeout, hstanding, htimers⟩ |
      ⟨a, ha, henters, htimers⟩
    · exact Or.inl hidle
    · rw [timers, htimers, htimeout] at hdeadline
      refine Or.inr (Or.inl ⟨?_, hstanding, htimers, hdeadline⟩)
      rintro (h | h)
      · simp [hsubmits, hsubmit] at h
      · exact h hstanding
    · rw [timers, htimers] at hdeadline
      refine Or.inr (Or.inr ⟨a, ha, ?_, htimers, hdeadline⟩)
      rw [Turn.Enters, hsubmits]
      exact henters

/-- A turn entered the state of a request and armed the timer for it, and those behind it did
neither. -/
structure Armed (a : Active) (due : Nat) (t : Turn) (back : List Turn) : Prop where
  enters : t.Enters
  reaches : t.after.moderator.standing = some a.state
  arms : t.timers = [a.patience]
  due : due = t.now + a.patience.toNat
  since : ∀ u ∈ back, ¬ u.Enters ∧ u.timers = []

theorem Armed.of_state {due : Nat} (h : Armed b due t back) (hstate : b.state = a.state) :
    Armed a due t back := by
  have hpatience : b.patience = a.patience := by
    rw [← b.patience_state, hstate, a.patience_state]
  refine ⟨h.enters, ?_, ?_, ?_, h.since⟩
  · rw [h.reaches, hstate]
  · rw [h.arms, hpatience]
  · rw [h.due, hpatience]

/-- A request under way waits for the deadline of the state that it is in. -/
theorem Run.armed (h : Run start ts l) (hstart : start.moderator.active = none)
    (ha : l.moderator.active = some a) : ∃ front t back due,
      ts = front ++ t :: back ∧ l.deadline = some due ∧ Armed a due t back := by
  induction h generalizing a with
  | start =>
    rw [hstart] at ha
    cases ha
  | @turn ts t _ ih =>
    rcases t.paces with hidle | ⟨hstays, hstanding, htimers, hdeadline⟩ |
      ⟨b, hb, henters, htimers, hdeadline⟩
    · rw [hidle] at ha
      cases ha
    · rw [Moderator.standing, ha] at hstanding
      obtain ⟨b, hb, hstate⟩ := Option.map_eq_some_iff.mp hstanding.symm
      obtain ⟨front, u, back, due, rfl, hdue, harmed⟩ := ih hb
      refine ⟨front, u, back ++ [t], due, by simp, hdeadline.trans hdue, ?_⟩
      refine { harmed.of_state hstate with since := ?_ }
      intro v hv
      rcases List.mem_append.mp hv with hv | hv
      · exact harmed.since v hv
      · rw [List.mem_singleton.mp hv]
        exact ⟨hstays, htimers⟩
    · rw [hb] at ha
      cases ha
      refine ⟨ts, t, [], _, rfl, hdeadline, henters, ?_, htimers, rfl, fun v hv => by cases hv⟩
      rw [Moderator.standing, hb]
      rfl

theorem Turn.printed_eq (t : Turn) : t.printed = t.actions.filterMap Action.line? := by
  rcases t.cases with ⟨-, hturn⟩ | ⟨e, -, hturn⟩
  · rw [printed, hturn.effects, hturn.actions]
    rfl
  · rw [printed, hturn.effects, List.filterMap_filterMap]
    rfl

/-- Without a submission a turn prints one line when the request ends, for it, and else nothing. -/
theorem Turn.tells (t : Turn) (hquiet : t.submission? = none)
    (hholds : t.before.moderator.Holds r text) :
    t.printed.length + t.after.moderator.load = t.before.moderator.load ∧
    t.after.moderator.Holds r text ∧
    ∀ line ∈ t.printed, ∃ a, t.before.moderator.active = some a ∧ a.request = r ∧
      a.prompt = text ∧ IsOutcome r.id line := by
  rw [t.printed_eq]
  rcases t.cases with ⟨-, hturn⟩ | ⟨e, hasks, hturn⟩
  · rw [hturn.actions, hturn.moderator]
    exact ⟨Nat.zero_add _, hholds, fun line hline => by cases hline⟩
  · have hsubmit := Cue.submission?_isSome hasks
    rw [hquiet] at hsubmit
    rcases LoopEvent.asks?_cases hasks with ⟨text, requestId, rfl⟩ | hpassive
    · cases hsubmit
    obtain ⟨hload, hlines⟩ := hturn.move.tells hpassive
    refine ⟨hload, hholds.move hturn.move hsubmit.symm, fun line hline => ?_⟩
    obtain ⟨a, ha, houtcome⟩ := hlines line hline
    obtain ⟨rfl, hprompt⟩ := hholds.request a ha
    exact ⟨a, ha, rfl, hprompt, houtcome⟩

/-- Until the next submission every line that is printed ends the request, and is for it. -/
theorem Run.told (h : Run start ts l) (hquiet : ∀ t ∈ ts, t.submission? = none)
    (hholds : start.moderator.Holds r text) :
    (ts.flatMap Turn.printed).length + l.moderator.load = start.moderator.load ∧
    l.moderator.Holds r text ∧
    ∀ t ∈ ts, ∀ line ∈ t.printed, ∃ a, t.before.moderator.active = some a ∧ a.request = r ∧
      a.prompt = text ∧ IsOutcome r.id line := by
  induction h with
  | start => exact ⟨Nat.zero_add _, hholds, fun t ht => by cases ht⟩
  | turn t _ ih =>
    rw [List.forall_mem_append] at hquiet
    obtain ⟨hload, hbefore, hlines⟩ := ih hquiet.1
    obtain ⟨hlast, hafter, htold⟩ := t.tells (hquiet.2 t List.mem_cons_self) hbefore
    refine ⟨?_, hafter, ?_⟩
    · rw [List.flatMap_append, List.length_append, List.flatMap_singleton]
      omega
    · rw [List.forall_mem_append, List.forall_mem_singleton]
      exact ⟨hlines, htold⟩

theorem Turn.submits (h : t.submission? = some (text, requestId)) :
    t.printed = [] ∧ t.after.moderator.load = 1 ∧ t.after.moderator.Holds
      (t.before.moderator.requestOf text requestId none t.time) text := by
  rw [t.printed_eq]
  rcases t.cases with ⟨hasks, -⟩ | ⟨e, hasks, hturn⟩
  · rw [Cue.submission?, hasks] at h
    cases h
  rw [Cue.submission?, hasks] at h
  rcases LoopEvent.asks?_cases hasks with ⟨text, requestId, rfl⟩ | hpassive
  · cases h
    exact hturn.move.submits
  · have hsubmit := Moderator.Event.isSubmit_of_passive hpassive
    cases e with
    | submit => cases hsubmit
    | message | frame | timeout | cancel => cases h

/-- The loop keeps its timer for the state of its request. While a request is under way, the
deadline is that of the timer armed last, by the turn that entered the request's state. So an alarm
finds a request only when its state has lasted as long as it may, never by what an earlier request
or state left; when it finds none it does nothing. Before the first submission nothing is printed,
and from one to the next at most one line, which tells how the request of the first one ended. -/
theorem deadlines_follow_requests {m : Moderator} {ts : List Turn} {l : ModeratorLoop}
    (hm : m.active = none) (h : Run { moderator := m } ts l) :
    (∀ a, l.moderator.active = some a → ∃ front t back due,
      ts = front ++ t :: back ∧ l.deadline = some due ∧ Armed a due t back) ∧
    (∀ front u back fresh, ts = front ++ u :: back → u.event = .alarm fresh →
      (∀ a, u.before.moderator.active = some a → ∃ earlier t between due,
        front = earlier ++ t :: between ∧ Armed a due t between ∧ due ≤ u.woken) ∧
      (u.before.moderator.active = none → u.actions = [])) ∧
    (∀ front back, ts = front ++ back → (∀ u ∈ front, u.submission? = none) →
      front.flatMap Turn.printed = []) ∧
    ∀ front s during back text requestId, ts = front ++ s :: (during ++ back) →
      s.submission? = some (text, requestId) → (∀ u ∈ during, u.submission? = none) →
      ((s :: during).flatMap Turn.printed).length ≤ 1 ∧
      ∀ u ∈ s :: during, ∀ line ∈ u.printed, ∃ a, u.before.moderator.active = some a ∧
        a.request = s.before.moderator.requestOf text requestId none s.time ∧ a.prompt = text ∧
        IsOutcome requestId line := by
  refine ⟨fun a => h.armed hm, ?_, ?_, ?_⟩
  · intro front u back fresh hsplit halarm
    rw [hsplit] at h
    obtain ⟨hfront, -⟩ := h.split
    constructor
    · intro a ha
      obtain ⟨earlier, t, between, due, hearlier, hdue, harmed⟩ := hfront.armed hm ha
      refine ⟨earlier, t, between, due, hearlier, harmed, ?_⟩
      have hready := u.ready
      rw [halarm, isReady, isDue, hdue] at hready
      exact of_decide_eq_true hready
    · intro hidle
      simp [Turn.actions, Cue.asks?, halarm, LoopEvent.asks?, Moderator.step,
        Moderator.onTimeout, hidle, Moderator.Outcome.actions]
  · intro front back hsplit hquiet
    rw [hsplit] at h
    obtain ⟨mid, hfront, -⟩ := h.cut
    have hload : m.load = 0 := by simp [Moderator.load, Moderator.isIdle, hm]
    have hnothing : m.Holds (m.requestOf "" "" none 0) "" := ⟨by simp [hm]⟩
    obtain ⟨htold, -⟩ := hfront.told hquiet hnothing
    rw [hload] at htold
    exact List.eq_nil_of_length_eq_zero (by omega)
  · intro front s during back text requestId hsplit hsubmits hquiet
    rw [hsplit] at h
    obtain ⟨-, hrest⟩ := h.split
    obtain ⟨mid, hduring, -⟩ := hrest.cut
    obtain ⟨hnone, hload, hholds⟩ := Turn.submits hsubmits
    obtain ⟨htold, -, hlines⟩ := hduring.told hquiet hholds
    refine ⟨?_, ?_⟩
    · rw [List.flatMap_cons, hnone, List.nil_append]
      omega
    · rw [List.forall_mem_cons, hnone]
      exact ⟨List.forall_mem_nil _, hlines⟩

/-- No one answers a line, neither on the mesh nor on the backbone. -/
def unanswered : List Cue :=
  let fresh (octet : UInt8) : Fresh :=
    ⟨sessionIdOf (List.replicate 16 octet), List.replicate 12 octet⟩
  [{ event := .line (Utf8.encode " solve code") "r", woken := 0, now := 5 },
    { event := .alarm (fresh 1), woken := 205, now := 210 },
    { event := .alarm (fresh 2), woken := 2210, now := 2220 }]

theorem deadlines_follow_requests_unanswered : ∃ asked escalated ended l,
    asker.active = none ∧ Run { moderator := asker } [asked, escalated, ended] l ∧
    [asked, escalated, ended].map Turn.toCue = unanswered ∧
    (∃ a earlier t between due, ended.before.moderator.active = some a ∧
      [asked, escalated] = earlier ++ t :: between ∧ Armed a due t between ∧ due ≤ 2210) ∧
    ∃ line, [asked, escalated, ended].flatMap Turn.printed = [line] ∧ IsOutcome "r" line := by
  have hidle : asker.active = none := rfl
  have hplayed : (turns? { moderator := asker } unanswered).map
      (fun ts => ts.map fun t => (t.before.moderator.isIdle, t.printed.length)) =
      some [(true, 0), (false, 0), (false, 1)] := by
    decide +kernel
  obtain ⟨ts, hts, hprints⟩ := Option.map_eq_some_iff.mp hplayed
  obtain ⟨hcues, l, hrun⟩ := turns?_run hts
  obtain ⟨asked, rest, rfl, hasked, hrest⟩ := List.map_eq_cons_iff.mp hcues
  obtain ⟨escalated, rest, rfl, hescalated, hrest⟩ := List.map_eq_cons_iff.mp hrest
  obtain ⟨ended, rest, rfl, hended, hrest⟩ := List.map_eq_cons_iff.mp hrest
  obtain rfl := List.map_eq_nil_iff.mp hrest
  simp only [List.map_cons, List.cons.injEq, Prod.mk.injEq] at hprints
  obtain ⟨-, halarm, -, htold⟩ := deadlines_follow_requests hidle hrun
  refine ⟨asked, escalated, ended, l, hidle, hrun, hcues, ?_, ?_⟩
  · have hbusy : ended.before.moderator.isIdle = false := hprints.2.2.1.1
    obtain ⟨a, ha⟩ := Option.isSome_iff_exists.mp (Option.isNone_eq_false_iff.mp hbusy)
    obtain ⟨earlier, t, between, due, hfront, harmed, hdue⟩ :=
      (halarm [asked, escalated] ended [] _ rfl (congrArg Cue.event hended)).1 a ha
    exact ⟨a, earlier, t, between, due, ha, hfront, harmed,
      Nat.le_trans hdue (Nat.le_of_eq (congrArg Cue.woken hended))⟩
  · have hsubmits : asked.submission? = some ("solve code", "r") := by
      rw [hasked]
      decide +kernel
    have hquiet : ∀ u ∈ [escalated, ended], u.submission? = none := by
      simp only [List.forall_mem_cons]
      exact ⟨by rw [hescalated]; rfl, by rw [hended]; rfl, List.forall_mem_nil _⟩
    obtain ⟨-, hlines⟩ := htold [] asked [escalated, ended] [] "solve code" "r" rfl hsubmits hquiet
    have hlength : ([asked, escalated, ended].flatMap Turn.printed).length = 1 := by
      simp [hprints]
    obtain ⟨line, hline⟩ := List.length_eq_one_iff.mp hlength
    have hmem : line ∈ [asked, escalated, ended].flatMap Turn.printed := by simp [hline]
    obtain ⟨u, hu, hprinted⟩ := List.mem_flatMap.mp hmem
    obtain ⟨-, -, -, -, houtcome⟩ := hlines u hu line hprinted
    exact ⟨line, hline, houtcome⟩

end ModeratorLoop

end DebateMesh

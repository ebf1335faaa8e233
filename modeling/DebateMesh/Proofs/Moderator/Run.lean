import DebateMesh.Proofs.Envelope
import DebateMesh.Proofs.Message.Frame
import DebateMesh.Proofs.Message.Json
import DebateMesh.Proofs.Moderator
import DebateMesh.Proofs.Run
import DebateMesh.Session.Identifier

namespace DebateMesh

/-- A moderator at rest. -/
def asker : Moderator := { nodeId := "!m", envelope := .zero }

namespace Moderator

def Event.isSubmit : Event → Bool
  | .submit .. => true
  | _ => false

def Event.isTimeout : Event → Bool
  | .timeout _ => true
  | _ => false

/-- Bytes that arrive on either layer. -/
def Event.isTraffic : Event → Bool
  | .message _ => true
  | .frame _ => true
  | _ => false

theorem Event.isTimeout_of_traffic {e : Event} (h : e.isTraffic = true) : e.isTimeout = false := by
  cases e with
  | message | frame => rfl
  | submit | timeout | cancel => cases h

theorem Event.isSubmit_of_passive {e : Event} (h : e.isTraffic = true ∨ e.isTimeout = true) :
    e.isSubmit = false := by
  cases e with
  | submit => rcases h with h | h <;> cases h
  | message | frame | timeout | cancel => rfl

/-- The message that arrives, if it can be read. -/
def Event.message? : Event → Option Message
  | .message bs => (Message.decode bs).toOption
  | .frame bs => (Frame.decode bs).toOption.map Prod.fst
  | _ => none

/-- Session names are made of sixteen random octets. -/
def Event.Drawn : Event → Prop
  | .timeout fresh => ∃ random, random.length = 16 ∧ fresh.sessionId = sessionIdOf random
  | _ => True

/-- Only what passes every check can be read. -/
theorem Event.isValid_of_message? {e : Event} {msg : Message} (h : e.message? = some msg) :
    msg.isValid = true := by
  cases e with
  | submit | timeout | cancel => cases h
  | message bs => exact Message.isValid_of_ofBytes (toOption_eq_some_iff.mp h)
  | frame bs =>
    obtain ⟨_, hread, rfl⟩ := Option.map_eq_some_iff.mp h
    exact (Frame.encode_of_decode (toOption_eq_some_iff.mp hread)).2.2.1

/-- What the moderator is at. -/
inductive Stage
  | idle
  | searching (a : Active)
  | debating (a : Active) (d : Debate)

def stage (m : Moderator) : Stage :=
  match m.active with
  | none => .idle
  | some a =>
    match a.session with
    | none => .searching a
    | some d => .debating a d

section Stages

variable {m : Moderator} {a : Active} {d : Debate}

theorem stage_idle (h : m.active = none) : m.stage = .idle := by
  unfold stage
  rw [h]

theorem stage_searching (h : m.active = some a) (hs : a.session = none) :
    m.stage = .searching a := by
  unfold stage
  rw [h]
  dsimp only
  rw [hs]

theorem stage_debating (h : m.active = some a) (hs : a.session = some d) :
    m.stage = .debating a d := by
  unfold stage
  rw [h]
  dsimp only
  rw [hs]

end Stages

/-- What a step can do: the event, its outcome, and the moderator after it. -/
inductive Move (m : Moderator) : Event → Outcome → Moderator → Prop
  | refuses {prompt requestId : String} {constraints : Option Constraints} {now : UInt64}
      (fault : ModeratorFault) :
      Move m (.submit prompt requestId constraints now) (.error fault) m.drop
  | accepts {prompt requestId : String} {constraints : Option Constraints} {now : UInt64}
      {r : RoutingRequest} {bytes : Bytes}
      (request : r = m.requestOf prompt requestId constraints now)
      (encoded : encodeFor (openDiscovery m.settings r).phase.layer (.routing r) = .ok bytes) :
      Move m (.submit prompt requestId constraints now)
        (.ok [.broadcast (openDiscovery m.settings r).phase.layer bytes,
          .armTimer (openDiscovery m.settings r).timeout])
        { m with active := some ⟨r, prompt, openDiscovery m.settings r, none⟩ }
  | ignores {e : Event} (traffic : e.isTraffic = true) : Move m e (.ok []) m
  | hears {e : Event} {a : Active} {o : ExpertOffer} (active : m.active = some a)
      (searching : a.session = none) (traffic : e.isTraffic = true)
      (arrived : e.message? = some (.offer o)) (request : o.requestId = a.request.id) :
      Move m e (.ok []) { m with active := some { a with discovery := a.discovery.add o } }
  | records {e : Event} {a : Active} {d : Debate} {p : DebatePacket} (active : m.active = some a)
      (debating : a.session = some d) (traffic : e.isTraffic = true)
      (arrived : e.message? = some (.debate p)) (takes : d.Takes p)
      (goesOn : (d.append p).isTerminal = false) :
      Move m e (.ok [.armTimer roundTimeout]) (m.withSession a (d.append p))
  | concludes {e : Event} {a : Active} {d : Debate} {p : DebatePacket} (active : m.active = some a)
      (debating : a.session = some d) (traffic : e.isTraffic = true)
      (arrived : e.message? = some (.debate p)) (takes : d.Takes p)
      (ends : (d.append p).isTerminal = true) :
      Move m e (.ok [.complete d.sessionId a.request.id (d.append p).transcript]) m.drop
  | rests {fresh : Fresh} (idle : m.active = none) : Move m (.timeout fresh) (.ok []) m
  | expires {fresh : Fresh} {a : Active} {d : Debate} (active : m.active = some a)
      (debating : a.session = some d) :
      Move m (.timeout fresh) (.ok [.complete d.sessionId a.request.id d.transcript]) m.drop
  | opens {fresh : Fresh} {a : Active} {proposer : ExpertOffer} {i : SessionInit}
      (active : m.active = some a) (searching : a.session = none)
      (sufficient : a.discovery.isSufficient = true)
      (chosen : (a.discovery.select a.request m.reputation).proposer = some proposer)
      (invites : m.invitation a proposer (a.discovery.select a.request m.reputation).critic fresh =
        .ok i) :
      Move m (.timeout fresh)
        (.ok [.sendInit a.discovery.phase.layer i.recipients i.toBytes, .armTimer roundTimeout])
        (m.withSession a (Debate.ofInit i))
  | cannotSeal {fresh : Fresh} {a : Active} {proposer : ExpertOffer} {fault : Envelope.Fault}
      (active : m.active = some a) (searching : a.session = none)
      (sufficient : a.discovery.isSufficient = true)
      (chosen : (a.discovery.select a.request m.reputation).proposer = some proposer)
      (unsealed : m.invitation a proposer (a.discovery.select a.request m.reputation).critic fresh =
        .error fault) :
      Move m (.timeout fresh) (.error (.envelope fault)) m
  | escalates {fresh : Fresh} {a : Active} {bytes : Bytes} (active : m.active = some a)
      (searching : a.session = none)
      (noExpert : a.discovery.isSufficient = true →
        (a.discovery.select a.request m.reputation).proposer = none)
      (phase : a.discovery.phase = .local)
      (encoded : encodeFor .backbone (.routing a.request) = .ok bytes) :
      Move m (.timeout fresh)
        (.ok [.broadcast .backbone bytes, .armTimer a.discovery.escalate.timeout])
        { m with active := some { a with discovery := a.discovery.escalate } }
  | cannotBroadcast {fresh : Fresh} {a : Active} {fault : ModeratorFault}
      (active : m.active = some a) (searching : a.session = none)
      (noExpert : a.discovery.isSufficient = true →
        (a.discovery.select a.request m.reputation).proposer = none)
      (phase : a.discovery.phase = .local) :
      Move m (.timeout fresh) (.error fault)
        { m with active := some { a with discovery := a.discovery.escalate } }
  | fails {fresh : Fresh} {a : Active} (active : m.active = some a) (searching : a.session = none)
      (noExpert : a.discovery.isSufficient = true →
        (a.discovery.select a.request m.reputation).proposer = none)
      (phase : a.discovery.phase = .backbone) :
      Move m (.timeout fresh) (.ok [.failed a.request.id]) m.drop
  | cancels : Move m .cancel (.ok []) m.drop

theorem handle_moves (m : Moderator) {e : Event} {msg : Message} (traffic : e.isTraffic = true)
    (arrived : e.message? = some msg) : Move m e (.ok (m.handle msg).2) (m.handle msg).1 := by
  rcases m.handle_cases msg with heq | ⟨a, o, active, searching, rfl, request, heq⟩ |
    ⟨a, d, p, active, debating, rfl, takes, ⟨ends, heq⟩ | ⟨goesOn, heq⟩⟩
  all_goals rw [heq]
  · exact .ignores traffic
  · exact .hears active searching traffic arrived request
  · exact .concludes active debating traffic arrived takes ends
  · exact .records active debating traffic arrived takes goesOn

/-- A message that can be read is handled. -/
theorem step_of_message (m : Moderator) {e : Event} {msg : Message}
    (h : e.message? = some msg) :
    m.step e = ((m.handle msg).1, .ok (m.handle msg).2) := by
  cases e with
  | submit | timeout | cancel => cases h
  | message bs =>
    cases hread : Message.decode bs with
    | error fault => simp [Event.message?, hread, Except.toOption] at h
    | ok read =>
      simp only [Event.message?, hread, Except.toOption, Option.some.injEq] at h
      simp [step, onMessage, hread, h]
  | frame bs =>
    cases hread : Frame.decode bs with
    | error fault => simp [Event.message?, hread, Except.toOption] at h
    | ok read =>
      simp only [Event.message?, hread, Except.toOption, Option.map_some, Option.some.injEq] at h
      simp [step, onFrame, hread, h]

/-- Bytes that cannot be read change nothing. -/
theorem step_of_unreadable (m : Moderator) {e : Event} (traffic : e.isTraffic = true)
    (h : e.message? = none) : m.step e = (m, .ok []) := by
  cases e with
  | submit | timeout | cancel => cases traffic
  | message bs =>
    cases hread : Message.decode bs with
    | error fault => simp [step, onMessage, hread]
    | ok read => simp [Event.message?, hread, Except.toOption] at h
  | frame bs =>
    cases hread : Frame.decode bs with
    | error fault => simp [step, onFrame, hread]
    | ok read => simp [Event.message?, hread, Except.toOption] at h

theorem traffic_moves (m : Moderator) {e : Event} (traffic : e.isTraffic = true) :
    Move m e (m.step e).2 (m.step e).1 := by
  cases arrived : e.message? with
  | none =>
    rw [m.step_of_unreadable traffic arrived]
    exact .ignores traffic
  | some msg =>
    rw [m.step_of_message arrived]
    exact m.handle_moves traffic arrived

theorem timeout_moves (m : Moderator) (fresh : Fresh) :
    Move m (.timeout fresh) (m.onTimeout fresh).2 (m.onTimeout fresh).1 := by
  rcases m.onTimeout_cases fresh with ⟨idle, heq⟩ | ⟨a, d, active, debating, heq⟩ |
    ⟨a, proposer, active, searching, sufficient, chosen, heq⟩ |
    ⟨a, active, searching, noExpert, heq⟩
  all_goals rw [heq]
  · exact .rests idle
  · exact .expires active debating
  · rcases m.startSession_cases a (a.discovery.select a.request m.reputation) proposer fresh with
      ⟨fault, unsealed, heq⟩ | ⟨i, invites, heq⟩
    · rw [heq]
      exact .cannotSeal active searching sufficient chosen unsealed
    · rw [heq]
      exact .opens active searching sufficient chosen invites
  · rcases m.escalate_cases a with ⟨phase, outcome, heq, hactions⟩ | ⟨phase, heq⟩
    · rw [heq]
      cases outcome with
      | error fault => exact .cannotBroadcast active searching noExpert phase
      | ok actions =>
        obtain ⟨bytes, encoded, rfl⟩ := hactions actions rfl
        exact .escalates active searching noExpert phase encoded
    · rw [heq]
      exact .fails active searching noExpert phase

/-- Every step is one of the moves. -/
theorem step_moves (m : Moderator) (e : Event) : Move m e (m.step e).2 (m.step e).1 := by
  cases e with
  | submit prompt requestId constraints now =>
    rcases m.submit_cases prompt requestId constraints now with ⟨fault, heq⟩ | ⟨bytes, encoded, heq⟩
    · rw [step, heq]
      exact .refuses fault
    · rw [step, heq]
      exact .accepts rfl encoded
  | message bs => exact traffic_moves m rfl
  | frame bs => exact traffic_moves m rfl
  | timeout fresh => exact timeout_moves m fresh
  | cancel => exact .cancels

section Runs

variable {m m' : Moderator} {e : Event} {o : Outcome} {es : List Event}

theorem run_cons (m : Moderator) (e : Event) (es : List Event) :
    m.run (e :: es) = (((m.step e).1.run es).1, (m.step e).2 :: ((m.step e).1.run es).2) := rfl

/-- A run leads where its events do one by one. -/
theorem run_final (m : Moderator) (es : List Event) : (m.run es).1 = Machine.final step m es := by
  induction es generalizing m with
  | nil => rfl
  | cons e es ih => exact ih _

theorem run_append (m : Moderator) (es fs : List Event) :
    (m.run (es ++ fs)).1 = ((m.run es).1.run fs).1 := by
  simp only [run_final, Machine.final_append]

theorem run_keeps {P : Moderator → Prop} {A : Event → Prop}
    (keep : ∀ m e o m', P m → Move m e o m' → A e → P m') (hm : P m) (hes : ∀ e ∈ es, A e) :
    P (m.run es).1 := by
  rw [run_final]
  exact Machine.final_keeps (fun m e hm he => keep m e _ _ hm (m.step_moves e) he) hm hes

/-- Nothing but the request changes in a step. -/
theorem Move.fixed (h : Move m e o m') : ∃ x, m' = { m with active := x } := by
  cases h <;> exact ⟨_, rfl⟩

theorem run_fixed (m : Moderator) (es : List Event) :
    ∃ x, (m.run es).1 = { m with active := x } := by
  apply run_keeps (P := fun n => ∃ x, n = { m with active := x }) (A := fun _ => True)
  · intro n e o n' hn hmove _
    obtain ⟨x, rfl⟩ := hn
    exact hmove.fixed
  · exact ⟨m.active, rfl⟩
  · exact fun _ _ => trivial

end Runs

/-- The moderator follows this request for the text, or none any more. -/
structure Holds (m : Moderator) (r : RoutingRequest) (text : String) : Prop where
  request : ∀ a, m.active = some a → a.request = r ∧ a.prompt = text

section Holds

variable {m : Moderator} {r : RoutingRequest} {text : String}

theorem Holds.drop : m.drop.Holds r text := ⟨fun a ha => by cases ha⟩

theorem Holds.of_active {a b : Active} (hm : m.Holds r text) (ha : m.active = some a)
    (hr : b.request = a.request) (hp : b.prompt = a.prompt) :
    Holds { m with active := some b } r text := by
  obtain ⟨hrequest, hprompt⟩ := hm.request a ha
  constructor
  intro c hc
  cases hc
  exact ⟨hr.trans hrequest, hp.trans hprompt⟩

/-- Whatever else happens, a submission is followed until the next one. -/
theorem Holds.move (hm : m.Holds r text) {e : Event} {o : Outcome} {m' : Moderator}
    (h : Move m e o m') (he : e.isSubmit = false) : m'.Holds r text := by
  cases h with
  | refuses | accepts => cases he
  | ignores | rests | cannotSeal => exact hm
  | hears active | records active | opens active | escalates active | cannotBroadcast active =>
    exact hm.of_active active rfl rfl
  | concludes | expires | fails | cancels => exact Holds.drop

theorem Holds.run (hm : m.Holds r text) {es : List Event} (hes : ∀ e ∈ es, e.isSubmit = false) :
    (m.run es).1.Holds r text :=
  run_keeps (P := fun m => m.Holds r text) (fun _ _ _ _ h hmove he => h.move hmove he) hm
    hes

theorem Holds.submit (m : Moderator) (text requestId : String) (constraints : Option Constraints)
    (now : UInt64) : (m.submit text requestId constraints now).1.Holds
      (m.requestOf text requestId constraints now) text := by
  rcases m.submit_cases text requestId constraints now with ⟨f, heq⟩ | ⟨bytes, -, heq⟩
  · rw [heq]
    exact Holds.drop
  · rw [heq]
    constructor
    intro a ha
    cases ha
    exact ⟨rfl, rfl⟩

end Holds

/-- One event of a run, with the moderator before and after it. -/
abbrev Turn := Machine.Turn Moderator Event Outcome

def Turn.actions (t : Turn) : List Action := t.outcome.actions

def turns (m : Moderator) (es : List Event) : List Turn := Machine.turns step m es

theorem turns_cons (m : Moderator) (e : Event) (es : List Event) :
    m.turns (e :: es) = ⟨m, e, (m.step e).2, (m.step e).1⟩ :: (m.step e).1.turns es := rfl

variable {m : Moderator} {es : List Event} {t : Turn}

/-- A turn stands where a start of the events leads. -/
theorem before_of_mem_turns (ht : t ∈ m.turns es) :
    ∃ fs gs, es = fs ++ t.event :: gs ∧ t.before = (m.run fs).1 := by
  obtain ⟨before, after, hsplit⟩ := List.append_of_mem ht
  obtain ⟨fs, gs, hes, -, hturn, -⟩ := Machine.turns_split hsplit
  refine ⟨fs, gs, hes, ?_⟩
  rw [run_final, hturn]
  rfl

theorem move_of_mem_turns (ht : t ∈ m.turns es) : Move t.before t.event t.outcome t.after := by
  rw [Machine.turn_of_mem_turns ht]
  exact step_moves _ _

end Moderator

end DebateMesh

import DebateMesh.Proofs.Moderator.Run
import DebateMesh.Proofs.Session.Header

namespace DebateMesh

def Action.isTimer : Action → Bool
  | .armTimer _ => true
  | _ => false

/-- A debate goes on only with its first packet. -/
theorem Debate.transcript_of_goesOn {d : Debate} {p : DebatePacket} (h : d.transcript.length ≤ 1)
    (hgoes : (d.append p).isTerminal = false) : d.transcript = [] := by
  have hlength : (d.append p).transcript.length = d.transcript.length + 1 := by
    simp [Debate.append]
  have hnot := mt (Debate.isTerminal_iff (by omega)).mpr (Bool.eq_false_iff.mp hgoes)
  exact List.length_eq_zero_iff.mp (by omega)

namespace Moderator

/-- From the mesh a search can go to the backbone, and from there into a debate. -/
def phaseAllowance : Phase → Nat
  | .local => 3
  | .backbone => 2

/-- What is left to a request that a debate leaves `debating` to. -/
def allowance (debating : Debate → Nat) (m : Moderator) : Nat :=
  match m.stage with
  | .idle => 0
  | .searching a => phaseAllowance a.discovery.phase
  | .debating _ d => debating d

/-- How many timeouts can still find the request. -/
def timeoutsLeft : Moderator → Nat := allowance fun _ => 1

/-- How many timers can still be armed for the request. -/
def timersLeft : Moderator → Nat := allowance fun d => 1 - d.transcript.length

section Allowance

variable {m : Moderator} {a : Active} {d : Debate} (debating : Debate → Nat)

theorem allowance_idle (h : m.active = none) : allowance debating m = 0 := by
  rw [allowance, stage_idle h]

theorem allowance_searching (h : m.active = some a) (hs : a.session = none) :
    allowance debating m = phaseAllowance a.discovery.phase := by
  rw [allowance, stage_searching h hs]

theorem allowance_debating (h : m.active = some a) (hs : a.session = some d) :
    allowance debating m = debating d := by
  rw [allowance, stage_debating h hs]

theorem allowance_discovery (x : Discovery) (hs : a.session = none) :
    allowance debating { m with active := some { a with discovery := x } } =
      phaseAllowance x.phase :=
  allowance_searching (a := { a with discovery := x }) debating rfl hs

theorem two_le_phaseAllowance (p : Phase) : 2 ≤ phaseAllowance p := by
  cases p <;> decide

end Allowance

/-- The text can be sealed whatever the nonce, and a debate that is open waits for a packet. -/
structure Bounded (m : Moderator) : Prop where
  seals : ∀ a, m.active = some a → ∀ nonce, ∃ blob, m.envelope.encryptText nonce a.prompt
    (Utf8.encode (fitField requestIdWidth a.request.id)) = .ok blob
  short : ∀ a d, m.active = some a → a.session = some d → d.transcript.length ≤ 1

variable {m m' : Moderator} {e : Event} {o : Outcome} {es : List Event}

theorem Bounded.of_idle (h : m.active = none) : m.Bounded := by
  constructor
  · intro a ha
    rw [h] at ha
    cases ha
  · intro a d ha
    rw [h] at ha
    cases ha

theorem Bounded.of_active (hm : m.Bounded) {a b : Active} (ha : m.active = some a)
    (hid : b.request.id = a.request.id) (hp : b.prompt = a.prompt)
    (hshort : ∀ d, b.session = some d → d.transcript.length ≤ 1) :
    Bounded { m with active := some b } := by
  constructor
  · intro c hc
    cases hc
    rw [hid, hp]
    exact hm.seals a ha
  · intro c d hc hd
    cases hc
    exact hshort d hd

theorem Bounded.move (hm : m.Bounded) (h : Move m e o m') (he : e.isSubmit = false) :
    m'.Bounded := by
  cases h with
  | refuses | accepts => cases he
  | ignores | rests | cannotSeal => exact hm
  | concludes | expires | fails | cancels => exact Bounded.of_idle rfl
  | hears active searching | escalates active searching | cannotBroadcast active searching =>
    refine hm.of_active active rfl rfl fun d hd => ?_
    rw [searching] at hd
    cases hd
  | records active debating _ _ _ goesOn =>
    refine hm.of_active active rfl rfl fun d hd => ?_
    cases hd
    have hnil := Debate.transcript_of_goesOn (hm.short _ _ active debating) goesOn
    rw [Debate.append, hnil]
    exact Nat.le_refl 1
  | opens active =>
    refine hm.of_active active rfl rfl fun d hd => ?_
    cases hd
    exact Nat.zero_le 1

theorem Bounded.run (hm : m.Bounded) (hes : ∀ e ∈ es, e.isSubmit = false) :
    (m.run es).1.Bounded :=
  run_keeps (P := Bounded) (fun _ _ _ _ h hmove he => h.move hmove he) hm hes

/-- The timer runs out on a request. -/
def Turn.strikes (t : Turn) : Bool := t.event.isTimeout && !t.before.isIdle

theorem Turn.strikes_of_traffic (h : e.isTraffic = true) :
    Turn.strikes ⟨m, e, o, m'⟩ = false := by
  unfold Turn.strikes
  rw [Event.isTimeout_of_traffic h]
  rfl

theorem Turn.strikes_of_idle (h : m.active = none) : Turn.strikes ⟨m, e, o, m'⟩ = false := by
  unfold Turn.strikes isIdle
  rw [h]
  exact Bool.and_false _

/-- A timeout uses up one of those that are left, and traffic gives none back. -/
theorem Move.timeoutsLeft_le (hm : m.Bounded) (h : Move m e o m')
    (he : e.isTraffic = true ∨ e.isTimeout = true) :
    m'.timeoutsLeft + (if Turn.strikes ⟨m, e, o, m'⟩ then 1 else 0) ≤ m.timeoutsLeft := by
  have hone : (if Turn.strikes ⟨m, e, o, m'⟩ then 1 else 0) ≤ 1 := by
    split
    · exact Nat.le_refl 1
    · exact Nat.zero_le 1
  unfold timeoutsLeft
  cases h with
  | refuses | accepts | cancels => rcases he with he | he <;> cases he
  | ignores traffic =>
    rw [Turn.strikes_of_traffic traffic]
    exact Nat.le_refl _
  | hears active searching traffic =>
    rw [Turn.strikes_of_traffic traffic, allowance_discovery _ _ searching,
      allowance_searching _ active searching]
    exact Nat.le_refl _
  | records active debating traffic =>
    rw [Turn.strikes_of_traffic traffic, allowance_debating _ rfl rfl,
      allowance_debating _ active debating]
    exact Nat.le_refl _
  | concludes _ _ traffic =>
    rw [Turn.strikes_of_traffic traffic, allowance_idle _ rfl]
    exact Nat.zero_le _
  | rests idle =>
    rw [Turn.strikes_of_idle idle]
    exact Nat.le_refl _
  | expires active debating =>
    rw [allowance_idle _ rfl, allowance_debating _ active debating]
    exact Nat.add_le_add (Nat.le_refl 0) hone
  | @opens _ a _ _ active searching =>
    have htwo := two_le_phaseAllowance a.discovery.phase
    rw [allowance_debating _ rfl rfl, allowance_searching _ active searching]
    omega
  | @cannotSeal fresh a proposer _ active _ _ _ unsealed =>
    obtain ⟨blob, hblob⟩ := hm.seals a active fresh.nonce
    obtain ⟨i, hi⟩ := invitation_of_sealed proposer _ hblob
    rw [hi] at unsealed
    cases unsealed
  | escalates active searching _ phase =>
    rw [allowance_discovery _ _ searching, allowance_searching _ active searching, phase]
    exact Nat.add_le_add (Nat.le_refl 2) hone
  | cannotBroadcast active searching _ phase =>
    rw [allowance_discovery _ _ searching, allowance_searching _ active searching, phase]
    exact Nat.add_le_add (Nat.le_refl 2) hone
  | @fails _ a active searching =>
    have htwo := two_le_phaseAllowance a.discovery.phase
    rw [allowance_idle _ rfl, allowance_searching _ active searching]
    omega

/-- A timer that is armed is one of those that are left. -/
theorem Move.timersLeft_le (hm : m.Bounded) (h : Move m e o m')
    (he : e.isTraffic = true ∨ e.isTimeout = true) :
    m'.timersLeft + o.actions.countP Action.isTimer ≤ m.timersLeft := by
  unfold timersLeft
  cases h with
  | refuses | accepts | cancels => rcases he with he | he <;> cases he
  | ignores | rests | cannotSeal => exact Nat.le_refl _
  | hears active searching =>
    rw [allowance_discovery _ _ searching, allowance_searching _ active searching]
    exact Nat.le_refl _
  | records active debating _ _ _ goesOn =>
    have hnil := Debate.transcript_of_goesOn (hm.short _ _ active debating) goesOn
    rw [allowance_debating _ rfl rfl, allowance_debating _ active debating, Debate.append, hnil]
    exact Nat.le_refl 1
  | concludes | expires | fails =>
    rw [allowance_idle _ rfl]
    exact Nat.zero_le _
  | @opens _ a _ _ active searching =>
    rw [allowance_debating _ rfl rfl, allowance_searching _ active searching]
    exact two_le_phaseAllowance a.discovery.phase
  | escalates active searching _ phase =>
    rw [allowance_discovery _ _ searching, allowance_searching _ active searching, phase]
    exact Nat.le_refl 3
  | cannotBroadcast active searching _ phase =>
    rw [allowance_discovery _ _ searching, allowance_searching _ active searching, phase]
    exact Nat.le_succ 2

theorem run_timeoutsLeft_le (hm : m.Bounded)
    (hes : ∀ e ∈ es, e.isTraffic = true ∨ e.isTimeout = true) :
    (m.run es).1.timeoutsLeft + (m.turns es).countP Turn.strikes ≤ m.timeoutsLeft := by
  induction es generalizing m with
  | nil => exact Nat.le_refl _
  | cons e es ih =>
    rw [List.forall_mem_cons] at hes
    have hmove := m.step_moves e
    have hfirst := hmove.timeoutsLeft_le hm hes.1
    have hrest := ih (hm.move hmove (Event.isSubmit_of_passive hes.1)) hes.2
    rw [turns_cons, List.countP_cons]
    change ((m.step e).1.run es).1.timeoutsLeft + _ ≤ _
    omega

theorem run_timersLeft_le (hm : m.Bounded)
    (hes : ∀ e ∈ es, e.isTraffic = true ∨ e.isTimeout = true) :
    (m.run es).1.timersLeft + ((m.turns es).flatMap Turn.actions).countP Action.isTimer ≤
      m.timersLeft := by
  induction es generalizing m with
  | nil => exact Nat.le_refl _
  | cons e es ih =>
    rw [List.forall_mem_cons] at hes
    have hmove := m.step_moves e
    have hfirst := hmove.timersLeft_le hm hes.1
    have hrest := ih (hm.move hmove (Event.isSubmit_of_passive hes.1)) hes.2
    rw [turns_cons, List.flatMap_cons, List.countP_append]
    change ((m.step e).1.run es).1.timersLeft + ((m.step e).2.actions.countP Action.isTimer + _) ≤ _
    omega

theorem isIdle_iff (m : Moderator) : m.isIdle = true ↔ m.timeoutsLeft = 0 := by
  unfold isIdle timeoutsLeft
  cases ha : m.active with
  | none => exact iff_of_true rfl (allowance_idle _ ha)
  | some a =>
    refine iff_of_false Bool.false_ne_true ?_
    cases hs : a.session with
    | none =>
      have htwo := two_le_phaseAllowance a.discovery.phase
      rw [allowance_searching _ ha hs]
      omega
    | some d =>
      rw [allowance_debating _ ha hs]
      exact Nat.one_ne_zero

/-- A request that is still under way was struck by every timeout. -/
theorem countP_isTimeout_le (hm : m.Bounded)
    (hes : ∀ e ∈ es, e.isTraffic = true ∨ e.isTimeout = true)
    (hbusy : (m.run es).1.isIdle ≠ true) :
    es.countP Event.isTimeout ≤ (m.turns es).countP Turn.strikes := by
  induction es generalizing m with
  | nil => exact Nat.le_refl 0
  | cons e es ih =>
    have hleft := run_timeoutsLeft_le hm hes
    have hend := mt (isIdle_iff _).mpr hbusy
    have hstart : m.isIdle = false := by
      rw [Bool.eq_false_iff]
      intro hidle
      have hnone := (isIdle_iff m).mp hidle
      omega
    rw [List.forall_mem_cons] at hes
    have hrest := ih (hm.move (m.step_moves e) (Event.isSubmit_of_passive hes.1)) hes.2 hbusy
    rw [turns_cons, List.countP_cons, List.countP_cons, Turn.strikes, hstart]
    rw [Bool.not_false, Bool.and_true]
    exact Nat.add_le_add hrest (Nat.le_refl _)

/-- What a submission leaves can be bounded when its text can be sealed. -/
theorem Bounded.submit {text requestId : String} {constraints : Option Constraints} {now : UInt64}
    {first : List Action}
    (hsubmit : m.submit text requestId constraints now = (m', .ok first))
    (hseals : ∀ nonce, ∃ blob, m.envelope.encryptText nonce text
      (Utf8.encode (fitField requestIdWidth requestId)) = .ok blob) :
    m'.Bounded ∧ m'.timeoutsLeft ≤ 3 ∧ m'.timersLeft + first.countP Action.isTimer ≤ 4 := by
  rcases m.submit_cases text requestId constraints now with ⟨f, heq⟩ | ⟨bytes, -, heq⟩
  · rw [heq] at hsubmit
    cases hsubmit
  · rw [heq] at hsubmit
    cases hsubmit
    have hphase (p : Phase) : phaseAllowance p ≤ 3 := by cases p <;> decide
    refine ⟨⟨?_, ?_⟩, ?_, ?_⟩
    · intro a ha
      cases ha
      exact hseals
    · intro a d ha hd
      cases ha
      cases hd
    · rw [timeoutsLeft, allowance_searching _ rfl rfl]
      exact hphase _
    · rw [timersLeft, allowance_searching _ rfl rfl]
      exact Nat.add_le_add_right (hphase _) 1

/-- The only traffic that arms a timer is the opening packet of the proposer in a debate that has
none yet; it is appended. -/
theorem Move.opening {delay : UInt64} (hm : m.Bounded) (h : Move m e o m')
    (he : e.isTraffic = true) (hx : .armTimer delay ∈ o.actions) :
    ∃ a d p, m.active = some a ∧ a.session = some d ∧ d.transcript = [] ∧
      e.message? = some (.debate p) ∧ p.sessionId = d.sessionId ∧ p.round = 1 ∧
      p.role = .proposer ∧
      m'.active = some { a with session := some { d with transcript := [p] } } := by
  cases h with
  | refuses | accepts | rests | expires | opens | cannotSeal | escalates | cannotBroadcast | fails
    | cancels => cases he
  | ignores | hears => cases hx
  | concludes => cases List.mem_singleton.mp hx
  | @records _ a d p active debating _ arrived takes goesOn =>
    have hnil := Debate.transcript_of_goesOn (hm.short _ _ active debating) goesOn
    have hround : p.round = 1 := by
      rw [takes.next, Debate.nextRound, Debate.rounds, hnil]
      rfl
    refine ⟨a, d, p, active, debating, hnil, arrived, takes.session, hround,
      takes.proposer hround, ?_⟩
    rw [withSession, Debate.append, hnil]
    rfl

/-- However much arrives after a submission, three timeouts end its request, and four timers are
armed for it at most. The only message that arms one is the opening packet of a debate, which makes
the transcript one packet longer. -/
theorem traffic_keeps_no_request {m m' : Moderator} {text requestId : String}
    {constraints : Option Constraints} {now : UInt64} {first : List Action} {es : List Event}
    (hsubmit : m.submit text requestId constraints now = (m', .ok first))
    (hseals : ∀ nonce, ∃ blob, m.envelope.encryptText nonce text
      (Utf8.encode (fitField requestIdWidth requestId)) = .ok blob)
    (hes : ∀ e ∈ es, e.isTraffic = true ∨ e.isTimeout = true) :
    (m'.turns es).countP Turn.strikes ≤ 3 ∧
    (3 ≤ es.countP Event.isTimeout → (m'.run es).1.isIdle = true) ∧
    (first ++ (m'.turns es).flatMap Turn.actions).countP Action.isTimer ≤ 4 ∧
    ∀ t ∈ m'.turns es, t.event.isTraffic = true → ∀ delay, .armTimer delay ∈ t.actions →
      ∃ a d p, t.before.active = some a ∧ a.session = some d ∧ d.transcript = [] ∧
        t.event.message? = some (.debate p) ∧ p.sessionId = d.sessionId ∧ p.round = 1 ∧
        p.role = .proposer ∧
        t.after.active = some { a with session := some { d with transcript := [p] } } := by
  obtain ⟨hm, hthree, hfour⟩ := Bounded.submit hsubmit hseals
  have hstrikes := run_timeoutsLeft_le hm hes
  have htimers := run_timersLeft_le hm hes
  refine ⟨by omega, fun hmany => ?_, ?_, fun t ht htraffic delay hx => ?_⟩
  · refine Decidable.byContradiction fun hbusy => ?_
    have hstruck := countP_isTimeout_le hm hes hbusy
    have hleft := mt (isIdle_iff _).mpr hbusy
    omega
  · rw [List.countP_append]
    omega
  · obtain ⟨fs, gs, rfl, hturn⟩ := before_of_mem_turns ht
    have hbefore : t.before.Bounded := by
      rw [hturn]
      exact hm.run fun e he => Event.isSubmit_of_passive (hes e (List.mem_append_left _ he))
    exact (move_of_mem_turns ht).opening hbefore htraffic hx

/-- Two experts are heard after the escalation; their debate opens, has its first packet, twice, and
runs out of time. -/
def lateExperts : List Event :=
  let session := sessionIdOf (List.replicate 16 1)
  [.timeout ⟨sessionIdOf (List.replicate 16 0), List.replicate 12 0⟩,
    .message (Message.offer ⟨"r", "!p", "", ["code"], ⟨Binary64.zero, 10⟩, ""⟩).toJson.encode,
    .message (Message.offer ⟨"r", "!c", "", ["math"], ⟨Binary64.zero, 10⟩, ""⟩).toJson.encode,
    .timeout ⟨session, List.replicate 12 1⟩,
    .message (Message.debate ⟨session, 1, .proposer, "yes", {}⟩).toJson.encode,
    .message (Message.debate ⟨session, 1, .proposer, "yes", {}⟩).toJson.encode,
    .timeout ⟨sessionIdOf (List.replicate 16 2), List.replicate 12 2⟩]

theorem traffic_keeps_no_request_lateExperts : ∃ m' first,
    asker.submit "solve code" "r" none 0 = (m', .ok first) ∧
    (∀ e ∈ lateExperts, e.isTraffic = true ∨ e.isTimeout = true) ∧
    (m'.turns lateExperts).countP Turn.strikes = 3 ∧ (m'.run lateExperts).1.isIdle = true ∧
    (first ++ (m'.turns lateExperts).flatMap Turn.actions).countP Action.isTimer = 4 := by
  have hes : ∀ e ∈ lateExperts, e.isTraffic = true ∨ e.isTimeout = true := by
    simp [lateExperts, Event.isTraffic, Event.isTimeout]
  have hseals (nonce : Bytes) : ∃ blob, asker.envelope.encryptText nonce "solve code"
      (Utf8.encode (fitField requestIdWidth "r")) = .ok blob :=
    Envelope.encryptText_isOk (by decide +kernel)
      (Nat.le_trans (length_fitField _ _) (by decide))
  have hstrikes : 3 ≤
      ((asker.submit "solve code" "r" none 0).1.turns lateExperts).countP Turn.strikes := by
    decide +kernel
  have htimers : 4 ≤ ((asker.submit "solve code" "r" none 0).2.actions ++
      ((asker.submit "solve code" "r" none 0).1.turns lateExperts).flatMap
        Turn.actions).countP Action.isTimer := by
    decide +kernel
  match hsubmit : asker.submit "solve code" "r" none 0 with
  | (m', .error fault) =>
    have hok : (asker.submit "solve code" "r" none 0).2.isOk = true := by decide +kernel
    rw [hsubmit] at hok
    cases hok
  | (m', .ok first) =>
    rw [hsubmit] at hstrikes htimers
    obtain ⟨hthree, hidle, hfour, -⟩ := traffic_keeps_no_request hsubmit hseals hes
    exact ⟨m', first, rfl, hes, Nat.le_antisymm hthree hstrikes, hidle (by decide),
      Nat.le_antisymm hfour htimers⟩

end Moderator

end DebateMesh

import DebateMesh.Proofs.Envelope
import DebateMesh.Proofs.Guardian
import DebateMesh.Proofs.Run

namespace DebateMesh.Guardian

/-- What changes the expert and may fail on the way. What was changed before stays changed. -/
abbrev Attempt := ExceptT GuardianFault (StateM Guardian)

/-- The result of an attempt, and the expert after it. -/
def Attempt.on {α : Type} (x : Attempt α) (g : Guardian) : Except GuardianFault α × Guardian :=
  x.run.run g

theorem Attempt.get_on {α : Type} (f : Guardian → Attempt α) (g : Guardian) :
    Attempt.on (get >>= f) g = (f g).on g := rfl

def takeUp (i : SessionInit) (e : Envelope) : Attempt (Option Assignment) := do
  let some role := i.roleOf (← get).nodeId | return none
  let some (r, pending) := extract (·.showsAs i.requestId) (← get).pending
    | throw (.unknownRequest i.requestId)
  let some prompt := e.decryptText i.encryptedPrompt (Utf8.encode i.requestId) | throw .decrypt
  unless PayloadHash.verify prompt r.payloadHash do throw .integrity
  modify fun g => { g with pending }
  modifyGet fun g => ((g.join i.sessionId prompt role).2, (g.join i.sessionId prompt role).1)

/-- An attempt that fails leaves the expert as it was. -/
theorem takeUp_eq (g : Guardian) (i : SessionInit) (e : Envelope) :
    (takeUp i e).on g = match g.onInit i e with
      | .error fault => (.error fault, g)
      | .ok (g', a) => (.ok a, g') := by
  unfold takeUp onInit
  rw [Attempt.get_on]
  cases i.roleOf g.nodeId with
  | none => rfl
  | some role =>
    dsimp only
    rw [Attempt.get_on]
    cases extract (·.showsAs i.requestId) g.pending with
    | none => rfl
    | some found =>
      dsimp only
      cases e.decryptText i.encryptedPrompt (Utf8.encode i.requestId) with
      | none => rfl
      | some prompt =>
        dsimp only
        cases PayloadHash.verify prompt found.1.payloadHash with
        | false => rfl
        | true => rfl

/-- What an expert is called for. -/
inductive Call
  | offer (r : RoutingRequest)
  | init (i : SessionInit) (e : Envelope)
  | packet (p : DebatePacket)
  | release

inductive Answer
  | offered (o : Option ExpertOffer)
  | joined (result : Except GuardianFault (Option Assignment))
  | woken (a : Option Assignment)
  | released

def Answer.assignment? : Answer → Option Assignment
  | .joined (.ok a) => a
  | .woken a => a
  | _ => none

def perform (g : Guardian) : Call → Guardian × Answer
  | .offer r => ((g.offerFor r).1, .offered (g.offerFor r).2)
  | .init i e => (((takeUp i e).on g).2, .joined ((takeUp i e).on g).1)
  | .packet p => ((g.onPacket p).1, .woken (g.onPacket p).2)
  | .release => (g.release, .released)

/-- An invitation names the expert, goes back to a request that it has offered on, and carries the
prompt that the request announced. -/
structure Admits (g : Guardian) (i : SessionInit) (e : Envelope) (role : Role) (r : RoutingRequest)
    (pending : List RoutingRequest) (prompt : String) : Prop where
  named : i.roleOf g.nodeId = some role
  request : extract (·.showsAs i.requestId) g.pending = some (r, pending)
  opened : e.decryptText i.encryptedPrompt (Utf8.encode i.requestId) = some prompt
  bound : PayloadHash.verify prompt r.payloadHash = true

theorem Admits.onInit {g : Guardian} {i : SessionInit} {e : Envelope} {role : Role}
    {r : RoutingRequest} {pending : List RoutingRequest} {prompt : String}
    (h : g.Admits i e role r pending prompt) :
    g.onInit i e = .ok ({ g with pending }.join i.sessionId prompt role) :=
  onInit_eq h.named h.request h.opened h.bound

/-- What a call can do: the call, its answer, and the expert after it. -/
inductive Move (g : Guardian) : Call → Answer → Guardian → Prop
  | declines {r : RoutingRequest} (unsuited : g.accepts r = false) :
      Move g (.offer r) (.offered none) g
  | offers {r : RoutingRequest} (suited : g.accepts r = true) :
      Move g (.offer r) (.offered (some (offer g.profile r)))
        { g with pending := enqueue g.pending r }
  | ignores {i : SessionInit} {e : Envelope} (unnamed : i.roleOf g.nodeId = none) :
      Move g (.init i e) (.joined (.ok none)) g
  | refuses {i : SessionInit} {e : Envelope} {fault : GuardianFault}
      (refused : g.onInit i e = .error fault) : Move g (.init i e) (.joined (.error fault)) g
  | starts {i : SessionInit} {e : Envelope} {r : RoutingRequest} {pending : List RoutingRequest}
      {prompt : String} (admitted : g.Admits i e .proposer r pending prompt)
      (free : g.isSaturated = false) :
      Move g (.init i e) (.joined (.ok (some ⟨i.sessionId, 1, .proposer, prompt, none⟩)))
        { g with pending, inFlight := g.inFlight + 1 }
  | lacksRoom {i : SessionInit} {e : Envelope} {r : RoutingRequest} {pending : List RoutingRequest}
      {prompt : String} (admitted : g.Admits i e .proposer r pending prompt)
      (busy : g.isSaturated = true) : Move g (.init i e) (.joined (.ok none)) { g with pending }
  | parks {i : SessionInit} {e : Envelope} {r : RoutingRequest} {pending : List RoutingRequest}
      {prompt : String} (admitted : g.Admits i e .critic r pending prompt) :
      Move g (.init i e) (.joined (.ok none))
        { g with pending, parked := enqueue g.parked ⟨i.sessionId, prompt⟩ }
  | overhears {p : DebatePacket} (unawaited : p.round = 1 → p.role = .proposer →
      extract (fun q => q.sessionId == p.sessionId) g.parked = none) :
      Move g (.packet p) (.woken none) g
  | wakes {p : DebatePacket} {q : Parked} {parked : List Parked} (round : p.round = 1)
      (role : p.role = .proposer)
      (awaited : extract (fun q => q.sessionId == p.sessionId) g.parked = some (q, parked))
      (free : g.isSaturated = false) :
      Move g (.packet p) (.woken (some ⟨p.sessionId, 2, .critic, q.prompt, some p.content⟩))
        { g with parked, inFlight := g.inFlight + 1 }
  | sleepsOn {p : DebatePacket} {q : Parked} {parked : List Parked} (round : p.round = 1)
      (role : p.role = .proposer)
      (awaited : extract (fun q => q.sessionId == p.sessionId) g.parked = some (q, parked))
      (busy : g.isSaturated = true) : Move g (.packet p) (.woken none) { g with parked }
  | releases : Move g .release .released g.release

theorem isSaturated_iff {g : Guardian} :
    g.isSaturated = true ↔ g.profile.maxConcurrent.toNat ≤ g.inFlight := decide_eq_true_iff

theorem not_isSaturated_iff {g : Guardian} :
    g.isSaturated = false ↔ g.inFlight < g.profile.maxConcurrent.toNat := by
  rw [isSaturated, decide_eq_false_iff_not, Nat.not_le]

theorem id_ne_of_accepts {g : Guardian} {r : RoutingRequest} (h : g.accepts r = true) :
    ∀ q ∈ g.pending, q.id ≠ r.id := by
  unfold accepts at h
  simp only [Bool.and_eq_true, Bool.not_eq_true', List.any_eq_false, beq_iff_eq] at h
  exact h.1.1.2

theorem acquire_of_saturated {g : Guardian} (h : g.isSaturated = true) : g.acquire = none := by
  rw [acquire, if_pos h]

theorem perform_offer {g : Guardian} {r : RoutingRequest} (suited : g.accepts r = true) :
    g.perform (.offer r) =
      ({ g with pending := enqueue g.pending r }, .offered (some (offer g.profile r))) := by
  rw [perform, offerFor, if_pos suited]

theorem offerFor_moves (g : Guardian) (r : RoutingRequest) :
    Move g (.offer r) (.offered (g.offerFor r).2) (g.offerFor r).1 := by
  unfold offerFor
  split
  · rename_i suited
    exact .offers suited
  · rename_i unsuited
    exact .declines (Bool.eq_false_iff.mpr unsuited)

theorem takeUp_moves (g : Guardian) (i : SessionInit) (e : Envelope) :
    Move g (.init i e) (.joined ((takeUp i e).on g).1) ((takeUp i e).on g).2 := by
  rw [takeUp_eq]
  cases hinit : g.onInit i e with
  | error fault => exact .refuses hinit
  | ok result =>
    obtain ⟨g', a⟩ := result
    rcases onInit_ok hinit with ⟨unnamed, rfl, rfl⟩ | ⟨role, r, pending, prompt, named, request,
      opened, bound, hjoin⟩
    · exact .ignores unnamed
    have admitted : g.Admits i e role r pending prompt := ⟨named, request, opened, bound⟩
    cases role with
    | critic =>
      cases hjoin
      exact .parks admitted
    | proposer =>
      cases hbusy : g.isSaturated with
      | false =>
        rw [join, acquire_of_free (g := { g with pending }) hbusy] at hjoin
        cases hjoin
        exact .starts admitted hbusy
      | true =>
        rw [join, acquire_of_saturated (g := { g with pending }) hbusy] at hjoin
        cases hjoin
        exact .lacksRoom admitted hbusy

theorem onPacket_moves (g : Guardian) (p : DebatePacket) :
    Move g (.packet p) (.woken (g.onPacket p).2) (g.onPacket p).1 := by
  unfold onPacket
  split
  · rename_i opening
    cases awaited : extract (fun q => q.sessionId == p.sessionId) g.parked with
    | none => exact .overhears fun _ _ => awaited
    | some found =>
      obtain ⟨q, parked⟩ := found
      cases hbusy : g.isSaturated with
      | false =>
        dsimp only
        rw [acquire_of_free (g := { g with parked }) hbusy]
        exact .wakes opening.1 opening.2 awaited hbusy
      | true =>
        dsimp only
        rw [acquire_of_saturated (g := { g with parked }) hbusy]
        exact .sleepsOn opening.1 opening.2 awaited hbusy
  · rename_i opening
    exact .overhears fun round role => absurd ⟨round, role⟩ opening

/-- Every call makes one of the moves. -/
theorem perform_moves (g : Guardian) (c : Call) : Move g c (g.perform c).2 (g.perform c).1 := by
  cases c with
  | offer r => exact offerFor_moves g r
  | init i e => exact takeUp_moves g i e
  | packet p => exact onPacket_moves g p
  | release => exact .releases

theorem Move.profile {g g' : Guardian} {c : Call} {answer : Answer} (h : Move g c answer g') :
    g'.profile = g.profile := by
  cases h <;> rfl

/-- One call of a run, with the expert before and after it. -/
abbrev Turn := Machine.Turn Guardian Call Answer

def turns (g : Guardian) (cs : List Call) : List Turn := Machine.turns perform g cs

/-- The request of a turn on which the expert makes an offer. -/
def offered? (t : Turn) : Option RoutingRequest :=
  match t.event, t.outcome with
  | .offer r, .offered (some _) => some r
  | _, _ => none

/-- The invitation of a turn on which the expert joins a session. -/
def joined? (t : Turn) : Option SessionInit :=
  match t.event, t.outcome with
  | .init i _, .joined (.ok _) => if (i.roleOf t.before.nodeId).isSome then some i else none
  | _, _ => none

def assigned? (t : Turn) : Option Assignment := t.outcome.assignment?

theorem move_of_mem_turns {g : Guardian} {cs : List Call} {t : Turn} (h : t ∈ g.turns cs) :
    Move t.before t.event t.outcome t.after := by
  rw [Machine.turn_of_mem_turns h]
  exact perform_moves _ _

/-- The expert with these requests before it and so many assignments at work. -/
def coder (pending : List RoutingRequest) (inFlight : Nat) : Guardian where
  profile := { nodeId := "!p", expertType := "", capabilities := ["code"], latency := 10 }
  pending := pending
  inFlight := inFlight

def codeRequest (id : String) : RoutingRequest where
  id := id
  origin := "!m"
  intent := { primary := "code" }
  timestamp := 0
  payloadHash := PayloadHash.ofPrompt "solve code"

/-- An invitation to these experts, with the prompt sealed for the request. -/
def sealedInvitation (sessionId requestId prompt proposerId : String) (criticId : Option String) :
    SessionInit where
  sessionId := sessionId
  requestId := requestId
  proposerId := proposerId
  criticId := criticId
  encryptedPrompt := (Envelope.zero.encryptText (List.replicate nonceWidth 0) prompt
    (Utf8.encode requestId)).toOption.getD []

theorem sealedInvitation_opens {requestId prompt : String} (sessionId proposerId : String)
    (criticId : Option String) (hprompt : (Utf8.encode prompt).length ≤ Gcm.maxLength)
    (hrequest : (Utf8.encode requestId).length ≤ Gcm.maxLength) :
    Envelope.zero.decryptText
      (sealedInvitation sessionId requestId prompt proposerId criticId).encryptedPrompt
      (Utf8.encode requestId) = some prompt := by
  obtain ⟨blob, hblob⟩ := @Envelope.encryptText_isOk .zero (List.replicate nonceWidth 0)
    (Utf8.encode requestId) prompt hprompt hrequest
  rw [sealedInvitation, hblob]
  exact Envelope.decryptText_encryptText (List.length_replicate ..) hblob

/-- The coder is to propose in a session on the request `r`. -/
def codeInvitation : SessionInit where
  sessionId := "s"
  requestId := "r"
  proposerId := "!p"
  criticId := none
  encryptedPrompt := (Envelope.zero.encryptText (List.replicate nonceWidth 0) "solve code"
    (Utf8.encode "r")).toOption.getD []

def codeAssignment : Assignment := ⟨"s", 1, .proposer, "solve code", none⟩

theorem codeInvitation_opens : Envelope.zero.decryptText codeInvitation.encryptedPrompt
    (Utf8.encode codeInvitation.requestId) = some "solve code" :=
  sealedInvitation_opens "s" "!p" none (by decide) (by decide)

variable {inFlight : Nat}

theorem coder_isFree (pending : List RoutingRequest) (hfree : inFlight < 2) :
    (coder pending inFlight).isSaturated = false := not_isSaturated_iff.mpr hfree

theorem coder_accepts (hfree : inFlight < 2) :
    (coder [] inFlight).accepts (codeRequest "r") = true := by
  have hserves : serves (coder [] inFlight).profile (codeRequest "r") = true := by
    change serves (coder [] 0).profile (codeRequest "r") = true
    decide +kernel
  rw [accepts, coder_isFree [] hfree, hserves]
  rfl

theorem coder_onInit (hfree : inFlight < 2) :
    (coder [codeRequest "r"] inFlight).onInit codeInvitation .zero =
      .ok (coder [] (inFlight + 1), some codeAssignment) := by
  have hnamed : codeInvitation.roleOf "!p" = some .proposer := by decide
  have hwaits : extract (·.showsAs "r") [codeRequest "r"] = some (codeRequest "r", []) :=
    if_pos (by decide)
  have hinit := @onInit_eq (coder [codeRequest "r"] inFlight) _ _ _ _ _ _ hnamed hwaits
    codeInvitation_opens (PayloadHash.verify_ofPrompt _)
  have hjoin : (coder [] inFlight).join "s" "solve code" .proposer =
      (coder [] (inFlight + 1), some codeAssignment) := by
    rw [join, acquire_of_free (coder_isFree [] hfree)]
    rfl
  exact hinit.trans (congrArg Except.ok hjoin)

theorem coder_offers (hfree : inFlight < 2) :
    (coder [] inFlight).perform (.offer (codeRequest "r")) =
      (coder [codeRequest "r"] inFlight,
        .offered (some (offer (coder [] 0).profile (codeRequest "r")))) :=
  perform_offer (coder_accepts hfree)

theorem coder_starts (hfree : inFlight < 2) :
    (coder [codeRequest "r"] inFlight).perform (.init codeInvitation .zero) =
      (coder [] (inFlight + 1), .joined (.ok (some codeAssignment))) := by
  rw [perform, takeUp_eq, coder_onInit hfree]

end DebateMesh.Guardian

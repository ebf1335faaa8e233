import DebateMesh.Proofs.Classifier
import DebateMesh.Proofs.Message.Cap
import DebateMesh.Proofs.Moderator.Search

namespace DebateMesh

namespace Moderator

variable {m m' : Moderator} {a : Active} {es : List Event} {fresh : Fresh}
  {fault : ModeratorFault}

/-- Why a timeout fails: the prompt cannot be sealed for the experts that are found, or none are
found and the request has no frame for the backbone, because of the length it would state. -/
inductive Blocked (m : Moderator) (fresh : Fresh) (a : Active) : ModeratorFault → Prop
  | unsealed {fault : Envelope.Fault} (finds : a.discovery.Finds a.request.intent)
      (refused : m.envelope.encryptText fresh.nonce a.prompt
        (Utf8.encode (fitField requestIdWidth a.request.id)) = .error fault) :
      Blocked m fresh a (.envelope fault)
  | unframed (alone : ¬ a.discovery.Finds a.request.intent) (phase : a.discovery.phase = .local)
      (refused : Frame.maxPayload < (Frame.payload (.routing a.request)).length % 2 ^ 32) :
      Blocked m fresh a (.frame .tooLarge)

/-- The search goes on to the backbone, and nothing else happens. -/
def strand (m : Moderator) (a : Active) : Moderator :=
  { m with active := some { a with discovery := a.discovery.escalate } }

theorem encodeFor_backbone_error_iff {msg : Message} (hv : msg.isValid = true) :
    encodeFor .backbone msg = .error fault ↔
      fault = .frame .tooLarge ∧ Frame.maxPayload < (Frame.payload msg).length % 2 ^ 32 := by
  rw [encodeFor, Frame.encode_eq hv]
  by_cases hlong : Frame.maxPayload < (Frame.payload msg).length % 2 ^ 32
  · simp only [hlong, and_true, reduceIte, Except.mapError, Except.error.injEq]
    exact eq_comm
  · simp only [hlong, and_false, reduceIte, Except.mapError, reduceCtorEq]

theorem invitation_error_iff {proposer : ExpertOffer} {critic : Option ExpertOffer}
    {fault : Envelope.Fault} : m.invitation a proposer critic fresh = .error fault ↔
      m.envelope.encryptText fresh.nonce a.prompt
        (Utf8.encode (fitField requestIdWidth a.request.id)) = .error fault := by
  unfold invitation
  dsimp only
  cases hseal : m.envelope.encryptText fresh.nonce a.prompt
      (Utf8.encode (fitField requestIdWidth a.request.id)) with
  | error f => simp [bind, Except.bind]
  | ok blob => simp [bind, Except.bind, pure, Except.pure]

/-- A search that finds experts fails for the cipher, and keeps everything. -/
theorem onTimeout_error_of_finds (ha : m.active = some a) (hs : a.session = none)
    (hfinds : a.discovery.Finds a.request.intent) :
    m.onTimeout fresh = (m', .error fault) ↔ Blocked m fresh a fault ∧ m' = m := by
  obtain ⟨proposer, -, heq⟩ := onTimeout_of_finds fresh ha hs hfinds
  rw [heq]
  constructor
  · intro hfails
    rcases m.startSession_cases a (a.discovery.select a.request m.reputation) proposer fresh with
      ⟨f, hi, hstart⟩ | ⟨i, -, hstart⟩
    · rw [hstart] at hfails
      cases hfails
      exact ⟨.unsealed hfinds (invitation_error_iff.mp hi), rfl⟩
    · rw [hstart] at hfails
      cases hfails
  · rintro ⟨hblocked, rfl⟩
    cases hblocked with
    | unsealed _ refused => rw [startSession, invitation_error_iff.mpr refused]
    | unframed alone => exact absurd hfinds alone

theorem escalate_error_iff : m.escalate a = (m', .error fault) ↔
    a.discovery.phase = .local ∧ encodeFor .backbone (.routing a.request) = .error fault ∧
      m' = m.strand a := by
  unfold escalate
  cases hphase : a.discovery.phase with
  | backbone => simp
  | «local» =>
    cases he : encodeFor .backbone (.routing a.request) with
    | error f => simp [strand, and_comm, eq_comm]
    | ok bytes => simp

/-- A search that finds no experts fails for the cap on frames, and is on the backbone then. -/
theorem onTimeout_error_of_not_finds (ha : m.active = some a) (hs : a.session = none)
    (hv : (Message.routing a.request).isValid = true)
    (hnone : ¬ a.discovery.Finds a.request.intent) :
    m.onTimeout fresh = (m', .error fault) ↔ Blocked m fresh a fault ∧ m' = m.strand a := by
  rw [onTimeout_of_not_finds fresh ha hs hnone, escalate_error_iff,
    encodeFor_backbone_error_iff hv]
  constructor
  · rintro ⟨hphase, ⟨rfl, hlong⟩, rfl⟩
    exact ⟨.unframed hnone hphase hlong, rfl⟩
  · rintro ⟨hblocked, rfl⟩
    cases hblocked with
    | unsealed finds => exact absurd finds hnone
    | unframed _ phase refused => exact ⟨phase, ⟨rfl, refused⟩, rfl⟩

theorem searching_of_error (h : m.onTimeout fresh = (m', .error fault)) :
    ∃ a, m.active = some a ∧ a.session = none := by
  rcases m.onTimeout_cases fresh with ⟨-, heq⟩ | ⟨a, d, -, -, heq⟩ | ⟨a, -, ha, hs, -⟩ |
    ⟨a, ha, hs, -⟩
  · simp [heq] at h
  · simp [heq] at h
  · exact ⟨a, ha, hs⟩
  · exact ⟨a, ha, hs⟩

/-- Only a request without a frame leaves the moderator other than it was. -/
theorem onTimeout_error_iff (hm : m.Valid) : m.onTimeout fresh = (m', .error fault) ↔
    ∃ a, m.active = some a ∧ a.session = none ∧ Blocked m fresh a fault ∧
      m' = if fault = .frame .tooLarge then m.strand a else m := by
  constructor
  · intro hfails
    obtain ⟨a, ha, hs⟩ := searching_of_error hfails
    by_cases hfinds : a.discovery.Finds a.request.intent
    · obtain ⟨hblocked, hkept⟩ := (onTimeout_error_of_finds ha hs hfinds).mp hfails
      refine ⟨a, ha, hs, hblocked, ?_⟩
      cases hblocked with
      | unsealed => simpa using hkept
      | unframed alone => exact absurd hfinds alone
    · obtain ⟨hblocked, hmoved⟩ :=
        (onTimeout_error_of_not_finds ha hs (hm a ha) hfinds).mp hfails
      refine ⟨a, ha, hs, hblocked, ?_⟩
      cases hblocked with
      | unsealed finds => exact absurd finds hfinds
      | unframed => simpa using hmoved
  · rintro ⟨a, ha, hs, hblocked, rfl⟩
    cases hblocked with
    | unsealed finds refused =>
      exact (onTimeout_error_of_finds ha hs finds).mpr ⟨.unsealed finds refused, by simp⟩
    | unframed alone phase refused =>
      exact (onTimeout_error_of_not_finds ha hs (hm a ha) alone).mpr
        ⟨.unframed alone phase refused, by simp⟩

theorem strand_ne (ha : m.active = some a) (hphase : a.discovery.phase = .local) :
    m.strand a ≠ m := by
  intro h
  have hactive := congrArg Moderator.active h
  rw [ha] at hactive
  have hmoved := congrArg (fun b => b.discovery.phase) (Option.some.inj hactive)
  simp [hphase, Discovery.escalate] at hmoved

/-- On the backbone, where nobody has heard of the request, it fails. -/
theorem onTimeout_strand (hs : a.session = none)
    (hnone : ¬ a.discovery.Finds a.request.intent) (later : Fresh) :
    (m.strand a).onTimeout later = ((m.strand a).drop, .ok [.failed a.request.id]) := by
  have hactive : (m.strand a).active = some { a with discovery := a.discovery.escalate } := rfl
  rw [onTimeout_of_not_finds later hactive hs hnone, escalate_of_backbone rfl]

/-- The moderator has come here from rest. -/
def Reachable (m : Moderator) : Prop :=
  ∃ start es, start.active = none ∧ m = (run start es).1

theorem Reachable.valid (hm : m.Reachable) : m.Valid := by
  obtain ⟨start, es, hidle, rfl⟩ := hm
  exact (Valid.of_idle hidle).run

/-- A timeout fails just when it is blocked. The cipher's refusal leaves everything as it was; but a
search whose request has no frame has gone on to the backbone, and the next timeout gives the
request up although it was never sent there. -/
theorem failed_timeouts_move_the_phase (hm : m.Reachable) :
    (m.onTimeout fresh = (m', .error fault) ↔
      ∃ a, m.active = some a ∧ a.session = none ∧ Blocked m fresh a fault ∧
        m' = if fault = .frame .tooLarge then m.strand a else m) ∧
    (m.onTimeout fresh = (m', .error fault) → (m' = m ↔ fault ≠ .frame .tooLarge)) ∧
    (m.onTimeout fresh = (m', .error (.frame .tooLarge)) → ∃ a, m.active = some a ∧
      m' = m.strand a ∧ ∀ later, m'.onTimeout later = (m'.drop, .ok [.failed a.request.id])) := by
  refine ⟨onTimeout_error_iff hm.valid, ?_, ?_⟩
  · intro hfails
    obtain ⟨a, ha, -, hblocked, rfl⟩ := (onTimeout_error_iff hm.valid).mp hfails
    cases hblocked with
    | unsealed => simp
    | unframed _ phase => simp [strand_ne ha phase]
  · intro hfails
    obtain ⟨a, ha, hs, hblocked, rfl⟩ := (onTimeout_error_iff hm.valid).mp hfails
    cases hblocked with
    | unframed alone =>
      rw [if_pos rfl]
      exact ⟨a, ha, rfl, onTimeout_strand hs alone⟩

theorem submit_of_valid {prompt requestId : String} {constraints : Option Constraints}
    {now : UInt64} {r : RoutingRequest} (hr : m.requestOf prompt requestId constraints now = r)
    (hv : (Message.routing r).isValid = true)
    (hphase : (openDiscovery m.settings r).phase = .local) :
    (m.submit prompt requestId constraints now).1.active =
      some ⟨r, prompt, openDiscovery m.settings r, none⟩ := by
  subst hr
  have he : encodeFor (openDiscovery m.settings (m.requestOf prompt requestId constraints
      now)).phase.layer (.routing (m.requestOf prompt requestId constraints now)) =
      .ok (Message.routing (m.requestOf prompt requestId constraints now)).toJson.encode := by
    rw [hphase, Phase.layer, encodeFor, Message.encode_of_isValid hv]
    rfl
  unfold submit
  unfold requestOf at he ⊢
  simp only [he]

def longQuestion (n : Nat) : Event := .submit "solve code" (Frame.letters n) none 0

theorem longQuestion_blocked {n : Nat} (hlong : Frame.maxPayload ≤ n) (hn : n < 2 ^ 31) :
    ∃ a, (asker.run [longQuestion n]).1.active = some a ∧ a.session = none ∧
      Blocked (asker.run [longQuestion n]).1 fresh a (.frame .tooLarge) := by
  obtain ⟨r, hr⟩ : ∃ r, asker.requestOf "solve code" (Frame.letters n) none 0 = r := ⟨_, rfl⟩
  have hv : (Message.routing r).isValid = true := by
    rw [← hr]
    exact RoutingRequest.isValid_ofPrompt (Frame.letters_ne (Nat.lt_of_lt_of_le (by decide) hlong))
      (by decide) (by decide +kernel) 0
  have hphase : (openDiscovery asker.settings r).phase = .local := by
    rw [← hr]
    rfl
  have hlength : (Frame.payload (.routing r)).length = n + 156 := by
    have hrest : (Frame.payload (.routing (asker.requestOf "solve code" "" none 0))).length =
        156 := by decide +kernel
    rw [Frame.length_payload_routing, ← hr]
    exact congrArg₂ (· + ·) (Frame.length_encode_letters n) hrest
  have hactive : (asker.run [longQuestion n]).1.active = _ := submit_of_valid hr hv hphase
  have hnone : (openDiscovery asker.settings r).offers = [] := by
    rw [← searchAfter_nil]
    rfl
  refine ⟨_, hactive, rfl, .unframed ?_ hphase ?_⟩
  · rintro ⟨-, o, ho, -⟩
    simp [hnone] at ho
  · dsimp only
    rw [hlength]
    simp only [Frame.maxPayload] at *
    omega

theorem longQuestion_reachable (n : Nat) : (asker.run [longQuestion n]).1.Reachable :=
  ⟨asker, _, rfl, rfl⟩

theorem failed_timeouts_move_the_phase_longQuestion :
    (asker.run [longQuestion 65536]).1.Reachable ∧
    ∃ m', (asker.run [longQuestion 65536]).1.onTimeout ⟨"", []⟩ = (m', .error (.frame .tooLarge)) ∧
      m' ≠ (asker.run [longQuestion 65536]).1 ∧
      (m'.onTimeout ⟨"", []⟩).1.isIdle = true := by
  have hreach := longQuestion_reachable 65536
  obtain ⟨a, ha, hs, hblocked⟩ := @longQuestion_blocked ⟨"", []⟩ 65536 (by decide) (by decide)
  obtain ⟨hiff, -, -⟩ := @failed_timeouts_move_the_phase _
    ((asker.run [longQuestion 65536]).1.strand a) ⟨"", []⟩ (.frame .tooLarge) hreach
  have hfails := hiff.mpr ⟨a, ha, hs, hblocked, rfl⟩
  obtain ⟨-, hkept, hnext⟩ := failed_timeouts_move_the_phase hreach
  obtain ⟨b, -, -, hgone⟩ := hnext hfails
  refine ⟨hreach, _, hfails, fun hsame => ?_, ?_⟩
  · exact (hkept hfails).mp hsame rfl
  · rw [hgone]
    rfl

/-- The timeout fails, and the search that was local is on the backbone. -/
theorem unframed_requests_leave_the_mesh : ∃ m' a b fault,
    (asker.run [longQuestion 65536]).1.Reachable ∧
    (asker.run [longQuestion 65536]).1.onTimeout ⟨"", []⟩ = (m', .error fault) ∧
    (asker.run [longQuestion 65536]).1.active = some a ∧ a.discovery.phase = .local ∧
    m'.active = some b ∧ b.discovery.phase = .backbone := by
  obtain ⟨a, ha, hs, hblocked⟩ := @longQuestion_blocked ⟨"", []⟩ 65536 (by decide) (by decide)
  have hreach := longQuestion_reachable 65536
  have hfails := (onTimeout_error_iff hreach.valid).mpr ⟨a, ha, hs, hblocked, rfl⟩
  have hphase : a.discovery.phase = .local := by
    cases hblocked with
    | unframed _ phase => exact phase
  exact ⟨_, a, _, _, hreach, hfails, ha, hphase, rfl, rfl⟩

end Moderator

end DebateMesh

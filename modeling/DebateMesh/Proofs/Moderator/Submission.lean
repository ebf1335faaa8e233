import DebateMesh.Proofs.Completion
import DebateMesh.Proofs.Moderator.Failure
import DebateMesh.Proofs.PayloadHash

namespace DebateMesh

/-- Below `2 ^ 32` octets a message is encoded for a layer just when it is valid and fits. -/
theorem encodeFor_ok_iff {layer : Layer} {m : Message}
    (hsmall : (Frame.payload m).length < 2 ^ 32) :
    (∃ bs, encodeFor layer m = .ok bs) ↔ m.isValid = true ∧ layer.Fits m := by
  constructor
  · rintro ⟨bs, he⟩
    have hv := isValid_of_encodeFor he
    refine ⟨hv, ?_⟩
    rintro rfl
    by_contra hlong
    have hcut := Nat.mod_eq_of_lt hsmall
    have hfails := (Moderator.encodeFor_backbone_error_iff hv).mpr ⟨rfl, by omega⟩
    rw [he] at hfails
    cases hfails
  · rintro ⟨hv, hfits⟩
    obtain ⟨bs, he, -⟩ := encodeFor_of_fits hv hfits
    exact ⟨bs, he⟩

theorem Layer.fits_ite_iff {isLocal : Bool} {m : Message} :
    Layer.Fits (if isLocal then .mesh else .backbone) m ↔
      (isLocal = false → (Frame.payload m).length ≤ Frame.maxPayload) := by
  cases isLocal with
  | false => exact ⟨fun h _ => h rfl, fun h _ => h rfl⟩
  | true => exact ⟨fun _ h => Bool.noConfusion h, fun _ h => Layer.noConfusion h⟩

theorem decode_of_encodeFor_mesh {m : Message} {bs : Bytes} (h : encodeFor .mesh m = .ok bs) :
    Message.decode bs = .ok m := by
  obtain ⟨_, he, hbytes⟩ := Datagram.ofMessage?_mesh (Datagram.ofMessage?_of_encodeFor h)
  cases hbytes
  exact Message.decode_encode he

theorem decode_of_encodeFor_backbone {m : Message} {bs : Bytes}
    (hsmall : (Frame.payload m).length < 2 ^ 32) (h : encodeFor .backbone m = .ok bs) :
    Frame.decode bs = .ok (m, bs.length) := by
  obtain ⟨hv, hfits⟩ := (encodeFor_ok_iff hsmall).mp ⟨bs, h⟩
  obtain ⟨_, he, hbytes⟩ := Datagram.ofMessage?_backbone (Datagram.ofMessage?_of_encodeFor h)
  cases hbytes
  obtain ⟨f, he', hd⟩ := Frame.decode_encode_append hv (hfits rfl) []
  rw [he] at he'
  cases he'
  rwa [List.append_nil] at hd

/-- A prompt of any text makes a valid request, as long as the names and the constraints are. -/
theorem RoutingRequest.isValid_ofPrompt_iff {prompt origin id : String} {c : Constraints}
    {now : UInt64} : (Message.routing (.ofPrompt prompt origin id c now)).isValid = true ↔
      id ≠ "" ∧ origin ≠ "" ∧ 0 < c.maxLatency ∧ c.minReputation ≤ 100 ∧
        c.costCap.isFinite = true ∧ Binary64.zero.le c.costCap = true := by
  rw [Message.isValid_routing, ofPrompt, isNonNegative, Bool.and_eq_true]
  constructor
  · rintro ⟨⟨hid, horigin, -⟩, -, hlatency, hreputation, hcost⟩
    exact ⟨hid, horigin, hlatency, hreputation, hcost⟩
  · rintro ⟨hid, horigin, hlatency, hreputation, hcost⟩
    exact ⟨⟨hid, horigin, PayloadHash.isHash_ofPrompt prompt⟩,
      Classification.intent_spec (isUnit_classify prompt), hlatency, hreputation, hcost⟩

namespace Moderator

variable {m : Moderator} {prompt requestId : String} {constraints : Option Constraints}
  {now : UInt64}

/-- A submission is accepted just when its request is encoded for its first layer. -/
theorem submit_ok_iff : (∃ actions, (m.submit prompt requestId constraints now).2 = .ok actions) ↔
    ∃ bytes, encodeFor (m.requestOf prompt requestId constraints now).firstLayer
      (.routing (m.requestOf prompt requestId constraints now)) = .ok bytes := by
  constructor
  · rintro ⟨actions, hok⟩
    rcases m.submit_cases prompt requestId constraints now with ⟨f, heq⟩ | ⟨bytes, he, -⟩
    · rw [heq] at hok
      cases hok
    · rw [openDiscovery_layer] at he
      exact ⟨bytes, he⟩
  · rintro ⟨bytes, he⟩
    rw [submit_of_encodeFor rfl he]
    exact ⟨_, rfl⟩

/-- A submission is accepted just when it is named, its constraints make sense and, if it goes to
the backbone, its request fits a frame; the prompt does not count. What is broadcast is read as the
request that is now active, which is about what the prompt is about, and whose hash is matched by
texts with the digest of the prompt only. -/
theorem submissions_are_accepted
    (hsmall : (Frame.payload (.routing (m.requestOf prompt requestId constraints now))).length <
      2 ^ 32) :
    let c := constraints.getD {}
    ((∃ actions, (m.submit prompt requestId constraints now).2 = .ok actions) ↔
      requestId ≠ "" ∧ m.nodeId ≠ "" ∧
      (0 < c.maxLatency ∧ c.minReputation ≤ 100 ∧
        c.costCap.isFinite = true ∧ Binary64.zero.le c.costCap = true) ∧
      (c.preferLocal = false →
        (Frame.payload (.routing (m.requestOf prompt requestId constraints now))).length ≤
          65536)) ∧
    ∀ m' actions, m.submit prompt requestId constraints now = (m', .ok actions) →
      ∃ layer bytes delay a, actions = [.broadcast layer bytes, .armTimer delay] ∧
        m'.active = some a ∧
        (c.preferLocal = true → layer = .mesh ∧ Message.decode bytes = .ok (.routing a.request)) ∧
        (c.preferLocal = false → layer = .backbone ∧
          Frame.decode bytes = .ok (.routing a.request, bytes.length)) ∧
        a.request.intent = (classify prompt).intent ∧
        ∀ text, PayloadHash.verify text a.request.payloadHash = true ↔
          Sha256.hash (Utf8.encode text) = Sha256.hash (Utf8.encode prompt) := by
  intro c
  have hlocal : (m.requestOf prompt requestId constraints now).firstLayer =
      if c.preferLocal then .mesh else .backbone := rfl
  constructor
  · rw [submit_ok_iff, encodeFor_ok_iff hsmall, hlocal, Layer.fits_ite_iff, requestOf,
      RoutingRequest.isValid_ofPrompt_iff, and_assoc, and_assoc]
    exact Iff.rfl
  · intro m' actions heq
    obtain ⟨bytes, he⟩ := submit_ok_iff.mp ⟨actions, congrArg Prod.snd heq⟩
    rw [submit_of_encodeFor rfl he] at heq
    cases heq
    rw [hlocal] at he
    refine ⟨_, bytes, _, _, rfl, rfl, fun hmesh => ?_, fun hbackbone => ?_, rfl, fun text =>
      PayloadHash.verify_ofPrompt_iff⟩
    · rw [hmesh] at he
      exact ⟨hlocal.trans (if_pos hmesh), decode_of_encodeFor_mesh he⟩
    · rw [hbackbone] at he
      exact ⟨hlocal.trans (by rw [hbackbone]; rfl), decode_of_encodeFor_backbone hsmall he⟩

/-- The request goes to the backbone at once. -/
def remoteCode : RoutingRequest :=
  asker.requestOf "solve code" "r" (some { preferLocal := false }) 0

theorem submissions_are_accepted_remoteCode :
    (Frame.payload (.routing remoteCode)).length < 2 ^ 32 ∧
    ∃ m' bytes delay a,
      asker.submit "solve code" "r" (some { preferLocal := false }) 0 =
        (m', .ok [.broadcast .backbone bytes, .armTimer delay]) ∧
      m'.active = some a ∧ Frame.decode bytes = .ok (.routing a.request, bytes.length) ∧
      PayloadHash.verify "solve code" a.request.payloadHash = true := by
  have hsmall : (Frame.payload (.routing remoteCode)).length ≤ 65536 := by decide +kernel
  have hbelow : (Frame.payload (.routing remoteCode)).length < 2 ^ 32 := by omega
  have ⟨haccepted, hbroadcast⟩ := submissions_are_accepted hbelow
  have ⟨actions, hok⟩ := haccepted.mpr ⟨by decide, by decide, by decide +kernel, fun _ => hsmall⟩
  cases hsubmit : asker.submit "solve code" "r" (some { preferLocal := false }) 0 with
  | mk m' result =>
    rw [hsubmit] at hok
    cases hok
    have ⟨layer, bytes, delay, a, hactions, hactive, _, hbackbone, _, hhash⟩ :=
      hbroadcast m' actions hsubmit
    have ⟨hlayer, hdecode⟩ := hbackbone rfl
    rw [hlayer] at hactions
    exact ⟨hbelow, m', bytes, delay, a, by rw [hactions], hactive, hdecode,
      (hhash _).mpr rfl⟩

end Moderator

end DebateMesh

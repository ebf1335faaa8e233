import DebateMesh.Proofs.Guardian.Memory
import Mathlib.Data.List.Nodup

namespace DebateMesh.Guardian

variable {g : Guardian} {i : SessionInit} {e : Envelope} {role : Role} {r : RoutingRequest}
  {front back pending : List RoutingRequest} {prompt : String}

/-- Of the requests that wait `r` is the first that the header shows. -/
structure Oldest (pending : List RoutingRequest) (headerId : String) (front : List RoutingRequest)
    (r : RoutingRequest) (back : List RoutingRequest) : Prop where
  split : pending = front ++ r :: back
  shown : r.showsAs headerId = true
  before : ∀ q ∈ front, q.showsAs headerId = false

theorem Oldest.extract {headerId : String} (h : Oldest pending headerId front r back) :
    extract (·.showsAs headerId) pending = some (r, front ++ back) := by
  rw [h.split]
  exact extract_of_first h.before h.shown

theorem exists_oldest {headerId : String} (hr : r ∈ pending) (hshown : r.showsAs headerId = true) :
    ∃ front q back, Oldest pending headerId front q back := by
  cases hex : DebateMesh.extract (·.showsAs headerId) pending with
  | none =>
    rw [extract_eq_none_iff.mp hex r hr] at hshown
    cases hshown
  | some found =>
    obtain ⟨front, back, hsplit, -, hq, hfront⟩ := extract_eq_some hex
    exact ⟨front, found.1, back, hsplit, hq, hfront⟩

theorem join_pending (g : Guardian) (sessionId prompt : String) (role : Role) :
    (g.join sessionId prompt role).1.pending = g.pending := by
  cases role with
  | critic => rfl
  | proposer =>
    cases hbusy : g.isSaturated with
    | false => rw [join, acquire_of_free hbusy]
    | true => rw [join, acquire_of_saturated hbusy]

/-- The oldest request that is shown decides. -/
theorem onInit_of_oldest (named : i.roleOf g.nodeId = some role)
    (opened : e.decryptText i.encryptedPrompt (Utf8.encode i.requestId) = some prompt)
    (h : Oldest g.pending i.requestId front r back) :
    g.onInit i e = if PayloadHash.verify prompt r.payloadHash then
      .ok ({ g with pending := front ++ back }.join i.sessionId prompt role)
    else .error .integrity := by
  unfold onInit
  rw [named]
  dsimp only
  rw [h.extract]
  dsimp only
  rw [opened]

theorem joins_oldest (named : i.roleOf g.nodeId = some role)
    (opened : e.decryptText i.encryptedPrompt (Utf8.encode i.requestId) = some prompt)
    (h : Oldest g.pending i.requestId front r back)
    (hv : PayloadHash.verify prompt r.payloadHash = true) :
    ∃ g' a, g.onInit i e = .ok (g', a) ∧ g'.pending = front ++ back := by
  rw [onInit_of_oldest named opened h, if_pos hv]
  exact ⟨_, _, rfl, join_pending _ _ _ _⟩

theorem onInit_integrity_iff (named : i.roleOf g.nodeId = some role)
    (opened : e.decryptText i.encryptedPrompt (Utf8.encode i.requestId) = some prompt) :
    g.onInit i e = .error .integrity ↔ ∃ front r back, Oldest g.pending i.requestId front r back ∧
      PayloadHash.verify prompt r.payloadHash = false := by
  constructor
  · intro hrefused
    cases hex : extract (·.showsAs i.requestId) g.pending with
    | none =>
      unfold onInit at hrefused
      rw [named, hex] at hrefused
      cases hrefused
    | some found =>
      obtain ⟨front, back, hsplit, -, hq, hfront⟩ := extract_eq_some hex
      have hold : Oldest g.pending i.requestId front found.1 back := ⟨hsplit, hq, hfront⟩
      refine ⟨front, found.1, back, hold, Bool.eq_false_iff.mpr fun hv => ?_⟩
      rw [onInit_of_oldest named opened hold, if_pos hv] at hrefused
      cases hrefused
  · rintro ⟨front, r, back, hold, hv⟩
    rw [onInit_of_oldest named opened hold, hv]
    rfl

theorem after_profile (p : Profile) (cs : List Call) : (after p cs).profile = p :=
  Machine.history (I := fun _ g => g.profile = p)
    (fun _ g c h => (perform_moves g c).profile.trans h) rfl cs

/-- An invitation that names the expert, with a prompt that it can open, is answered by the oldest
request that the header shows: if that one announced the prompt, the expert takes it out and joins,
and else it refuses the prompt. Where identifiers fit the header, the request that announced the
prompt is the one that is found. -/
theorem oldest_requests_answer_sessions (p : Profile) (cs : List Call) {i : SessionInit}
    {e : Envelope} {role : Role} {prompt : String} (named : i.roleOf p.nodeId = some role)
    (opened : e.decryptText i.encryptedPrompt (Utf8.encode i.requestId) = some prompt) :
    (∀ front r back, Oldest (after p cs).pending i.requestId front r back →
      PayloadHash.verify prompt r.payloadHash = true →
      ∃ g' a, (after p cs).onInit i e = .ok (g', a) ∧ g'.pending = front ++ back) ∧
    ((after p cs).onInit i e = .error .integrity ↔
      ∃ front r back, Oldest (after p cs).pending i.requestId front r back ∧
        PayloadHash.verify prompt r.payloadHash = false) ∧
    ((∀ q ∈ (after p cs).pending, fitField requestIdWidth q.id = q.id) →
      ∀ r ∈ (after p cs).pending, r.showsAs i.requestId = true →
        PayloadHash.verify prompt r.payloadHash = true →
        ∃ g' a front back, (after p cs).onInit i e = .ok (g', a) ∧
          (after p cs).pending = front ++ r :: back ∧ g'.pending = front ++ back) := by
  have named : i.roleOf (after p cs).nodeId = some role := by
    rw [nodeId, after_profile]
    exact named
  refine ⟨fun front r back hold hv => joins_oldest named opened hold hv,
    onInit_integrity_iff named opened, fun hfits r hr hshown hv => ?_⟩
  obtain ⟨front, q, back, hold⟩ := exists_oldest hr hshown
  have hq : q ∈ (after p cs).pending := by rw [hold.split]; simp
  have hid : q.id = r.id := by
    rw [← hfits q hq, ← hfits r hr, beq_iff_eq.mp hold.shown, beq_iff_eq.mp hshown]
  obtain rfl := List.inj_on_of_nodup_map (ordered_after p cs).ids hq hr hid
  obtain ⟨g', a, hjoins, hpending⟩ := joins_oldest named opened hold hv
  exact ⟨g', a, front, back, hjoins, hold.split, hpending⟩

theorem oldest_requests_answer_sessions_coder :
    ∃ g' a, (after (coder [] 0).profile [.offer (codeRequest "r")]).onInit codeInvitation .zero =
      .ok (g', a) ∧ g'.pending = [] := by
  have hend : after (coder [] 0).profile [.offer (codeRequest "r")] = coder [codeRequest "r"] 0 :=
    congrArg Prod.fst (coder_offers (by decide))
  obtain ⟨hjoins, -⟩ := oldest_requests_answer_sessions (coder [] 0).profile
    [.offer (codeRequest "r")] (by decide : codeInvitation.roleOf "!p" = some .proposer)
    codeInvitation_opens
  refine hjoins [] (codeRequest "r") [] ⟨?_, by decide, List.forall_mem_nil _⟩
    (PayloadHash.verify_ofPrompt _)
  rw [hend]
  rfl

/-- Two requests whose identifiers differ behind the octets that a header has room for. -/
def olderRequest : RoutingRequest := codeRequest "req_0000000000010"

def youngerRequest : RoutingRequest :=
  { codeRequest "req_0000000000011" with payloadHash := PayloadHash.ofPrompt "write code" }

def shortenedInvitation : SessionInit :=
  sealedInvitation "s" "req_000000000001" "write code" "!p" none

theorem after_lookalikes :
    after (coder [] 0).profile [.offer olderRequest, .offer youngerRequest] =
      coder [olderRequest, youngerRequest] 0 := by
  have hfirst : (coder [] 0).perform (.offer olderRequest) = (coder [olderRequest] 0, _) :=
    perform_offer (by decide +kernel)
  have hsecond : (coder [olderRequest] 0).perform (.offer youngerRequest) =
      (coder [olderRequest, youngerRequest] 0, _) :=
    perform_offer (by decide +kernel)
  change Machine.final perform (coder [] 0) _ = _
  rw [Machine.final, hfirst, Machine.final, hsecond]
  rfl

/-- The session is for the younger request, whose prompt it carries; it is refused because of the
older one. -/
theorem lookalikes_hide_requests : ∃ p cs i e role r prompt,
    i.roleOf p.nodeId = some role ∧
    e.decryptText i.encryptedPrompt (Utf8.encode i.requestId) = some prompt ∧
    r ∈ (after p cs).pending ∧ r.showsAs i.requestId = true ∧
    PayloadHash.verify prompt r.payloadHash = true ∧
    (after p cs).onInit i e = .error .integrity := by
  have named : shortenedInvitation.roleOf "!p" = some .proposer := by decide
  have opened : Envelope.zero.decryptText shortenedInvitation.encryptedPrompt
      (Utf8.encode shortenedInvitation.requestId) = some "write code" :=
    sealedInvitation_opens "s" "!p" none (by decide) (by decide)
  have hother : PayloadHash.verify "write code" olderRequest.payloadHash = false := by
    decide +kernel
  refine ⟨(coder [] 0).profile, [.offer olderRequest, .offer youngerRequest], shortenedInvitation,
    .zero, .proposer, youngerRequest, "write code", named, opened, ?_⟩
  rw [after_lookalikes]
  refine ⟨by simp [coder], by decide +kernel, PayloadHash.verify_ofPrompt _, ?_⟩
  rw [@onInit_of_oldest (coder [olderRequest, youngerRequest] 0) _ _ _ _ [] [youngerRequest] _ named
    opened ⟨rfl, by decide +kernel, List.forall_mem_nil _⟩, hother]
  rfl

end DebateMesh.Guardian

import DebateMesh.Classifier
import DebateMesh.Proofs.Binary64.Order
import DebateMesh.Proofs.Message.Json

namespace DebateMesh

namespace PayloadHash

theorem digit_isDigit (n : Nat) (h : n < 16) :
    (Utf8.encodeChar (Hex.digit n)).length = 1 ∧
      (Utf8.encodeChar (Hex.digit n)).all Hex.isDigit = true := by
  revert n
  decide

theorem encodeChars_hex (bs : Bytes) :
    (Utf8.encodeChars (Hex.encodeChars bs)).length = 2 * bs.length ∧
      (Utf8.encodeChars (Hex.encodeChars bs)).all Hex.isDigit = true := by
  induction bs with
  | nil => exact ⟨rfl, rfl⟩
  | cons b bs ih =>
    have hb : b.toNat < 256 := b.toNat_lt
    obtain ⟨hhigh, hhigh'⟩ := digit_isDigit (b.toNat / 16) (by omega)
    obtain ⟨hlow, hlow'⟩ := digit_isDigit (b.toNat % 16) (by omega)
    have hsplit : Utf8.encodeChars (Hex.encodeChars (b :: bs)) =
        Utf8.encodeChar (Hex.digit (b.toNat / 16)) ++ (Utf8.encodeChar (Hex.digit (b.toNat % 16)) ++
          Utf8.encodeChars (Hex.encodeChars bs)) := rfl
    rw [hsplit]
    constructor
    · rw [List.length_append, List.length_append, hhigh, hlow, ih.1, List.length_cons]
      omega
    · rw [List.all_append, List.all_append, hhigh', hlow', ih.2]
      rfl

theorem isHash_ofPrompt (prompt : String) : isHash (ofPrompt prompt) = true := by
  have hlen : (Sha256.hash (Utf8.encode prompt)).length = 32 := by
    unfold Sha256.hash Sha256.State.bytes Bytes.ofNatBE
    simp
  obtain ⟨h1, h2⟩ := encodeChars_hex (Sha256.hash (Utf8.encode prompt))
  have htext : Utf8.encode (ofPrompt prompt) =
      Utf8.encodeChars (Hex.encodeChars (Sha256.hash (Utf8.encode prompt))) := by
    rw [Utf8.encode, ofPrompt, Hex.encode, String.toList_ofList]
  unfold isHash
  dsimp only
  rw [htext, h1, h2, hlen]
  rfl

end PayloadHash

theorem Topic.name_ne (t : Topic) : t.name ≠ "" := by
  cases t <;> decide

/-- Every score that a topic can have makes a confidence between zero and one. -/
theorem Topic.confidence_isUnit : ∀ t ∈ Topic.scored, ∀ hits < t.patterns.length + 1,
    isUnit (((((Binary64.ofRatio false hits (Nat.max t.patterns.length 1)).min Binary64.one).add
      confidenceBoost).min Binary64.one)) = true := by
  decide +kernel

theorem Topic.hits_le (t : Topic) (text : List Char) : t.hits text ≤ t.patterns.length :=
  List.length_filter_le _ _

/-- A topic with a score that it can have. -/
def Topic.CanScore (s : Scored) : Prop :=
  s.1 ∈ Topic.scored ∧ ∃ hits ≤ s.1.patterns.length,
    s.2 = (Binary64.ofRatio false hits (Nat.max s.1.patterns.length 1)).min Binary64.one

theorem Topic.canScore {t : Topic} (ht : t ∈ Topic.scored) (text : List Char) :
    Topic.CanScore (t, t.score text) := by
  refine ⟨ht, t.hits text, t.hits_le text, ?_⟩
  dsimp only
  rw [Topic.score]

theorem isUnit_classifyRanked {scores : List Scored} (h : ∀ s ∈ scores, Topic.CanScore s) :
    isUnit (classifyRanked scores).confidence = true := by
  cases scores with
  | nil => decide +kernel
  | cons s rest =>
    obtain ⟨ht, hits, hle, hs⟩ := h s List.mem_cons_self
    obtain ⟨topic, score⟩ := s
    dsimp only at ht hle hs
    unfold classifyRanked
    dsimp only
    split
    · decide +kernel
    · dsimp only
      rw [hs]
      exact Topic.confidence_isUnit topic ht hits (Nat.lt_succ_of_le hle)

theorem mem_rankTopics {scores : List Scored} {s : Scored} :
    s ∈ rankTopics scores ↔ s ∈ scores := (perm_rankBy _ _).mem_iff

theorem isUnit_classify (text : String) : isUnit (classify text).confidence = true := by
  rw [classify]
  apply isUnit_classifyRanked
  intro s hs
  obtain ⟨t, ht, rfl⟩ := List.mem_map.mp (mem_rankTopics.mp hs)
  exact Topic.canScore ht text.toList

/-- The intent of a request names a topic, with its confidence. -/
theorem Classification.intent_spec {c : Classification} (h : isUnit c.confidence = true) :
    c.intent.primary ≠ "" ∧ isUnit c.intent.confidence = true := ⟨Topic.name_ne c.primary, h⟩

/-- A request for a prompt is valid as soon as it is named, it comes from somewhere, and its
constraints are. -/
theorem RoutingRequest.isValid_ofPrompt {prompt origin id : String} {constraints : Constraints}
    (hid : id ≠ "") (ho : origin ≠ "") (hc : ∀ c ∈ constraints.checks, c.1 = true) (now : UInt64) :
    (Message.routing (.ofPrompt prompt origin id constraints now)).isValid = true := by
  simp only [Constraints.checks, List.forall_mem_cons, decide_eq_true_eq] at hc
  rw [Message.isValid_routing, ofPrompt]
  exact ⟨⟨hid, ho, PayloadHash.isHash_ofPrompt prompt⟩,
    Classification.intent_spec (isUnit_classify prompt), hc.1, hc.2.1, hc.2.2.1⟩

end DebateMesh

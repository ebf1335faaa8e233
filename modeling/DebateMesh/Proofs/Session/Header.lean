import DebateMesh.Proofs.Text.Utf8
import DebateMesh.Session.Header
import DebateMesh.Session.Identifier
import Mathlib.Data.List.DropRight

namespace DebateMesh

open Utf8 (encodeChars encodeChar width encodeChars_append length_encodeChars_cons
  length_le_of_front)

section Filling

variable {α : Type} {p : α → Bool} {x : α}

/-- More filling is taken off like the rest. -/
theorem rdropWhile_append_replicate (hx : p x = true) (l : List α) (n : Nat) :
    (l ++ List.replicate n x).rdropWhile p = l.rdropWhile p := by
  induction n with
  | zero => rw [List.replicate_zero, List.append_nil]
  | succ n ih =>
    rw [List.replicate_succ', ← List.append_assoc, List.rdropWhile_concat_pos _ _ _ hx, ih]

/-- What is taken off is filling, all of it. -/
theorem rdropWhile_append_filling [BEq α] [LawfulBEq α] (x : α) (l : List α) :
    l.rdropWhile (· == x) ++ List.replicate (l.length - (l.rdropWhile (· == x)).length) x = l := by
  have hsplit : l.rdropWhile (· == x) ++ l.rtakeWhile (· == x) = l :=
    List.rdropWhile_append_rtakeWhile
  have hlen : l.length - (l.rdropWhile (· == x)).length = (l.rtakeWhile (· == x)).length := by
    have h := congrArg List.length hsplit
    rw [List.length_append] at h
    omega
  have hfilling : l.rtakeWhile (· == x) = List.replicate (l.rtakeWhile (· == x)).length x := by
    apply List.eq_replicate_of_mem
    intro y hy
    simpa using List.mem_rtakeWhile_imp hy
  rw [hlen, ← hfilling]
  exact hsplit

end Filling

theorem trimNuls_eq (cs : List Char) : trimNuls cs = cs.rdropWhile (· == '\x00') := rfl

theorem trimZeros_eq (bs : Bytes) : trimZeros bs = bs.rdropWhile (· == 0) := rfl

/-- A text without NULs at its end. -/
def Trimmed (cs : List Char) : Prop := trimNuls cs = cs

theorem trimmed_iff {cs : List Char} : Trimmed cs ↔ ∀ h : cs ≠ [], cs.getLast h ≠ '\x00' := by
  rw [Trimmed, trimNuls_eq, List.rdropWhile_eq_self_iff]
  simp only [beq_iff_eq, ne_eq]

theorem trimmed_trimNuls (cs : List Char) : Trimmed (trimNuls cs) := by
  rw [Trimmed, trimNuls_eq, trimNuls_eq, List.rdropWhile_idempotent]

theorem length_takeWidth (w : Nat) (cs : List Char) :
    (encodeChars (takeWidth w cs)).length ≤ w := by
  induction cs generalizing w with
  | nil => exact Nat.zero_le w
  | cons c cs ih =>
    rw [takeWidth]
    split
    · have h := ih (w - width c)
      rw [length_encodeChars_cons]
      omega
    · exact Nat.zero_le w

theorem takeWidth_of_length {w : Nat} {cs : List Char} (h : (encodeChars cs).length ≤ w) :
    takeWidth w cs = cs := by
  induction cs generalizing w with
  | nil => rfl
  | cons c cs ih =>
    rw [length_encodeChars_cons] at h
    rw [takeWidth, if_pos (by omega), ih (by omega)]

theorem toList_fitField (w : Nat) (s : String) :
    (fitField w s).toList = trimNuls (takeWidth w s.toList) := String.toList_ofList

theorem length_fitField (w : Nat) (s : String) : (Utf8.encode (fitField w s)).length ≤ w := by
  rw [Utf8.encode, toList_fitField, trimNuls_eq]
  exact (length_le_of_front (List.rdropWhile_prefix _ _)).trans (length_takeWidth w s.toList)

theorem trimmed_fitField (w : Nat) (s : String) : Trimmed (fitField w s).toList := by
  rw [toList_fitField]
  exact trimmed_trimNuls _

theorem fitField_eq_self {w : Nat} {s : String} (hl : (Utf8.encode s).length ≤ w)
    (ht : Trimmed s.toList) : fitField w s = s := by
  rw [fitField, takeWidth_of_length hl, ht, String.ofList_toList]

@[simp] theorem fitField_fitField (w : Nat) (s : String) :
    fitField w (fitField w s) = fitField w s :=
  fitField_eq_self (length_fitField w s) (trimmed_fitField w s)

theorem encodeChar_getLast {c : Char} (h : c ≠ '\x00') :
    ∃ front b, encodeChar c = front ++ [b] ∧ b ≠ 0 := by
  have hpos : 0 < c.toNat := by
    rcases Nat.eq_zero_or_pos c.toNat with h0 | h0
    · exact absurd (Char.toNat_inj.mp h0) h
    · exact h0
  have hne {n : Nat} (h0 : 0 < n) (hn : n < 256) : UInt8.ofNat n ≠ 0 := by
    intro hz
    have hto := Utf8.toNat_octet hn
    rw [hz] at hto
    exact absurd hto (by simp only [UInt8.toNat_zero]; omega)
  unfold encodeChar
  dsimp only
  split
  · exact ⟨[], _, rfl, hne hpos (by omega)⟩
  split
  · exact ⟨[_], _, rfl, hne (by omega) (by omega)⟩
  split
  · exact ⟨[_, _], _, rfl, hne (by omega) (by omega)⟩
  · exact ⟨[_, _, _], _, rfl, hne (by omega) (by omega)⟩

theorem rdropWhile_zeros (bs : Bytes) (n : Nat) :
    trimZeros (bs ++ List.replicate n 0) = trimZeros bs := rdropWhile_append_replicate rfl bs n

/-- The filling behind a trimmed text, and no more, is taken off. -/
theorem trimZeros_encodeChars {cs : List Char} (h : Trimmed cs) (n : Nat) :
    trimZeros (encodeChars cs ++ List.replicate n 0) = encodeChars cs := by
  rw [rdropWhile_zeros, trimZeros_eq]
  rcases List.eq_nil_or_concat cs with rfl | ⟨front, c, rfl⟩
  · rfl
  · have hc : c ≠ '\x00' := by
      have hlast := trimmed_iff.mp h (by simp)
      simpa using hlast
    obtain ⟨bs, b, hb, hb0⟩ := encodeChar_getLast hc
    have hsplit : encodeChars (front ++ [c]) = encodeChars front ++ bs ++ [b] := by
      rw [encodeChars_append, List.append_assoc, ← hb]
      simp [encodeChars]
    rw [List.concat_eq_append, hsplit, List.rdropWhile_concat_neg]
    simpa using hb0

theorem length_putField (w : Nat) (s : String) : (putField w s).length = w := by
  have h := length_fitField w s
  unfold putField
  rw [List.length_append, List.length_replicate]
  omega

theorem readField_putField (f : HeaderField) (w : Nat) (s : String) :
    readField f (putField w s) = .ok (fitField w s) := by
  unfold readField putField Utf8.encode
  rw [trimZeros_encodeChars (trimmed_fitField w s)]
  have h := Utf8.decode_encode (fitField w s)
  rw [Utf8.encode] at h
  rw [h]

theorem hexDigit_plain (n : Nat) (h : n < 16) : width (Hex.digit n) = 1 ∧ Hex.digit n ≠ '\x00' := by
  revert n
  decide

theorem hexChars_plain {bs : Bytes} {c : Char} (h : c ∈ Hex.encodeChars bs) :
    width c = 1 ∧ c ≠ '\x00' := by
  obtain ⟨b, -, hc⟩ := List.mem_flatMap.mp h
  have hb : b.toNat < 256 := b.toNat_lt
  rcases List.mem_cons.mp hc with rfl | hc
  · exact hexDigit_plain _ (by omega)
  · rw [List.mem_singleton.mp hc]
    exact hexDigit_plain _ (by omega)

theorem length_encodeChars_of_width {cs : List Char} (h : ∀ c ∈ cs, width c = 1) :
    (encodeChars cs).length = cs.length := by
  induction cs with
  | nil => rfl
  | cons c cs ih =>
    rw [length_encodeChars_cons, h c List.mem_cons_self,
      ih fun x hx => h x (List.mem_cons_of_mem _ hx), List.length_cons, Nat.add_comm]

theorem length_hexChars (bs : Bytes) : (Hex.encodeChars bs).length = 2 * bs.length := by
  induction bs with
  | nil => rfl
  | cons b bs ih =>
    rw [Hex.encodeChars, List.flatMap_cons, List.length_append]
    rw [Hex.encodeChars] at ih
    rw [ih, List.length_cons, List.length_cons, List.length_cons, List.length_nil]
    omega

/-- The name of a session made from sixteen random octets fills its field. -/
theorem sessionIdOf_fits {random : Bytes} (h : random.length = 16) :
    fitField sessionIdWidth (sessionIdOf random) = sessionIdOf random ∧
      sessionIdOf random ≠ "" := by
  have hstamp : (stampRandom random).length = 16 := by
    rw [stampRandom, List.length_map, List.length_zipIdx, h]
  have htext : (sessionIdOf random).toList = Hex.encodeChars (stampRandom random) :=
    String.toList_ofList
  have hlen : (Hex.encodeChars (stampRandom random)).length = sessionIdWidth := by
    rw [length_hexChars, hstamp]
    rfl
  constructor
  · apply fitField_eq_self
    · rw [Utf8.encode, htext, length_encodeChars_of_width fun c hc => (hexChars_plain hc).1, hlen]
    · rw [htext, trimmed_iff]
      intro hne
      exact (hexChars_plain (List.getLast_mem hne)).2
  · intro hempty
    rw [hempty] at htext
    rw [← htext] at hlen
    cases hlen

namespace SessionInit

/-- An identifier as its field carries it, if it carries anything. -/
def fittedCritic (criticId : Option String) : Option String :=
  let id := fitField nodeIdWidth (criticId.getD "")
  if id = "" then none else some id

/-- The invitation as its header tells it. -/
def fitted (i : SessionInit) : SessionInit :=
  { sessionId := fitField sessionIdWidth i.sessionId
    requestId := fitField requestIdWidth i.requestId
    proposerId := fitField nodeIdWidth i.proposerId
    criticId := fittedCritic i.criticId
    encryptedPrompt := i.encryptedPrompt }

theorem ofFields_putField {i : SessionInit} (hs : fitField sessionIdWidth i.sessionId ≠ "")
    (hp : fitField nodeIdWidth i.proposerId ≠ "") :
    ofFields (putField sessionIdWidth i.sessionId) (putField requestIdWidth i.requestId)
      (putField nodeIdWidth i.proposerId) (putField nodeIdWidth (i.criticId.getD ""))
      i.encryptedPrompt = .ok i.fitted := by
  unfold ofFields
  simp only [readField_putField]
  simp only [bind, Except.bind, if_neg hs, if_neg hp, pure, Except.pure]
  rfl

theorem ofBytes_toBytes_eq (i : SessionInit) : ofBytes i.toBytes =
    ofFields (putField sessionIdWidth i.sessionId) (putField requestIdWidth i.requestId)
      (putField nodeIdWidth i.proposerId) (putField nodeIdWidth (i.criticId.getD ""))
      i.encryptedPrompt := by
  have h1 := length_putField sessionIdWidth i.sessionId
  have h2 := length_putField requestIdWidth i.requestId
  have h3 := length_putField nodeIdWidth i.proposerId
  have h4 := length_putField nodeIdWidth (i.criticId.getD "")
  have hlen : headerWidth ≤ i.toBytes.length := by
    unfold toBytes headerWidth
    simp only [List.length_append, h1, h2, h3, h4]
    omega
  rw [ofBytes, if_neg (Nat.not_lt.mpr hlen)]
  unfold toBytes
  simp only [List.append_assoc]
  rw [List.take_left' h1, List.drop_left' h1, List.take_left' h2, List.drop_left' h2,
    List.take_left' h3, List.drop_left' h3, List.take_left' h4, List.drop_left' h4]

theorem ofBytes_toBytes {i : SessionInit} (hs : fitField sessionIdWidth i.sessionId ≠ "")
    (hp : fitField nodeIdWidth i.proposerId ≠ "") : ofBytes i.toBytes = .ok i.fitted := by
  rw [ofBytes_toBytes_eq]
  exact ofFields_putField hs hp

/-- A header whose proposer is all filling is refused. -/
theorem ofBytes_toBytes_unnamed {i : SessionInit} (hs : fitField sessionIdWidth i.sessionId ≠ "")
    (hp : fitField nodeIdWidth i.proposerId = "") :
    ofBytes i.toBytes = .error (.empty .proposerId) := by
  rw [ofBytes_toBytes_eq]
  unfold ofFields
  simp only [readField_putField]
  simp only [bind, Except.bind, if_neg hs, if_pos hp]
  rfl

theorem fitted_criticId_isSome (i : SessionInit) : i.fitted.criticId.isSome = true ↔
    ∃ critic, i.criticId = some critic ∧ fitField nodeIdWidth critic ≠ "" := by
  unfold fitted fittedCritic
  cases i.criticId with
  | none =>
    refine iff_of_false Bool.false_ne_true fun h => ?_
    obtain ⟨critic, hc, -⟩ := h
    cases hc
  | some critic =>
    by_cases hnamed : fitField nodeIdWidth critic = ""
    · simp [hnamed]
    · simp [hnamed]

theorem roleOf_fitted_proposer (i : SessionInit) :
    i.fitted.roleOf i.proposerId = some .proposer := if_pos rfl

/-- A critic finds its role in a header that can tell it from the proposer and from filling. -/
theorem roleOf_fitted_critic {i : SessionInit} {critic : String} (hc : i.criticId = some critic) :
    i.fitted.roleOf critic =
      if fitField nodeIdWidth i.proposerId = fitField nodeIdWidth critic then some .proposer
      else if fitField nodeIdWidth critic = "" then none
      else some .critic := by
  have hcritic : i.fitted.criticId = if fitField nodeIdWidth critic = "" then none
      else some (fitField nodeIdWidth critic) := by
    unfold fitted
    rw [hc]
    rfl
  unfold roleOf
  dsimp only
  rw [hcritic]
  change (if fitField nodeIdWidth i.proposerId = fitField nodeIdWidth critic then _ else _) = _
  split
  · rfl
  split
  · exact if_neg (Option.some_ne_none _).symm
  · exact if_pos rfl

end SessionInit

end DebateMesh

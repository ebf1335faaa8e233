import DebateMesh.Proofs.Json.Grammar
import DebateMesh.Proofs.Text.Utf8

namespace DebateMesh.Json

theorem unit?_control (n : Nat) (h : n < 32) :
    unit? '0' '0' (hexDigit (n / 16)) (hexDigit (n % 16)) = some n := by
  revert n
  decide

/-- Every character has a spelling, whichever escape it takes. -/
theorem spelling_escape (c : Char) : Spelling c (escape c) := by
  have hsimple {e x : Char} (h : c = x) (hx : simpleEscape? e = some x) :
      Spelling c ['\\', e] := h ▸ .simple hx
  unfold escape
  split
  · rename_i h
    exact hsimple h (by decide)
  split
  · rename_i h
    exact hsimple h (by decide)
  split
  · rename_i hq hb hc
    exact .plain hq hb hc
  split
  · rename_i h
    exact hsimple h (by decide)
  split
  · rename_i h
    exact hsimple h (by decide)
  split
  · rename_i h
    exact hsimple h (by decide)
  split
  · rename_i h
    exact hsimple h (by decide)
  split
  · rename_i h
    exact hsimple h (by decide)
  · rename_i hc _ _ _ _ _
    have hlt : c.toNat < 32 := by
      have h := Char.not_le.mp hc
      rw [Char.lt_def] at h
      exact h
    have hs : isSurrogate c.toNat = false := by
      rw [isSurrogate, decide_eq_false_iff_not]
      omega
    have h := Spelling.unit (unit?_control c.toNat hlt) hs
    rwa [Char.ofNat_toNat] at h

theorem spelled_escapes (s : List Char) : Spelled s (s.flatMap escape) := by
  induction s with
  | nil => exact .nil
  | cons c s ih => exact .cons (spelling_escape c) ih

theorem quoted_text (s : String) : Quoted s (quoted s) := ⟨_, rfl, spelled_escapes _⟩

theorem scalar_of_number? {cs : List Char} {v : Json} (h : number? (cs ++ []) = some (v, [])) :
    Scalar v cs := by
  obtain ⟨n, hcs, hv⟩ := numeral_of_number? h
  rw [List.append_nil, List.append_nil] at hcs
  rw [hcs]
  exact .number n hv

/-- What a text can give: numbers that are finite or of 64 bits, and at most so many arrays and
objects around one another. -/
inductive Readable : (depth : Nat) → Json → Prop
  | null {depth : Nat} : Readable depth null
  | bool {depth : Nat} (b : Bool) : Readable depth (bool b)
  | int {depth : Nat} {n : Int} (h : IsWord n) : Readable depth (int n)
  | double {depth : Nat} {x : Binary64} (h : x.isFinite = true) : Readable depth (double x)
  | str {depth : Nat} (s : String) : Readable depth (str s)
  | arr {depth : Nat} {items : List Json} (h : ∀ v ∈ items, Readable depth v) :
    Readable (depth + 1) (arr items)
  | obj {depth : Nat} {members : Members} (h : ∀ m ∈ members, Readable depth m.2) :
    Readable (depth + 1) (obj members)

theorem itemsText_cons (v w : Json) (vs : List Json) :
    itemsText (v :: w :: vs) = text v ++ ',' :: itemsText (w :: vs) := by
  rw [itemsText]
  intro h
  cases h

theorem membersText_cons (m n : String × Json) (ms : Members) :
    membersText (m :: n :: ms) =
      quoted m.1 ++ ':' :: (text m.2 ++ ',' :: membersText (n :: ms)) := by
  rw [membersText]
  intro h
  cases h

theorem membersText_singleton (m : String × Json) :
    membersText [m] = quoted m.1 ++ ':' :: text m.2 := by
  rw [membersText]

/-- A text in front of which no blanks stand. -/
theorem led_of {α : Type} {P : α → List Char → Prop} {x : α} {cs : List Char} (h : P x cs) :
    Led P x cs := ⟨[], cs, List.forall_mem_nil _, rfl, h⟩

theorem listed_itemsText {P : Json → List Char → Prop} {vs : List Json}
    (h : ∀ v ∈ vs, P v (text v)) : Listed (Led P) vs (itemsText vs) := by
  have hrow (v : Json) (ws : List Json) (h : ∀ w ∈ v :: ws, P w (text w)) :
      Row (Led P) (v :: ws) (itemsText (v :: ws)) := by
    induction ws generalizing v with
    | nil =>
      have hv := Row.single (led_of (h v List.mem_cons_self)) (List.forall_mem_nil _)
      rwa [List.append_nil] at hv
    | cons w ws ih =>
      rw [List.forall_mem_cons] at h
      rw [itemsText_cons]
      exact .cons (led_of h.1) (List.forall_mem_nil _) (ih w h.2)
  cases vs with
  | nil => exact .empty (List.forall_mem_nil _)
  | cons v vs => exact .row (hrow v vs h)

theorem entry_text {P : Json → List Char → Prop} {m : String × Json} (h : P m.2 (text m.2)) :
    Entry (Led P) m (quoted m.1 ++ ':' :: text m.2) :=
  ⟨_, [], _, led_of (quoted_text m.1), List.forall_mem_nil _, led_of h, rfl⟩

theorem listed_membersText {P : Json → List Char → Prop} {ms : Members}
    (h : ∀ m ∈ ms, P m.2 (text m.2)) : Listed (Entry (Led P)) ms (membersText ms) := by
  have hrow (m : String × Json) (ns : Members) (h : ∀ n ∈ m :: ns, P n.2 (text n.2)) :
      Row (Entry (Led P)) (m :: ns) (membersText (m :: ns)) := by
    induction ns generalizing m with
    | nil =>
      have hm := Row.single (entry_text (h m List.mem_cons_self)) (List.forall_mem_nil _)
      rwa [List.append_nil, ← membersText_singleton] at hm
    | cons n ns ih =>
      rw [List.forall_mem_cons] at h
      have hm := Row.cons (entry_text h.1) (List.forall_mem_nil _) (ih n h.2)
      rw [List.append_assoc] at hm
      rw [membersText_cons]
      exact hm
  cases ms with
  | nil => exact .empty (List.forall_mem_nil _)
  | cons m ms => exact .row (hrow m ms h)

theorem Scalar.written {v : Json} {cs : List Char} (h : Scalar v cs) (depth : Nat) :
    Written depth v cs := by
  cases depth with
  | zero => exact h
  | succ depth => exact .scalar h

/-- What the printer writes is a text of the value. -/
theorem written_text {depth : Nat} {v : Json} (h : Readable depth v) :
    Written depth v (text v) := by
  induction h with
  | null =>
    rw [text]
    exact Scalar.null.written _
  | bool b =>
    cases b with
    | true =>
      rw [text]
      exact Scalar.true.written _
    | false =>
      rw [text]
      exact Scalar.false.written _
  | int hn =>
    rw [text]
    exact (scalar_of_number? (number?_wholeText hn ends_nil)).written _
  | double hx =>
    rw [text, doubleText, if_pos hx]
    exact (scalar_of_number? (number?_text hx ends_nil)).written _
  | str s =>
    rw [text]
    exact (Scalar.str (quoted_text s)).written _
  | arr _ ih =>
    rw [text]
    exact .list (listed_itemsText ih)
  | obj _ ih =>
    rw [text]
    exact .object (listed_membersText ih)

theorem document_text {v : Json} (h : Readable maxDepth v) : Document v (text v) :=
  ⟨text v, [], led_of (written_text h), List.forall_mem_nil _, (List.append_nil _).symm⟩

theorem decode_encode {v : Json} (h : Readable maxDepth v) : decode (encode v) = some v := by
  rw [decode, encode, Utf8.decodeChars_encodeChars, Option.bind_some,
    ofChars_iff.mpr (document_text h)]

/-- No part of an object's text before its end is read. -/
theorem decode_cut {ms : Members} (h : Readable maxDepth (obj ms)) {p q : Bytes}
    (hcut : encode (obj ms) = p ++ q) (hq : q ≠ []) : decode p = none := by
  cases h with
  | obj hms =>
    cases hp : Utf8.decodeChars p with
    | none => rw [decode, hp, Option.bind_none]
    | some cs =>
      have hwhole := Utf8.decodeChars_encodeChars (text (obj ms))
      rw [← encode, hcut] at hwhole
      obtain ⟨es, hes, rfl⟩ := Utf8.decodeChars_append hp hwhole
      rw [text] at hes
      rw [decode, hp, Option.bind_some]
      refine ofChars_cut (listed_membersText fun m hm => written_text (hms m hm)) hes ?_
      rintro rfl
      exact hq rfl

end DebateMesh.Json

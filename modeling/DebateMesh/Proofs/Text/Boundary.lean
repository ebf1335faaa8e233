import DebateMesh.Proofs.Text.Utf8
import DebateMesh.Text.Boundary
import Mathlib.Order.Bounds.Basic

namespace DebateMesh.Utf8

theorem tail?_eq_none {n : Nat} (h : n < 0x80 ∨ 0xC0 ≤ n ∧ n < 256) :
    tail? (UInt8.ofNat n) = none := by
  rw [tail?, toNat_octet (by omega), if_neg (by omega)]

/-- The first octet of a character continues none, and all others do. -/
theorem encodeChar_eq_cons (c : Char) : ∃ lead rest, encodeChar c = lead :: rest ∧
    tail? lead = none ∧ ∀ b ∈ rest, ∃ t, tail? b = some t := by
  obtain ⟨hmax, -⟩ := char_bounds c
  have continues (n : Nat) : ∃ t, tail? (UInt8.ofNat (0x80 + n % 64)) = some t := ⟨_, tail?_mod n⟩
  unfold encodeChar
  dsimp only
  split
  · exact ⟨_, _, rfl, tail?_eq_none (by omega), List.forall_mem_nil _⟩
  split
  · refine ⟨_, _, rfl, tail?_eq_none (by omega), ?_⟩
    exact List.forall_mem_singleton.mpr (continues _)
  split
  · refine ⟨_, _, rfl, tail?_eq_none (by omega), ?_⟩
    exact List.forall_mem_cons.mpr ⟨continues _, List.forall_mem_singleton.mpr (continues _)⟩
  · refine ⟨_, _, rfl, tail?_eq_none (by omega), List.forall_mem_cons.mpr ⟨continues _, ?_⟩⟩
    exact List.forall_mem_cons.mpr ⟨continues _, List.forall_mem_singleton.mpr (continues _)⟩

/-- A character is not cut. -/
theorem isBoundary_within {c : Char} {n : Nat} (hpos : 0 < n) (hn : n < width c) (bs : Bytes) :
    isBoundary (encodeChar c ++ bs) n = false := by
  obtain ⟨lead, rest, hc, -, hrest⟩ := encodeChar_eq_cons c
  obtain ⟨k, rfl⟩ := Nat.exists_eq_succ_of_ne_zero hpos.ne'
  rw [width, hc, List.length_cons] at hn
  have hk : k < rest.length := Nat.lt_of_succ_lt_succ hn
  have hat : (lead :: rest ++ bs)[k + 1]? = some rest[k] := by
    rw [List.cons_append, List.getElem?_cons_succ, List.getElem?_append_left hk,
      List.getElem?_eq_getElem hk]
  have hlen : (lead :: rest ++ bs).length ≠ k + 1 := by
    rw [List.cons_append, List.length_cons, List.length_append]
    omega
  obtain ⟨t, ht⟩ := hrest _ (List.getElem_mem hk)
  rw [hc, isBoundary, hat, Option.any_some, ht]
  simpa using hlen.symm

/-- Behind a character, places are those of the text that follows. -/
theorem isBoundary_behind (c : Char) (cs : List Char) (n : Nat) :
    isBoundary (encodeChar c ++ encodeChars cs) (width c + n) = isBoundary (encodeChars cs) n := by
  have hat : (encodeChar c ++ encodeChars cs)[width c + n]? = (encodeChars cs)[n]? := by
    rw [width, List.getElem?_append_right (Nat.le_add_right _ _), Nat.add_sub_cancel_left]
  have hend : (width c + n == (encodeChar c ++ encodeChars cs).length) =
      (n == (encodeChars cs).length) := by
    rw [width, List.length_append, Bool.eq_iff_iff, beq_iff_eq, beq_iff_eq, Nat.add_left_cancel_iff]
  rw [isBoundary, isBoundary, hat, hend]
  cases n with
  | succ n => rfl
  | zero =>
    cases cs with
    | nil => simp [encodeChars]
    | cons d ds =>
      obtain ⟨lead, rest, hd, hlead, -⟩ := encodeChar_eq_cons d
      simp [encodeChars, hd, hlead]

/-- Octets can be cut where a start of their text ends. -/
theorem isBoundary_encodeChars (cs : List Char) (n : Nat) :
    isBoundary (encodeChars cs) n = true ↔
      ∃ front, front <+: cs ∧ (encodeChars front).length = n := by
  induction cs generalizing n with
  | nil =>
    cases n with
    | zero => exact iff_of_true rfl ⟨[], List.nil_prefix, rfl⟩
    | succ n =>
      refine iff_of_false (by simp [isBoundary, encodeChars]) ?_
      rintro ⟨front, hfront, hlen⟩
      rw [List.prefix_nil.mp hfront] at hlen
      cases hlen
  | cons c cs ih =>
    have hsplit : encodeChars (c :: cs) = encodeChar c ++ encodeChars cs := List.flatMap_cons
    constructor
    · intro h
      rcases Nat.eq_zero_or_pos n with rfl | hpos
      · exact ⟨[], List.nil_prefix, rfl⟩
      by_cases hn : n < width c
      · rw [hsplit, isBoundary_within hpos hn] at h
        cases h
      · obtain ⟨k, rfl⟩ := Nat.exists_eq_add_of_le (Nat.le_of_not_lt hn)
        rw [hsplit, isBoundary_behind] at h
        obtain ⟨front, hfront, rfl⟩ := (ih k).mp h
        exact ⟨c :: front, List.cons_prefix_cons.mpr ⟨rfl, hfront⟩, length_encodeChars_cons c front⟩
    · rintro ⟨front, hfront, rfl⟩
      rcases List.prefix_cons_iff.mp hfront with rfl | ⟨rest, rfl, hrest⟩
      · rfl
      · rw [length_encodeChars_cons, hsplit, isBoundary_behind]
        exact (ih _).mpr ⟨rest, hrest, rfl⟩

/-- The way back ends in front at the latest, and passes no place where the octets can be cut. -/
theorem backToBoundary?_eq_some (bs : Bytes) (n : Nat) : ∃ k, backToBoundary? bs n = some k ∧
    IsGreatest {k | k ≤ n ∧ isBoundary bs k = true} k := by
  induction n with
  | zero => exact ⟨0, rfl, ⟨Nat.le_refl 0, rfl⟩, fun k hk => hk.1⟩
  | succ n ih =>
    rw [backToBoundary?]
    by_cases h : isBoundary bs (n + 1) = true
    · exact ⟨n + 1, if_pos h, ⟨Nat.le_refl _, h⟩, fun k hk => hk.1⟩
    · obtain ⟨k, hk, ⟨hle, hcut⟩, hlast⟩ := ih
      refine ⟨k, (if_neg h).trans hk, ⟨Nat.le_succ_of_le hle, hcut⟩, fun j hj => ?_⟩
      have hne : j ≠ n + 1 := fun he => h (he ▸ hj.2)
      exact hlast ⟨Nat.le_of_lt_succ (Nat.lt_of_le_of_ne hj.1 hne), hj.2⟩

end DebateMesh.Utf8

import DebateMesh.Binary64.Decimal
import Mathlib.Algebra.Order.Field.Basic
import Mathlib.Data.Rat.Cast.Order
import Mathlib.Order.Monotone.Basic
import Mathlib.Tactic.Linarith
import Mathlib.Tactic.NormNum
import Mathlib.Tactic.Positivity
import Mathlib.Tactic.Ring

namespace DebateMesh.Binary64

theorem significand_eq (m : Nat) :
    significand m = if m < 2 ^ 52 then m else 2 ^ 52 + m % 2 ^ 52 := by
  rw [significand, Nat.one_shiftLeft]

theorem scale_eq (m : Nat) : scale m = m / 2 ^ 52 - 1 := by
  rw [scale, Nat.one_shiftLeft]

theorem units_eq (m : Nat) : units m = significand m * 2 ^ scale m := Nat.shiftLeft_eq _ _

theorem units_mk {s q : Nat} (h : s = 0 ∨ 2 ^ 52 ≤ q) (hq : q ≤ 2 ^ 53) :
    units (s * 2 ^ 52 + q) = q * 2 ^ s := by
  rw [units_eq, significand_eq, scale_eq]
  rcases Nat.lt_or_ge q (2 ^ 52) with hlt | hge
  · obtain rfl : s = 0 := by omega
    have hd : (0 * 2 ^ 52 + q) / 2 ^ 52 = 0 := by omega
    rw [if_pos (by omega), hd]
    simp
  · rw [if_neg (by omega)]
    rcases Nat.lt_or_ge q (2 ^ 53) with hlt | hge'
    · have hd : (s * 2 ^ 52 + q) / 2 ^ 52 = s + 1 := by omega
      have hm : 2 ^ 52 + (s * 2 ^ 52 + q) % 2 ^ 52 = q := by omega
      rw [hd, hm, Nat.add_sub_cancel]
    · obtain rfl : q = 2 ^ 53 := by omega
      have hd : (s * 2 ^ 52 + 2 ^ 53) / 2 ^ 52 = s + 2 := by omega
      have hm : 2 ^ 52 + (s * 2 ^ 52 + 2 ^ 53) % 2 ^ 52 = 2 ^ 52 := by omega
      have hs : s + 2 - 1 = s + 1 := rfl
      rw [hd, hm, hs, Nat.pow_succ 2 s]
      ring

/-- A magnitude is a scale and a significand; only at the least scale it may lack its first bit. -/
theorem scale_significand (m : Nat) :
    m = scale m * 2 ^ 52 + significand m ∧ (scale m = 0 ∨ 2 ^ 52 ≤ significand m) ∧
      significand m < 2 ^ 53 := by
  rw [scale_eq, significand_eq]
  split <;> omega

theorem units_succ (m : Nat) : units (m + 1) = units m + 2 ^ scale m := by
  obtain ⟨hm, hs, hlt⟩ := scale_significand m
  have h1 := units_mk (s := scale m) (q := significand m + 1) (by omega) (by omega)
  rw [← Nat.add_assoc, ← hm] at h1
  rw [h1, units_eq, Nat.add_mul, Nat.one_mul]

theorem units_strictMono : StrictMono units := by
  apply strictMono_nat_of_lt_succ
  intro m
  have hp := Nat.two_pow_pos (scale m)
  rw [units_succ]
  omega

/-- Half of the interval around `m`, in which values (in units) round to it. -/
structure Rounds (v : ℚ) (m : Nat) : Prop where
  low : (units (m - 1) + units m : ℚ) ≤ 2 * v
  high : 2 * v ≤ (units m + units (m + 1) : ℚ)
  odd_low : m % 2 = 1 → (units (m - 1) + units m : ℚ) < 2 * v
  odd_high : m % 2 = 1 → 2 * v < (units m + units (m + 1) : ℚ)

/-- A smaller value does not round to a larger magnitude. Neighbours share a midpoint, and one of
them is odd. -/
theorem Rounds.mono {v w : ℚ} {m n : Nat} (hm : Rounds v m) (hn : Rounds w n) (hvw : v ≤ w) :
    m ≤ n := by
  by_contra hlt
  rw [Nat.not_le] at hlt
  have hle : (units n : ℚ) ≤ units (m - 1) := by
    exact_mod_cast units_strictMono.monotone (by omega)
  rcases Nat.lt_or_ge (n + 1) m with h | h
  · have hs : (units (n + 1) : ℚ) < units m := by exact_mod_cast units_strictMono h
    linarith [hn.high, hm.low]
  · obtain rfl : m = n + 1 := by omega
    rw [Nat.add_sub_cancel] at hle
    rcases Nat.mod_two_eq_zero_or_one n with he | ho
    · have h' := hm.odd_low (by omega)
      rw [Nat.add_sub_cancel] at h'
      linarith [hn.high]
    · have h' := hn.odd_high ho
      have h'' := hm.low
      rw [Nat.add_sub_cancel] at h''
      linarith

theorem Rounds.unique {v : ℚ} {m n : Nat} (hm : Rounds v m) (hn : Rounds v n) : m = n :=
  Nat.le_antisymm (hm.mono hn le_rfl) (hn.mono hm le_rfl)

/-- The magnitude that `nearest` rounds to, before it is cut to infinity. -/
def rounded (num den : Nat) : Nat :=
  let s := (num / den).log2 - 52
  let step := den * 2 ^ s
  let q := num / step
  let r := num % step
  s * 2 ^ 52 + (if step < 2 * r ∨ step = 2 * r ∧ q % 2 = 1 then q + 1 else q)

theorem nearest_eq_min (num den : Nat) :
    nearest num den = Nat.min (rounded num den) infinite := by
  unfold nearest rounded
  simp only [Nat.shiftLeft_eq]

theorem quotient_bounds (num den : Nat) :
    let s := (num / den).log2 - 52
    (s = 0 ∨ 2 ^ 52 ≤ num / (den * 2 ^ s)) ∧ num / (den * 2 ^ s) < 2 ^ 53 := by
  dsimp only
  rw [← Nat.div_div_eq_div_mul]
  generalize num / den = t
  rcases Nat.eq_zero_or_pos t with rfl | ht
  · simp
  have hlow : 2 ^ t.log2 ≤ t := Nat.log2_self_le (by omega)
  have hhigh : t < 2 ^ (t.log2 + 1) := Nat.lt_log2_self
  rcases Nat.le_total t.log2 52 with hl | hl
  · have h0 : t.log2 - 52 = 0 := by omega
    have hp : 2 ^ (t.log2 + 1) ≤ 2 ^ 53 := Nat.pow_le_pow_right (by decide) (by omega)
    rw [h0, Nat.pow_zero, Nat.div_one]
    omega
  · obtain ⟨k, hk⟩ := Nat.exists_eq_add_of_le hl
    rw [hk, Nat.add_sub_cancel_left]
    rw [hk, Nat.pow_add] at hlow
    have hk' : 52 + k + 1 = 53 + k := by omega
    rw [hk, hk', Nat.pow_add] at hhigh
    refine ⟨Or.inr ?_, ?_⟩
    · exact (Nat.le_div_iff_mul_le (Nat.two_pow_pos k)).mpr hlow
    · exact (Nat.div_lt_iff_lt_mul (Nat.two_pow_pos k)).mpr hhigh

section steps

variable {s q : Nat} {f : ℚ}

theorem units_step (hs : s = 0 ∨ 2 ^ 52 ≤ q) (hq : q < 2 ^ 53) :
    (units (s * 2 ^ 52 + q) : ℚ) = q * 2 ^ s ∧
      (units (s * 2 ^ 52 + q + 1) : ℚ) = q * 2 ^ s + 2 ^ s := by
  have hu := units_mk hs (Nat.le_of_lt hq)
  have hu' := units_mk (s := s) (q := q + 1) (by omega) (by omega)
  rw [Nat.add_assoc, hu, hu']
  push_cast
  constructor
  · rfl
  · ring

/-- A value past the middle of a step, or in the middle of an odd one, rounds to the step's end. -/
theorem rounds_up (hs : s = 0 ∨ 2 ^ 52 ≤ q) (hq : q < 2 ^ 53) (hlt : f < 2 ^ s)
    (hup : 2 ^ s < 2 * f ∨ 2 ^ s = 2 * f ∧ q % 2 = 1) :
    Rounds (q * 2 ^ s + f) (s * 2 ^ 52 + q + 1) := by
  obtain ⟨hu, hu'⟩ := units_step hs hq
  have hnext := units_strictMono (Nat.lt_succ_self (s * 2 ^ 52 + q + 1))
  rw [← Nat.cast_lt (α := ℚ)] at hnext
  have hge : (2 ^ s : ℚ) ≤ 2 * f := by rcases hup with h | ⟨h, -⟩ <;> linarith
  refine ⟨?_, ?_, ?_, ?_⟩
  · rw [Nat.add_sub_cancel, hu, hu']
    linarith
  · linarith
  · intro hodd
    have hmore : (2 ^ s : ℚ) < 2 * f := by
      rcases hup with h | ⟨-, h⟩
      · exact h
      · omega
    rw [Nat.add_sub_cancel, hu, hu']
    linarith
  · intro _
    linarith

/-- Any other value rounds to the step's start. -/
theorem rounds_down (hs : s = 0 ∨ 2 ^ 52 ≤ q) (hq : q < 2 ^ 53) (hf : 0 ≤ f)
    (hup : ¬ (2 ^ s < 2 * f ∨ 2 ^ s = 2 * f ∧ q % 2 = 1)) :
    Rounds (q * 2 ^ s + f) (s * 2 ^ 52 + q) := by
  obtain ⟨hu, hu'⟩ := units_step hs hq
  have hle : 2 * f ≤ (2 ^ s : ℚ) := by
    rw [← not_lt]
    exact fun h => hup (Or.inl h)
  have hprev : (units (s * 2 ^ 52 + q - 1) : ℚ) ≤ units (s * 2 ^ 52 + q) := by
    exact_mod_cast units_strictMono.monotone (Nat.sub_le _ 1)
  refine ⟨?_, ?_, ?_, ?_⟩
  · linarith
  · rw [hu, hu']
    linarith
  · intro hodd
    have hlt : (units (s * 2 ^ 52 + q - 1) : ℚ) < units (s * 2 ^ 52 + q) := by
      exact_mod_cast units_strictMono (by omega)
    linarith
  · intro hodd
    have hne : 2 * f ≠ (2 ^ s : ℚ) := by
      intro h
      exact hup (Or.inr ⟨h.symm, by omega⟩)
    have hlt := lt_of_le_of_ne hle hne
    rw [hu, hu']
    linarith

end steps

theorem rounded_rounds {num den : Nat} (hden : 0 < den) :
    Rounds ((num : ℚ) / den) (rounded num den) := by
  obtain ⟨hs, hq⟩ := quotient_bounds num den
  unfold rounded
  dsimp only
  generalize (num / den).log2 - 52 = s at hs hq ⊢
  have hdivmod := Nat.div_add_mod num (den * 2 ^ s)
  have hr := Nat.mod_lt num (Nat.mul_pos hden (Nat.two_pow_pos s))
  generalize num / (den * 2 ^ s) = q at hs hq hdivmod ⊢
  generalize num % (den * 2 ^ s) = r at hr hdivmod ⊢
  have hdq : (0 : ℚ) < den := by exact_mod_cast hden
  obtain ⟨f, hf⟩ : ∃ f : ℚ, f = r / den := ⟨_, rfl⟩
  have hfr : f * den = r := by rw [hf, div_mul_cancel₀ _ hdq.ne']
  have hv : (num : ℚ) / den = q * 2 ^ s + f := by
    rw [div_eq_iff hdq.ne', add_mul, hfr, ← hdivmod]
    push_cast
    ring
  have h1 : ((2 * r : Nat) : ℚ) = (2 * f) * den := by push_cast; rw [mul_assoc, hfr]
  have h2 : ((den * 2 ^ s : Nat) : ℚ) = 2 ^ s * den := by push_cast; ring
  have hmore : den * 2 ^ s < 2 * r ↔ (2 ^ s : ℚ) < 2 * f := by
    rw [← Nat.cast_lt (α := ℚ), h1, h2, mul_lt_mul_iff_left₀ hdq]
  have hhalf : den * 2 ^ s = 2 * r ↔ (2 ^ s : ℚ) = 2 * f := by
    rw [← Nat.cast_inj (R := ℚ), h1, h2, mul_left_inj' hdq.ne']
  have hf0 : 0 ≤ f := by rw [hf]; positivity
  have hf1 : f < 2 ^ s := by
    rw [hf, div_lt_iff₀ hdq, mul_comm]
    exact_mod_cast hr
  rw [hv]
  split
  · rename_i hup
    rw [hmore, hhalf] at hup
    rw [← Nat.add_assoc]
    exact rounds_up hs hq hf1 hup
  · rename_i hup
    rw [hmore, hhalf] at hup
    exact rounds_down hs hq hf0 hup

/-- A value rounds to the finite magnitude whose interval holds it. -/
theorem nearest_eq {num den m : Nat} (hden : 0 < den) (hm : m < infinite)
    (h : Rounds ((num : ℚ) / den) m) : nearest num den = m := by
  rw [nearest_eq_min, (rounded_rounds hden).unique h]
  exact Nat.min_eq_left (Nat.le_of_lt hm)

theorem nearest_zero (den : Nat) : nearest 0 den = 0 := by
  simp [nearest]

theorem nearest_le_infinite (num den : Nat) : nearest num den ≤ infinite := by
  rw [nearest_eq_min]
  exact Nat.min_le_right _ _

/-- Rounding keeps the order of quotients. -/
theorem nearest_mono {num den num' den' : Nat} (hden : 0 < den) (hden' : 0 < den')
    (h : num * den' ≤ num' * den) : nearest num den ≤ nearest num' den' := by
  have hd : (0 : ℚ) < den := by exact_mod_cast hden
  have hd' : (0 : ℚ) < den' := by exact_mod_cast hden'
  have hvalue : (num : ℚ) / den ≤ num' / den' := by
    rw [div_le_div_iff₀ hd hd']
    exact_mod_cast h
  have hrounded := (rounded_rounds hden).mono (rounded_rounds hden') hvalue
  rw [nearest_eq_min, nearest_eq_min]
  exact Nat.le_min.mpr ⟨(Nat.min_le_left _ _).trans hrounded, Nat.min_le_right _ _⟩

end DebateMesh.Binary64

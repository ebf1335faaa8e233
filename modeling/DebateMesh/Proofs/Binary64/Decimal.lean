import DebateMesh.Proofs.Binary64.Nearest
import Mathlib.Algebra.Order.Field.Power
import Mathlib.Data.Nat.Digits.Defs

namespace DebateMesh

namespace Decimal

def value (d : Decimal) : ℚ := d.digits * (10 : ℚ) ^ d.exponent

theorem length_digitChars_pos (n : Nat) : 0 < (digitChars n).length := Nat.length_toDigits_pos

theorem lt_pow_length (n : Nat) : n < 10 ^ (digitChars n).length :=
  (Nat.length_toDigits_le_iff (by decide) (length_digitChars_pos n)).mp (Nat.le_refl _)

theorem pow_length_le {n : Nat} (h : 0 < n) : 10 ^ ((digitChars n).length - 1) ≤ n := by
  rcases Nat.eq_or_lt_of_le (length_digitChars_pos n) with h1 | h1
  · rw [← h1]
    exact h
  · rw [← Nat.not_lt]
    intro hlt
    have hle := (Nat.length_toDigits_le_iff (b := 10) (by decide) (by omega)).mpr hlt
    unfold digitChars at h1 hle
    omega

theorem value_bounds {d : Decimal} (h : 0 < d.digits) :
    (10 : ℚ) ^ d.leading ≤ d.value ∧ d.value < (10 : ℚ) ^ (d.leading + 1) := by
  have hl := length_digitChars_pos d.digits
  have h1 : (10 : ℚ) ^ d.leading =
      ((10 ^ ((digitChars d.digits).length - 1) : Nat) : ℚ) * 10 ^ d.exponent := by
    rw [Nat.cast_pow, ← zpow_natCast, Nat.cast_ofNat, ← zpow_add₀ (by norm_num)]
    congr 1
    unfold leading
    omega
  have h2 : (10 : ℚ) ^ (d.leading + 1) =
      ((10 ^ (digitChars d.digits).length : Nat) : ℚ) * 10 ^ d.exponent := by
    rw [Nat.cast_pow, ← zpow_natCast, Nat.cast_ofNat, ← zpow_add₀ (by norm_num)]
    congr 1
    unfold leading
    omega
  have he : (0 : ℚ) < 10 ^ d.exponent := by positivity
  rw [h1, h2, value]
  constructor
  · exact mul_le_mul_of_nonneg_right (by exact_mod_cast pow_length_le h) he.le
  · exact mul_lt_mul_of_pos_right (by exact_mod_cast lt_pow_length d.digits) he

end Decimal

namespace Binary64

theorem units_infinite : units infinite = 2 ^ 2098 := by
  have h := units_mk (s := 2046) (q := 2 ^ 52) (Or.inr (Nat.le_refl _)) (by decide)
  have hinf : infinite = 2046 * 2 ^ 52 + 2 ^ 52 := rfl
  rw [hinf, h, ← Nat.pow_add]

/-- Twice the units are half units. The exponent is kept apart so that no one multiplies it out. -/
theorem two_mul_two_pow : (2 : ℚ) * 2 ^ 1074 = 2 ^ 1075 := (pow_succ' (2 : ℚ) 1074).symm

theorem units_le_of_finite {m : Nat} (h : m ≤ infinite) : (units m : ℚ) ≤ 2 ^ 2098 := by
  have hle := units_strictMono.monotone h
  rw [units_infinite] at hle
  exact_mod_cast hle

theorem Rounds.half_units {d : Decimal} {m : Nat} (hm0 : 0 < m) (hm : m < infinite)
    (h : Rounds (d.value * 2 ^ 1074) m) :
    1 ≤ d.value * 2 ^ 1075 ∧ d.value * 2 ^ 1075 ≤ 2 ^ 1024 * 2 ^ 1075 := by
  have hone : (1 : ℚ) ≤ units m := by
    have hlt := units_strictMono hm0
    exact_mod_cast hlt
  have hprev : (0 : ℚ) ≤ units (m - 1) := Nat.cast_nonneg _
  have h1 := units_le_of_finite (Nat.le_of_lt hm)
  have h2 := units_le_of_finite (Nat.succ_le_of_lt hm)
  have hsum : (2 : ℚ) ^ 2098 + 2 ^ 2098 = 2 ^ 1024 * 2 ^ 1075 := by
    rw [← two_mul, ← pow_succ', ← pow_add]
  have hl := h.low
  have hh := h.high
  rw [mul_left_comm, two_mul_two_pow] at hl hh
  rw [← hsum]
  generalize (2 : ℚ) ^ 1075 = half at *
  generalize (2 : ℚ) ^ 2098 = top at *
  constructor <;> linarith

theorem two_pow_lt : (2 : ℚ) ^ 1024 < (10 : ℚ) ^ (311 : ℤ) := by
  have h : (2 : Nat) ^ 1024 < 10 ^ 311 := by decide +kernel
  have he : (311 : ℤ) = ((311 : Nat) : ℤ) := rfl
  rw [he, zpow_natCast]
  exact_mod_cast h

theorem ten_pow_mul_le : (10 : ℚ) ^ (-400 : ℤ) * 2 ^ 1075 ≤ 1 := by
  have h : (2 : Nat) ^ 1075 ≤ 10 ^ 400 := by decide +kernel
  have he : (400 : ℤ) = ((400 : Nat) : ℤ) := rfl
  rw [zpow_neg, he, zpow_natCast, inv_mul_le_iff₀ (by positivity), mul_one]
  exact_mod_cast h

/-- What rounds to a finite number other than zero has its leading digit at these places. -/
theorem leading_bounds {d : Decimal} {m : Nat} (hm0 : 0 < m) (hm : m < infinite)
    (h : Rounds (d.value * 2 ^ 1074) m) :
    0 < d.digits ∧ d.leading ≤ 310 ∧ -400 ≤ d.leading := by
  obtain ⟨hlow, hhigh⟩ := h.half_units hm0 hm
  have hp : (0 : ℚ) < 2 ^ 1075 := pow_pos two_pos 1075
  have hd : 0 < d.digits := by
    rcases Nat.eq_zero_or_pos d.digits with h0 | h0
    · rw [Decimal.value, h0, Nat.cast_zero, zero_mul, zero_mul] at hlow
      exact absurd hlow (by norm_num)
    · exact h0
  obtain ⟨hle, hlt⟩ := Decimal.value_bounds hd
  refine ⟨hd, ?_, ?_⟩
  · by_contra hbig
    have h1 : (10 : ℚ) ^ (311 : ℤ) ≤ 10 ^ d.leading := zpow_le_zpow_right₀ (by norm_num) (by omega)
    have h2 : d.value ≤ 2 ^ 1024 := le_of_mul_le_mul_right hhigh hp
    exact absurd (lt_of_le_of_lt (h1.trans (hle.trans h2)) two_pow_lt) (lt_irrefl _)
  · by_contra hsmall
    have h1 : (10 : ℚ) ^ (d.leading + 1) ≤ 10 ^ (-400 : ℤ) :=
      zpow_le_zpow_right₀ (by norm_num) (by omega)
    have h2 : d.value * 2 ^ 1075 < 10 ^ (-400 : ℤ) * 2 ^ 1075 :=
      mul_lt_mul_of_pos_right (lt_of_lt_of_le hlt h1) hp
    exact absurd (lt_of_lt_of_le h2 ten_pow_mul_le) (not_lt.mpr hlow)

theorem ofRatio_eq {negative : Bool} {num den m : Nat} (hden : 0 < den) (hm : m < infinite)
    (h : Rounds ((num : ℚ) / den * 2 ^ 1074) m) :
    ofRatio negative num den = ofMagnitude negative m := by
  unfold ofRatio
  rw [nearest_eq hden hm]
  rw [div_mul_eq_mul_div] at h
  rw [Nat.shiftLeft_eq, Nat.cast_mul, Nat.cast_pow]
  exact_mod_cast h

/-- A decimal is read as the magnitude that its value rounds to. -/
theorem ofDecimal_eq {negative : Bool} {d : Decimal} {m : Nat} (hm0 : 0 < m) (hm : m < infinite)
    (h : Rounds (d.value * 2 ^ 1074) m) : ofDecimal negative d = ofMagnitude negative m := by
  obtain ⟨hd, hhigh, hlow⟩ := leading_bounds hm0 hm h
  unfold ofDecimal
  rw [if_neg (by omega), if_neg (by omega), if_neg (by omega)]
  split
  · rename_i he
    obtain ⟨k, hk⟩ := Int.eq_ofNat_of_zero_le he
    apply ofRatio_eq Nat.one_pos hm
    rw [hk, Int.toNat_natCast, Nat.pow_eq]
    rw [Decimal.value, hk, zpow_natCast] at h
    push_cast
    rw [div_one]
    exact h
  · rename_i he
    obtain ⟨k, hk⟩ := Int.eq_ofNat_of_zero_le (a := - d.exponent) (by omega)
    have hd : d.exponent = -(k : ℤ) := by omega
    apply ofRatio_eq (Nat.pow_pos (by decide)) hm
    rw [hk, Int.toNat_natCast]
    rw [Decimal.value, hd, zpow_neg, zpow_natCast, ← div_eq_mul_inv] at h
    push_cast
    exact h

theorem unitScale_eq (e : Int) : unitScale e = if 0 ≤ e then 1 else 10 ^ (- e).toNat := rfl

theorem gridScale_eq_mul (e : Int) :
    gridScale e = 2 ^ 1075 * (if 0 ≤ e then 10 ^ e.toNat else 1) :=
  (Nat.shiftLeft_eq _ _).trans (Nat.mul_comm _ _)

theorem unitScale_pos (e : Int) : 0 < unitScale e := by
  rw [unitScale_eq]
  split
  · exact Nat.one_pos
  · exact Nat.pow_pos (by decide)

theorem gridScale_pos (e : Int) : 0 < gridScale e := by
  rw [gridScale_eq_mul]
  apply Nat.mul_pos (Nat.two_pow_pos _)
  split
  · exact Nat.pow_pos (by decide)
  · exact Nat.one_pos

theorem gridScale_eq (e : Int) : (gridScale e : ℚ) = 2 ^ 1075 * 10 ^ e * unitScale e := by
  rw [gridScale_eq_mul, unitScale_eq]
  split
  · rename_i he
    obtain ⟨k, hk⟩ := Int.eq_ofNat_of_zero_le he
    rw [hk, Int.toNat_natCast, zpow_natCast]
    push_cast
    ring
  · rename_i he
    obtain ⟨k, hk⟩ := Int.eq_ofNat_of_zero_le (a := - e) (by omega)
    have he' : e = -(k : ℤ) := by omega
    rw [hk, Int.toNat_natCast, he', zpow_neg, zpow_natCast]
    push_cast
    rw [mul_assoc, inv_mul_cancel₀ (by positivity)]

/-- Being inside is rounding to the magnitude. -/
theorem isInside_iff {m c : Nat} {e : Int} :
    isInside m e c = true ↔ Rounds ((⟨c, e⟩ : Decimal).value * 2 ^ 1074) m := by
  have hu : (0 : ℚ) < unitScale e := by exact_mod_cast unitScale_pos e
  have hv : ((c * gridScale e : Nat) : ℚ) =
      2 * ((⟨c, e⟩ : Decimal).value * 2 ^ 1074) * unitScale e := by
    rw [Nat.cast_mul, gridScale_eq, Decimal.value, mul_left_comm 2, two_mul_two_pow]
    ring
  have hle {a : Nat} : (a * unitScale e ≤ c * gridScale e ↔
      (a : ℚ) ≤ 2 * ((⟨c, e⟩ : Decimal).value * 2 ^ 1074)) := by
    rw [← Nat.cast_le (α := ℚ), hv, Nat.cast_mul, mul_le_mul_iff_left₀ hu]
  have hge {a : Nat} : (c * gridScale e ≤ a * unitScale e ↔
      2 * ((⟨c, e⟩ : Decimal).value * 2 ^ 1074) ≤ a) := by
    rw [← Nat.cast_le (α := ℚ), hv, Nat.cast_mul, mul_le_mul_iff_left₀ hu]
  have hlt {a : Nat} : (a * unitScale e < c * gridScale e ↔
      (a : ℚ) < 2 * ((⟨c, e⟩ : Decimal).value * 2 ^ 1074)) := by
    rw [← Nat.cast_lt (α := ℚ), hv, Nat.cast_mul, mul_lt_mul_iff_left₀ hu]
  have hgt {a : Nat} : (c * gridScale e < a * unitScale e ↔
      2 * ((⟨c, e⟩ : Decimal).value * 2 ^ 1074) < a) := by
    rw [← Nat.cast_lt (α := ℚ), hv, Nat.cast_mul, mul_lt_mul_iff_left₀ hu]
  unfold isInside
  dsimp only
  split
  · rename_i heven
    rw [decide_eq_true_eq, hle, hge, Nat.cast_add, Nat.cast_add]
    constructor
    · rintro ⟨h1, h2⟩
      exact ⟨h1, h2, fun h => by omega, fun h => by omega⟩
    · intro h
      exact ⟨h.low, h.high⟩
  · rename_i hodd
    rw [decide_eq_true_eq, hlt, hgt, Nat.cast_add, Nat.cast_add]
    constructor
    · rintro ⟨h1, h2⟩
      exact ⟨h1.le, h2.le, fun _ => h1, fun _ => h2⟩
    · intro h
      exact ⟨h.odd_low (by omega), h.odd_high (by omega)⟩

theorem onGrid?_sound {tie : Tie} {m : Nat} {e : Int} {d : Decimal}
    (h : onGrid? tie m e = some d) : d.exponent = e ∧ Rounds (d.value * 2 ^ 1074) m := by
  unfold onGrid? at h
  dsimp only at h
  split at h
  · rename_i hboth
    rw [Bool.and_eq_true] at hboth
    cases h
    refine ⟨rfl, ?_⟩
    split
    · exact isInside_iff.mp hboth.2
    · exact isInside_iff.mp hboth.1
  split at h
  · rename_i hbelow
    cases h
    exact ⟨rfl, isInside_iff.mp hbelow⟩
  split at h
  · rename_i habove
    cases h
    exact ⟨rfl, isInside_iff.mp habove⟩
  · cases h

/-- On a grid finer than the seventeenth digit, the neighbour above the value is inside: a step is
less than half the distance to the next number. -/
theorem isInside_above {m : Nat} {e : Int} (h : (10 : ℚ) ^ (e + 17) * 2 ^ 1074 ≤ units m) :
    isInside m e (2 * units m * unitScale e / gridScale e + 1) = true := by
  obtain ⟨b, hb⟩ : ∃ b, b = 2 * units m * unitScale e / gridScale e := ⟨_, rfl⟩
  have hg := gridScale_pos e
  have hu : (0 : ℚ) < unitScale e := by exact_mod_cast unitScale_pos e
  have hlow : b * gridScale e ≤ 2 * units m * unitScale e := by
    rw [hb]
    exact Nat.div_mul_le_self _ _
  have hhigh : 2 * units m * unitScale e < (b + 1) * gridScale e := by
    rw [hb]
    exact Nat.lt_mul_of_div_lt (Nat.lt_succ_self _) hg
  rw [← Nat.cast_le (α := ℚ)] at hlow
  rw [← Nat.cast_lt (α := ℚ)] at hhigh
  push_cast at hlow hhigh
  rw [gridScale_eq, ← mul_assoc, mul_le_mul_iff_left₀ hu] at hlow
  rw [gridScale_eq, ← mul_assoc, mul_lt_mul_iff_left₀ hu] at hhigh
  have hstep : (10 : ℚ) ^ e * 2 ^ 1075 < 2 ^ scale m := by
    obtain ⟨-, -, hs⟩ := scale_significand m
    have hm : (units m : ℚ) < 2 ^ 53 * 2 ^ scale m := by
      have hlt : units m < 2 ^ 53 * 2 ^ scale m := by
        rw [units_eq]
        exact Nat.mul_lt_mul_of_pos_right hs (Nat.two_pow_pos _)
      exact_mod_cast hlt
    rw [zpow_add₀ (by norm_num)] at h
    rw [← two_mul_two_pow]
    generalize (2 : ℚ) ^ 1074 = unit at *
    have h17 : (10 : ℚ) ^ (17 : ℤ) = 100000000000000000 := by norm_num
    have h53 : (2 : ℚ) ^ 53 = 9007199254740992 := by norm_num
    rw [h17] at h
    rw [h53] at hm
    have hpos : (0 : ℚ) < 2 ^ scale m := pow_pos two_pos _
    linarith
  have hval : 2 * ((⟨b + 1, e⟩ : Decimal).value * 2 ^ 1074) = (b + 1) * (2 ^ 1075 * 10 ^ e) := by
    rw [mul_left_comm, two_mul_two_pow, Decimal.value]
    push_cast
    ring
  have hnext : (units (m + 1) : ℚ) = units m + 2 ^ scale m := by
    rw [units_succ]
    push_cast
    rfl
  have hprev : (units (m - 1) : ℚ) ≤ units m := by
    exact_mod_cast units_strictMono.monotone (Nat.sub_le m 1)
  rw [← hb, isInside_iff]
  rw [mul_comm] at hstep
  have h1 : (units (m - 1) + units m : ℚ) < 2 * ((⟨b + 1, e⟩ : Decimal).value * 2 ^ 1074) := by
    rw [hval]
    generalize (2 : ℚ) ^ 1075 * 10 ^ e = step at *
    linarith
  have h2 : 2 * ((⟨b + 1, e⟩ : Decimal).value * 2 ^ 1074) < (units m + units (m + 1) : ℚ) := by
    rw [hval, hnext, add_mul, one_mul]
    generalize (2 : ℚ) ^ 1075 * 10 ^ e = step at *
    linarith
  exact ⟨h1.le, h2.le, fun _ => h1, fun _ => h2⟩

theorem onGrid?_isSome {tie : Tie} {m : Nat} {e : Int}
    (h : (10 : ℚ) ^ (e + 17) * 2 ^ 1074 ≤ units m) : ∃ d, onGrid? tie m e = some d := by
  have ha := isInside_above h
  unfold onGrid?
  dsimp only
  rw [ha]
  split
  · exact ⟨_, rfl⟩
  split <;> exact ⟨_, rfl⟩

theorem shortestFrom_rounds {tie : Tie} {m fuel : Nat} {e : Int}
    (h : ∃ d, onGrid? tie m (e - fuel) = some d) :
    Rounds ((shortestFrom tie fuel m e).value * 2 ^ 1074) m ∧
      e - fuel ≤ (shortestFrom tie fuel m e).exponent := by
  induction fuel generalizing e with
  | zero =>
    obtain ⟨d, hd⟩ := h
    rw [Nat.cast_zero, sub_zero] at hd ⊢
    obtain ⟨he, hr⟩ := onGrid?_sound hd
    rw [shortestFrom, hd, Option.getD_some]
    exact ⟨hr, by omega⟩
  | succ fuel ih =>
    rw [shortestFrom]
    cases hg : onGrid? tie m e with
    | some d =>
      obtain ⟨he, hr⟩ := onGrid?_sound hg
      exact ⟨hr, by simp only; omega⟩
    | none =>
      have he : e - ((fuel + 1 : Nat) : ℤ) = e - 1 - fuel := by push_cast; ring
      rw [he] at h ⊢
      exact ih h

theorem trim_value (fuel : Nat) (d : Decimal) :
    (trim fuel d).value = d.value ∧ d.exponent ≤ (trim fuel d).exponent := by
  induction fuel generalizing d with
  | zero => exact ⟨rfl, Int.le_refl _⟩
  | succ fuel ih =>
    rw [trim]
    split
    · rename_i hz
      obtain ⟨hv, he⟩ := ih ⟨d.digits / 10, d.exponent + 1⟩
      refine ⟨?_, by dsimp only at he; omega⟩
      have hd : (d.digits : ℚ) = (d.digits / 10 : Nat) * 10 := by
        have hmul : d.digits = d.digits / 10 * 10 := by omega
        exact_mod_cast hmul
      rw [hv, Decimal.value, Decimal.value, hd, zpow_add_one₀ (by norm_num)]
      ring
    · exact ⟨rfl, Int.le_refl _⟩

theorem tenfolds_spec {fuel num den : Nat} (h : den ≤ num * 10 ^ fuel) :
    den ≤ num * 10 ^ tenfolds fuel num den ∧ tenfolds fuel num den ≤ fuel := by
  induction fuel generalizing num with
  | zero => exact ⟨h, Nat.le_refl _⟩
  | succ fuel ih =>
    rw [tenfolds]
    split
    · rename_i hle
      exact ⟨by simpa using hle, Nat.zero_le _⟩
    · rw [Nat.pow_succ', ← Nat.mul_assoc] at h
      obtain ⟨h1, h2⟩ := ih h
      refine ⟨?_, by omega⟩
      rw [Nat.pow_succ', ← Nat.mul_assoc]
      exact h1

/-- The leading digit's place, at most 400 behind the point. -/
theorem leadingDigit_spec {num den : Nat} (hden : 0 < den) (h : den ≤ num * 10 ^ 400) :
    (10 : ℚ) ^ leadingDigit num den ≤ (num : ℚ) / den ∧ -400 ≤ leadingDigit num den := by
  have hdq : (0 : ℚ) < den := by exact_mod_cast hden
  rw [le_div_iff₀ hdq]
  unfold leadingDigit
  split
  · rename_i hle
    have hq : 0 < num / den := Nat.div_pos hle hden
    have hl := Decimal.length_digitChars_pos (num / den)
    have hp := Nat.mul_le_of_le_div _ _ _ (Decimal.pow_length_le hq)
    have he : ((Decimal.digitChars (num / den)).length : ℤ) - 1 =
        (((Decimal.digitChars (num / den)).length - 1 : Nat) : ℤ) := by omega
    refine ⟨?_, by omega⟩
    rw [he, zpow_natCast]
    exact_mod_cast hp
  · obtain ⟨h1, h2⟩ := tenfolds_spec h
    refine ⟨?_, by omega⟩
    rw [zpow_neg, zpow_natCast, inv_mul_le_iff₀ (by positivity), mul_comm]
    exact_mod_cast h1

/-- The shortest decimal rounds to its magnitude, and its last digit is not far behind the point. -/
theorem shortest_rounds {tie : Tie} {m : Nat} (hm : 0 < m) :
    Rounds ((shortest tie m).value * 2 ^ 1074) m ∧ -417 ≤ (shortest tie m).exponent := by
  have hone : 1 ≤ units m := units_strictMono hm
  have hden : 2 ^ 1075 ≤ 2 * units m * 10 ^ 400 := by
    have h : 2 ^ 1075 ≤ 10 ^ 400 := by decide +kernel
    exact h.trans (Nat.le_mul_of_pos_left _ (by omega))
  obtain ⟨hlead, h400⟩ := leadingDigit_spec (Nat.two_pow_pos 1075) hden
  obtain ⟨e, he⟩ : ∃ e, e = leadingDigit (2 * units m) (2 ^ 1075) := ⟨_, rfl⟩
  rw [← he] at hlead h400
  have hgrid : (10 : ℚ) ^ (e - 17 + 17) * 2 ^ 1074 ≤ units m := by
    rw [sub_add_cancel]
    rw [le_div_iff₀ (by positivity)] at hlead
    push_cast at hlead
    rw [← two_mul_two_pow, mul_left_comm] at hlead
    exact le_of_mul_le_mul_left hlead two_pos
  obtain ⟨hr, hexp⟩ := @shortestFrom_rounds tie m 17 e (onGrid?_isSome hgrid)
  obtain ⟨hv, hle⟩ := trim_value 17 (shortestFrom tie 17 m e)
  unfold shortest
  rw [if_neg (by omega), Nat.one_shiftLeft, ← he, hv]
  exact ⟨hr, by omega⟩

theorem toNat_bits_ofMagnitude {negative : Bool} {m : Nat} (hm : m ≤ infinite) :
    (ofMagnitude negative m).bits.toNat = if negative then 2 ^ 63 + m else m := by
  have hlt : m < 2 ^ 63 := hm.trans_lt (by decide)
  unfold ofMagnitude
  rw [UInt64.toNat_ofNat']
  split <;> omega

theorem magnitude_ofMagnitude {negative : Bool} {m : Nat} (hm : m ≤ infinite) :
    (ofMagnitude negative m).magnitude = m := by
  have hlt : m < 2 ^ 63 := hm.trans_lt (by decide)
  rw [magnitude, toNat_bits_ofMagnitude hm]
  split <;> omega

theorem isNegative_ofMagnitude {negative : Bool} {m : Nat} (hm : m ≤ infinite) :
    (ofMagnitude negative m).isNegative = negative := by
  have hlt : m < 2 ^ 63 := hm.trans_lt (by decide)
  rw [isNegative, toNat_bits_ofMagnitude hm]
  cases negative with
  | false => exact decide_eq_false (Nat.not_le.mpr hlt)
  | true => exact decide_eq_true (Nat.le_add_right _ _)

theorem ofMagnitude_magnitude (x : Binary64) : ofMagnitude x.isNegative x.magnitude = x := by
  obtain ⟨bits⟩ := x
  have hlt : bits.toNat < 2 ^ 64 := bits.toNat_lt
  unfold ofMagnitude isNegative magnitude
  congr 1
  apply UInt64.toNat_inj.mp
  rw [UInt64.toNat_ofNat']
  dsimp only
  split
  · rename_i h
    rw [decide_eq_true_eq] at h
    omega
  · rename_i h
    rw [decide_eq_true_eq] at h
    omega

end Binary64

end DebateMesh

import DebateMesh.Proofs.Binary64.Decimal
import DebateMesh.Proofs.Binary64.Order

namespace DebateMesh.Binary64

variable {x x' y y' w : Binary64} {a b : Nat} {negative : Bool}

/-- A number from zero up; both zeros and infinity are among them. -/
structure Nonneg (x : Binary64) : Prop where
  number : x.magnitude ≤ infinite
  sign : x.isNegative = true → x.magnitude = 0

theorem Nonneg.of_magnitude (ha : a ≤ infinite) (h : negative = true → a = 0) :
    (ofMagnitude negative a).Nonneg := by
  constructor
  · rwa [magnitude_ofMagnitude ha]
  · rwa [magnitude_ofMagnitude ha, isNegative_ofMagnitude ha]

theorem nonneg_of_isNonNegative (h : isNonNegative x = true) : x.isFinite = true ∧ x.Nonneg := by
  obtain ⟨hfinite, hle⟩ := Bool.and_eq_true_iff.mp h
  obtain ⟨-, hnumber, hrank⟩ := le_iff.mp hle
  rw [isNaN, decide_eq_false_iff_not] at hnumber
  refine ⟨hfinite, Nat.not_lt.mp hnumber, fun hneg => ?_⟩
  have hzero : zero.rank = 0 := rfl
  rw [hzero, rank, if_pos hneg] at hrank
  omega

theorem Nonneg.isNaN (hx : x.Nonneg) : x.isNaN = false :=
  decide_eq_false (Nat.not_lt.mpr hx.number)

theorem Nonneg.totalRank_eq (hx : x.Nonneg) :
    x.totalRank = if x.isNegative then -1 else (x.magnitude : Int) := by
  unfold totalRank
  split
  · rename_i hneg
    rw [hx.sign hneg]
    rfl
  · rfl

/-- Among numbers from zero up the magnitude decides, and of two zeros the sign. -/
theorem Nonneg.totalRank_le_iff (hx : x.Nonneg) (hy : y.Nonneg) :
    x.totalRank ≤ y.totalRank ↔
      x.magnitude ≤ y.magnitude ∧ (y.isNegative = true → x.isNegative = true) := by
  rw [hx.totalRank_eq, hy.totalRank_eq]
  cases hxs : x.isNegative with
  | false =>
    cases hys : y.isNegative with
    | false => simp
    | true =>
      simp [hy.sign hys]
      omega
  | true =>
    cases y.isNegative with
    | false => simp [hx.sign hxs]
    | true => simp [hx.sign hxs]

theorem le_of_totalRank_le (hx : x.isNaN = false) (hy : y.isNaN = false)
    (h : x.totalRank ≤ y.totalRank) : x.le y = true := by
  refine le_iff.mpr ⟨hx, hy, ?_⟩
  unfold totalRank at h
  unfold rank
  cases hxs : x.isNegative <;> cases hys : y.isNegative <;> simp [hxs, hys] at h ⊢ <;> omega

theorem min_of_magnitude (ha : a ≤ infinite) (hb : b ≤ infinite) :
    (ofMagnitude false a).min (ofMagnitude false b) = ofMagnitude false (Nat.min a b) := by
  have hlt : (ofMagnitude false b).lt (ofMagnitude false a) = decide (b < a) := by
    have hna : (ofMagnitude false a).isNaN = false := (Nonneg.of_magnitude ha (by simp)).isNaN
    have hnb : (ofMagnitude false b).isNaN = false := (Nonneg.of_magnitude hb (by simp)).isNaN
    simp [lt, rank, hna, hnb, isNegative_ofMagnitude, magnitude_ofMagnitude, ha, hb]
  rw [min, hlt]
  by_cases h : b < a
  · rw [if_pos (decide_eq_true h), show Nat.min a b = b from Nat.min_eq_right (Nat.le_of_lt h)]
  · rw [if_neg (by simpa using h), show Nat.min a b = a from Nat.min_eq_left (Nat.not_lt.mp h)]

theorem isFinite_ofMagnitude (ha : a < infinite) : (ofMagnitude negative a).isFinite = true := by
  rw [isFinite, magnitude_ofMagnitude (Nat.le_of_lt ha), decide_eq_true ha]

theorem mul_of_magnitude (ha : a < infinite) (hw : w.isFinite = true) :
    (ofMagnitude false a).mul w =
      ofMagnitude w.isNegative (nearest (units a * units w.magnitude) (1 <<< 1074)) := by
  have hfinite : (ofMagnitude false a).isFinite = true := isFinite_ofMagnitude ha
  rw [mul, hfinite, hw, isNaN_of_isFinite hfinite, isNaN_of_isFinite hw]
  simp [isNegative_ofMagnitude, magnitude_ofMagnitude, Nat.le_of_lt ha]

theorem nonneg_mul (ha : a < infinite) (hw : w.isFinite = true ∧ w.Nonneg) :
    ((ofMagnitude false a).mul w).Nonneg := by
  rw [mul_of_magnitude ha hw.1]
  refine .of_magnitude (nearest_le_infinite _ _) fun hneg => ?_
  rw [hw.2.sign hneg]
  exact nearest_zero _

/-- A product with a weight grows with the other factor. -/
theorem mul_mono (hab : a ≤ b) (hb : b < infinite) (hw : w.isFinite = true ∧ w.Nonneg) :
    ((ofMagnitude false a).mul w).totalRank ≤ ((ofMagnitude false b).mul w).totalRank := by
  have ha := Nat.lt_of_le_of_lt hab hb
  rw [(nonneg_mul ha hw).totalRank_le_iff (nonneg_mul hb hw), mul_of_magnitude ha hw.1,
    mul_of_magnitude hb hw.1]
  simp only [magnitude_ofMagnitude, isNegative_ofMagnitude, nearest_le_infinite]
  refine ⟨nearest_mono (by decide) (by decide) ?_, id⟩
  gcongr
  exact units_strictMono.monotone hab

theorem Nonneg.signedUnits_eq (hx : x.Nonneg) : x.signedUnits = units x.magnitude := by
  unfold signedUnits
  split
  · rename_i hneg
    rw [hx.sign hneg]
    rfl
  · rfl

theorem Nonneg.infinite_of (hx : x.Nonneg) (h : x.isFinite = false) :
    x.magnitude = infinite ∧ x.isNegative = false := by
  rw [isFinite, decide_eq_false_iff_not, Nat.not_lt] at h
  have hmagnitude := Nat.le_antisymm hx.number h
  refine ⟨hmagnitude, Bool.eq_false_iff.mpr fun hneg => ?_⟩
  rw [hx.sign hneg] at hmagnitude
  exact absurd hmagnitude (by decide)

theorem Nonneg.eq_infinity (hx : x.Nonneg) (h : x.isFinite = false) :
    x = ofMagnitude false infinite := by
  obtain ⟨hmagnitude, hsign⟩ := hx.infinite_of h
  rw [← hmagnitude, ← hsign]
  exact (ofMagnitude_magnitude x).symm

theorem Nonneg.isInfinite_eq (hx : x.Nonneg) : x.isInfinite = !x.isFinite := by
  have hle := hx.number
  unfold isInfinite isFinite
  rw [← decide_not, decide_eq_decide]
  omega

/-- The magnitude of a sum of numbers from zero up. -/
def sumMagnitude (x y : Binary64) : Nat :=
  if x.isFinite && y.isFinite then nearest (units x.magnitude + units y.magnitude) 1 else infinite

theorem sumMagnitude_le (x y : Binary64) : sumMagnitude x y ≤ infinite := by
  unfold sumMagnitude
  split
  · exact nearest_le_infinite _ _
  · exact Nat.le_refl _

theorem Nonneg.add_eq (hx : x.Nonneg) (hy : y.Nonneg) :
    x.add y = ofMagnitude (x.isNegative && y.isNegative) (sumMagnitude x y) := by
  unfold add sumMagnitude
  rw [hx.isNaN, hy.isNaN, hx.isInfinite_eq, hy.isInfinite_eq]
  cases hxf : x.isFinite with
  | false =>
    obtain ⟨-, hsign⟩ := hx.infinite_of hxf
    have hsame : ¬ (y.isFinite = false ∧ y.isNegative = true) := by
      rintro ⟨hyf, hneg⟩
      simp [(hy.infinite_of hyf).2] at hneg
    simpa [hsame, hsign] using hx.eq_infinity hxf
  | true =>
    cases hyf : y.isFinite with
    | false => simpa [(hy.infinite_of hyf).2] using hy.eq_infinity hyf
    | true =>
      have hsum : x.signedUnits + y.signedUnits =
          ((units x.magnitude + units y.magnitude : Nat) : Int) := by
        rw [hx.signedUnits_eq, hy.signedUnits_eq, Int.natCast_add]
      have hsign (h : units x.magnitude + units y.magnitude ≠ 0) :
          (x.isNegative && y.isNegative) = false := by
        rw [Bool.eq_false_iff]
        intro hneg
        obtain ⟨hxneg, hyneg⟩ := Bool.and_eq_true_iff.mp hneg
        rw [hx.sign hxneg, hy.sign hyneg] at h
        exact h rfl
      simp only [hsum, Int.natAbs_natCast]
      generalize units x.magnitude + units y.magnitude = n at hsign ⊢
      rcases Nat.eq_zero_or_pos n with rfl | hn
      · simp
      · have hnonneg : ¬ (n : Int) < 0 := by omega
        simp [hsign (Nat.ne_of_gt hn), Nat.ne_of_gt hn, hnonneg]

theorem Nonneg.add (hx : x.Nonneg) (hy : y.Nonneg) : (x.add y).Nonneg := by
  rw [hx.add_eq hy]
  refine .of_magnitude (sumMagnitude_le x y) fun hneg => ?_
  obtain ⟨hxneg, hyneg⟩ := Bool.and_eq_true_iff.mp hneg
  have hfinite (z : Binary64) (hz : z.magnitude = 0) : z.isFinite = true := by
    rw [isFinite, hz]
    decide
  rw [sumMagnitude, hfinite x (hx.sign hxneg), hfinite y (hy.sign hyneg), hx.sign hxneg,
    hy.sign hyneg]
  exact nearest_zero 1

theorem sumMagnitude_mono (hx : x.magnitude ≤ x'.magnitude) (hy : y.magnitude ≤ y'.magnitude) :
    sumMagnitude x y ≤ sumMagnitude x' y' := by
  by_cases hfinite : (x'.isFinite && y'.isFinite) = true
  · obtain ⟨hxf, hyf⟩ := Bool.and_eq_true_iff.mp hfinite
    unfold isFinite at hxf hyf
    rw [decide_eq_true_eq] at hxf hyf
    have hfinite' : (x.isFinite && y.isFinite) = true := by
      simp [isFinite, Nat.lt_of_le_of_lt hx hxf, Nat.lt_of_le_of_lt hy hyf]
    rw [sumMagnitude, if_pos hfinite', sumMagnitude, if_pos hfinite]
    refine nearest_mono Nat.one_pos Nat.one_pos ?_
    gcongr
    · exact units_strictMono.monotone hx
    · exact units_strictMono.monotone hy
  · rw [sumMagnitude, sumMagnitude, if_neg hfinite]
    exact sumMagnitude_le x y

/-- A sum grows with its terms. -/
theorem add_mono (hx : x.Nonneg) (hx' : x'.Nonneg) (hy : y.Nonneg) (hy' : y'.Nonneg)
    (hxx : x.totalRank ≤ x'.totalRank) (hyy : y.totalRank ≤ y'.totalRank) :
    (x.add y).totalRank ≤ (x'.add y').totalRank := by
  obtain ⟨hxm, hxs⟩ := (hx.totalRank_le_iff hx').mp hxx
  obtain ⟨hym, hys⟩ := (hy.totalRank_le_iff hy').mp hyy
  rw [(hx.add hy).totalRank_le_iff (hx'.add hy'), hx.add_eq hy, hx'.add_eq hy']
  simp only [magnitude_ofMagnitude, isNegative_ofMagnitude, sumMagnitude_le]
  refine ⟨sumMagnitude_mono hxm hym, fun hneg => ?_⟩
  obtain ⟨hxneg, hyneg⟩ := Bool.and_eq_true_iff.mp hneg
  rw [hxs hxneg, hys hyneg]
  rfl

end DebateMesh.Binary64

import DebateMesh.Message

namespace DebateMesh

namespace Binary64

theorem le_iff {x y : Binary64} :
    x.le y = true ↔ x.isNaN = false ∧ y.isNaN = false ∧ x.rank ≤ y.rank := by
  simp [le, and_assoc]

theorem lt_iff {x y : Binary64} :
    x.lt y = true ↔ x.isNaN = false ∧ y.isNaN = false ∧ x.rank < y.rank := by
  simp [lt, and_assoc]

theorem isFinite_of_rank {x : Binary64} (h : x.rank.natAbs < infinite) : x.isFinite = true := by
  unfold rank at h
  rw [isFinite, decide_eq_true_eq]
  split at h <;> omega

theorem isNaN_of_isFinite {x : Binary64} (h : x.isFinite = true) : x.isNaN = false := by
  rw [isFinite, decide_eq_true_eq] at h
  rw [isNaN, decide_eq_false_iff_not]
  omega

theorem le_of_not_lt {x y : Binary64} (hx : x.isFinite = true) (hy : y.isFinite = true)
    (h : y.lt x = false) : x.le y = true := by
  have hx := isNaN_of_isFinite hx
  have hy := isNaN_of_isFinite hy
  rw [← Bool.not_eq_true, lt_iff] at h
  rw [le_iff]
  exact ⟨hx, hy, Int.not_lt.mp fun hgreater => h ⟨hy, hx, hgreater⟩⟩

end Binary64

open Binary64

/-- A number is from zero to one just when its rank is. -/
theorem isUnit_iff {x : Binary64} :
    isUnit x = true ↔ x.isNaN = false ∧ 0 ≤ x.rank ∧ x.rank ≤ one.rank := by
  have hzero : zero.rank = 0 ∧ zero.isNaN = false := by decide
  have hone : one.rank.natAbs < infinite ∧ one.isNaN = false := by decide +kernel
  unfold isUnit
  rw [Bool.and_eq_true, Bool.and_eq_true, le_iff, le_iff, hzero.1, hzero.2, hone.2]
  constructor
  · rintro ⟨⟨-, -, hx, h0⟩, -, -, h1⟩
    exact ⟨hx, h0, h1⟩
  · rintro ⟨hx, h0, h1⟩
    exact ⟨⟨isFinite_of_rank (by omega), rfl, hx, h0⟩, hx, rfl, h1⟩

theorem isUnit_clamp {x : Binary64} (hx : x.isNaN = false) : isUnit (x.clamp zero one) = true := by
  have hzero : zero.rank = 0 ∧ zero.isNaN = false := by decide
  have hone : one.isNaN = false := by decide +kernel
  unfold clamp
  split
  · decide +kernel
  rename_i hlow
  split
  · decide +kernel
  rename_i hhigh
  rw [lt_iff] at hlow hhigh
  rw [isUnit_iff]
  refine ⟨hx, ?_, ?_⟩
  · exact Int.not_lt.mp fun h => hlow ⟨hx, hzero.2, hzero.1.symm ▸ h⟩
  · exact Int.not_lt.mp fun h => hhigh ⟨hone, hx, h⟩

end DebateMesh

namespace DebateMesh

variable {α : Type}

/-- Puts `x` before the first entry that it leads. -/
def rankInto (leads : α → α → Bool) (x : α) : List α → List α
  | [] => [x]
  | y :: ys => if leads x y then x :: y :: ys else y :: rankInto leads x ys

def rankBy (leads : α → α → Bool) : List α → List α
  | [] => []
  | x :: xs => rankInto leads x (rankBy leads xs)

theorem perm_rankInto (leads : α → α → Bool) (x : α) (ys : List α) :
    (rankInto leads x ys).Perm (x :: ys) := by
  induction ys with
  | nil => exact .refl _
  | cons y ys ih =>
    unfold rankInto
    split
    · exact .refl _
    · exact (ih.cons y).trans (.swap x y ys)

theorem perm_rankBy (leads : α → α → Bool) (xs : List α) : (rankBy leads xs).Perm xs := by
  induction xs with
  | nil => exact .refl _
  | cons x xs ih => exact (perm_rankInto leads x _).trans (ih.cons x)

end DebateMesh

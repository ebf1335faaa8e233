namespace DebateMesh.Text

/-- The value of a digit; letters count in either case. -/
def digitValue? (base : Nat) (c : Char) : Option Nat :=
  let n := c.toNat
  let v :=
    if 48 ≤ n ∧ n ≤ 57 then n - 48
    else if 97 ≤ n ∧ n ≤ 102 then n - 87
    else if 65 ≤ n ∧ n ≤ 70 then n - 55
    else base
  if v < base then some v else none

def isDigit (base : Nat) (c : Char) : Bool := (digitValue? base c).isSome

def ofDigits (base : Nat) (ds : List Nat) : Nat := ds.foldl (fun n d => n * base + d) 0

/-- The values of the digits a text starts with, and what follows them. -/
def leadingDigits (base : Nat) (cs : List Char) : List Nat × List Char :=
  ((cs.takeWhile (isDigit base)).filterMap (digitValue? base), cs.dropWhile (isDigit base))

end DebateMesh.Text

import DebateMesh.Binary64

namespace DebateMesh.Binary64

/-- The magnitude nearest to `num / den` units, of two the even one. -/
def nearest (num den : Nat) : Nat :=
  let s := (num / den).log2 - 52
  let step := den <<< s
  let q := num / step
  let r := num % step
  let up := step < 2 * r ∨ step = 2 * r ∧ q % 2 = 1
  Nat.min (s <<< 52 + (if up then q + 1 else q)) infinite

def ofRatio (negative : Bool) (num den : Nat) : Binary64 :=
  ofMagnitude negative (nearest (num <<< 1074) den)

def ofNat (n : Nat) : Binary64 := ofRatio false n 1

def ofInt (n : Int) : Binary64 := ofRatio (decide (n < 0)) n.natAbs 1

def one : Binary64 := ofNat 1

/-- The outcome of an operation that has none. -/
def invalid : Binary64 := ⟨0xFFF8000000000000⟩

/-- A not-a-number as an operation hands it on: the top bit of its payload is set. -/
def quiet (x : Binary64) : Binary64 := ⟨x.bits ||| 0x0008000000000000⟩

def signedUnits (x : Binary64) : Int :=
  if x.isNegative then - (units x.magnitude : Int) else units x.magnitude

def mul (x y : Binary64) : Binary64 :=
  let sign := x.isNegative != y.isNegative
  if x.isNaN then x.quiet
  else if y.isNaN then y.quiet
  else if x.isFinite && y.isFinite then
    ofMagnitude sign (nearest (units x.magnitude * units y.magnitude) (1 <<< 1074))
  else if x.isZero || y.isZero then invalid
  else ofMagnitude sign infinite

/-- A sum of exactly zero is negative only when both terms are. -/
def add (x y : Binary64) : Binary64 :=
  if x.isNaN then x.quiet
  else if y.isNaN then y.quiet
  else if x.isInfinite then
    if y.isInfinite && x.isNegative != y.isNegative then invalid else x
  else if y.isInfinite then y
  else
    let sum := x.signedUnits + y.signedUnits
    let negative := if sum = 0 then x.isNegative && y.isNegative else decide (sum < 0)
    ofMagnitude negative (nearest sum.natAbs 1)

end DebateMesh.Binary64

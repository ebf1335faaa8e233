namespace DebateMesh

/-- A double-precision number, by its interchange bits. -/
structure Binary64 where
  bits : UInt64
deriving DecidableEq, Inhabited

namespace Binary64

/-- The magnitude of an infinity; larger ones are no numbers. -/
def infinite : Nat := 0x7FF <<< 52

def magnitude (x : Binary64) : Nat := x.bits.toNat % 0x8000000000000000

def isNegative (x : Binary64) : Bool := decide (0x8000000000000000 ≤ x.bits.toNat)

def ofMagnitude (negative : Bool) (m : Nat) : Binary64 :=
  ⟨UInt64.ofNat (if negative then 0x8000000000000000 + m else m)⟩

def zero : Binary64 := ⟨0⟩

def isFinite (x : Binary64) : Bool := decide (x.magnitude < infinite)

def isNaN (x : Binary64) : Bool := decide (infinite < x.magnitude)

def isInfinite (x : Binary64) : Bool := decide (x.magnitude = infinite)

def isZero (x : Binary64) : Bool := decide (x.magnitude = 0)

/-- The significand of a finite magnitude, with its leading bit. -/
def significand (m : Nat) : Nat := if m < 1 <<< 52 then m else 1 <<< 52 + m % 1 <<< 52

/-- How often the significand of a magnitude is doubled. -/
def scale (m : Nat) : Nat := m / 1 <<< 52 - 1

/-- The value of a finite magnitude, in multiples of `2 ^ (-1074)`. -/
def units (m : Nat) : Nat := significand m <<< scale m

/-- Position among numbers; the two zeros share one. -/
def rank (x : Binary64) : Int := if x.isNegative then - (x.magnitude : Int) else x.magnitude

/-- Position in the total order, where `-0` is below `0` and not-a-numbers lie outside the
infinities. -/
def totalRank (x : Binary64) : Int :=
  if x.isNegative then - (x.magnitude : Int) - 1 else x.magnitude

def le (x y : Binary64) : Bool := !x.isNaN && !y.isNaN && decide (x.rank ≤ y.rank)

def lt (x y : Binary64) : Bool := !x.isNaN && !y.isNaN && decide (x.rank < y.rank)

/-- Moves a number outside `[low, high]` to the nearer end. -/
def clamp (x low high : Binary64) : Binary64 :=
  if x.lt low then low else if high.lt x then high else x

def min (x y : Binary64) : Binary64 := if y.lt x then y else x

end Binary64

end DebateMesh

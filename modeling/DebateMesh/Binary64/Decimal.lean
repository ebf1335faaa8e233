import DebateMesh.Binary64.Arithmetic

namespace DebateMesh

/-- The value `digits * 10 ^ exponent`. -/
structure Decimal where
  digits : Nat
  exponent : Int
deriving DecidableEq

namespace Decimal

def digitChars (n : Nat) : List Char := Nat.toDigits 10 n

/-- Exponent of the leading digit. -/
def leading (d : Decimal) : Int := d.exponent + (digitChars d.digits).length - 1

/-- Without an exponent; `whole` follows a number that has no fraction. -/
def positional (d : Decimal) (whole : List Char) : List Char :=
  let ds := digitChars d.digits
  if 0 ≤ d.exponent then ds ++ List.replicate d.exponent.toNat '0' ++ whole
  else if 0 ≤ d.leading then
    let n := d.leading.toNat + 1
    ds.take n ++ '.' :: ds.drop n
  else '0' :: '.' :: List.replicate (- d.leading - 1).toNat '0' ++ ds

/-- One digit, the others behind a point, and a signed exponent. -/
def scientific (d : Decimal) : List Char :=
  let e := d.leading
  let mantissa := match digitChars d.digits with
    | [] => []
    | [x] => [x]
    | x :: xs => x :: '.' :: xs
  mantissa ++ 'e' :: (if e < 0 then '-' else '+') :: digitChars e.natAbs

end Decimal

namespace Binary64

/-- Beyond these bounds on the leading digit the nearest magnitude is infinite or zero. -/
def ofDecimal (negative : Bool) (d : Decimal) : Binary64 :=
  if d.digits = 0 then ofMagnitude negative 0
  else if 310 < d.leading then ofMagnitude negative infinite
  else if d.leading < -400 then ofMagnitude negative 0
  else if 0 ≤ d.exponent then ofRatio negative (d.digits * Nat.pow 10 d.exponent.toNat) 1
  else ofRatio negative d.digits (Nat.pow 10 (- d.exponent).toNat)

/-- How often `num` is taken tenfold until it reaches `den`; `fuel` bounds the answer. -/
def tenfolds : (fuel : Nat) → (num den : Nat) → Nat
  | 0, _, _ => 0
  | fuel + 1, num, den => if den ≤ num then 0 else tenfolds fuel (num * 10) den + 1

/-- Exponent of the leading digit of `num / den`. -/
def leadingDigit (num den : Nat) : Int :=
  if den ≤ num then (Decimal.digitChars (num / den)).length - 1 else - (tenfolds 400 num den : Int)

/-- Which of two neighbours a value halfway between them goes to. -/
inductive Tie
  /-- The one with the even last digit. -/
  | toEven
  /-- The greater magnitude. -/
  | away
deriving DecidableEq

/-- What units are multiplied with before they are compared with multiples of `10 ^ exponent`. -/
def unitScale (exponent : Int) : Nat := if 0 ≤ exponent then 1 else Nat.pow 10 (- exponent).toNat

/-- What the multiples are multiplied with, to give half units. -/
def gridScale (exponent : Int) : Nat :=
  (if 0 ≤ exponent then Nat.pow 10 exponent.toNat else 1) <<< 1075

/-- Whether `c * 10 ^ exponent` lies between the midpoints around the magnitude `m`. An even
magnitude takes in the midpoints. -/
def isInside (m : Nat) (exponent : Int) (c : Nat) : Bool :=
  let low := (units (m - 1) + units m) * unitScale exponent
  let high := (units m + units (m + 1)) * unitScale exponent
  let value := c * gridScale exponent
  if m % 2 = 0 then decide (low ≤ value ∧ value ≤ high) else decide (low < value ∧ value < high)

/-- The better of the value's two neighbours on the grid of multiples of `10 ^ exponent`, if one
rounds to the magnitude `m`. -/
def onGrid? (tie : Tie) (m : Nat) (exponent : Int) : Option Decimal :=
  let den := gridScale exponent
  let value := 2 * units m * unitScale exponent
  let below := value / den
  let r := value % den
  let above := below + 1
  let nearerAbove := den < 2 * r ∨ den = 2 * r ∧ (tie = .away ∨ below % 2 = 1)
  if isInside m exponent below && isInside m exponent above then
    some ⟨if nearerAbove then above else below, exponent⟩
  else if isInside m exponent below then some ⟨below, exponent⟩
  else if isInside m exponent above then some ⟨above, exponent⟩
  else none

/-- Tries grids from the coarse to the fine one. -/
def shortestFrom (tie : Tie) : (fuel : Nat) → (m : Nat) → (exponent : Int) → Decimal
  | 0, m, exponent => (onGrid? tie m exponent).getD ⟨0, 0⟩
  | fuel + 1, m, exponent =>
    match onGrid? tie m exponent with
    | some d => d
    | none => shortestFrom tie fuel m (exponent - 1)

/-- Drops trailing zeros; `fuel` bounds their number. -/
def trim : (fuel : Nat) → Decimal → Decimal
  | 0, d => d
  | fuel + 1, d => if d.digits % 10 = 0 then trim fuel ⟨d.digits / 10, d.exponent + 1⟩ else d

/-- The shortest decimal that is read as a finite magnitude, and of those the nearest. -/
def shortest (tie : Tie) (m : Nat) : Decimal :=
  if m = 0 then ⟨0, 0⟩
  else trim 17 (shortestFrom tie 17 m (leadingDigit (2 * units m) (1 <<< 1075)))

/-- The text of a finite number: positional when the leading digit's exponent is at least `-5` and
below `16`, with `.0` behind a whole number. A tie goes to the even digit. -/
def text (x : Binary64) : List Char :=
  let d := shortest .toEven x.magnitude
  let body := if -5 ≤ d.leading ∧ d.leading < 16 then d.positional ['.', '0'] else d.scientific
  if x.isNegative then '-' :: body else body

/-- The text of any number, positional throughout. A tie goes away from zero. -/
def positionalText (x : Binary64) : List Char :=
  if x.isNaN then ['N', 'a', 'N']
  else
    let body := if x.isInfinite then ['i', 'n', 'f'] else (shortest .away x.magnitude).positional []
    if x.isNegative then '-' :: body else body

end Binary64

end DebateMesh

import DebateMesh.Binary64.Decimal
import DebateMesh.Text.Digits
import DebateMesh.Toml

namespace DebateMesh.Toml

/-- Digits with single underscores between them, and what follows; `acc` holds the values of the
digits before, last first. -/
def moreDigits (base : Nat) : List Char → List Nat → Option (List Nat × List Char)
  | [], acc => some (acc.reverse, [])
  | c :: cs, acc =>
    match Text.digitValue? base c with
    | some d => moreDigits base cs (d :: acc)
    | none =>
      if c = '_' then
        match cs with
        | [] => none
        | c :: cs =>
          match Text.digitValue? base c with
          | some d => moreDigits base cs (d :: acc)
          | none => none
      else some (acc.reverse, c :: cs)

def digits? (base : Nat) : List Char → Option (List Nat × List Char)
  | [] => none
  | c :: cs => (Text.digitValue? base c).bind fun d => moreDigits base cs [d]

/-- Whether a text starts with a sign, and what follows it. -/
def sign? : List Char → Option Bool × List Char
  | '+' :: cs => (some false, cs)
  | '-' :: cs => (some true, cs)
  | cs => (none, cs)

def isInt64 (n : Int) : Bool := decide (-0x8000000000000000 ≤ n ∧ n < 0x8000000000000000)

/-- A whole number in a base of its own, without a sign. -/
def based? (base : Nat) (cs : List Char) : Option (Toml × List Char) := do
  let (ds, cs) ← digits? base cs
  let n := Text.ofDigits base ds
  if isInt64 n then some (integer n, cs) else none

def whole? (cs : List Char) : Option (List Nat × List Char) := do
  let (ds, cs) ← digits? 10 cs
  if ds.head? = some 0 ∧ ds.length ≠ 1 then none else some (ds, cs)

def fraction? : List Char → Option (Option (List Nat) × List Char)
  | '.' :: cs => (digits? 10 cs).map fun (ds, cs) => (some ds, cs)
  | cs => some (none, cs)

/-- The size of an exponent. Its digits count until it has reached 65536; the others are left out.
-/
def exponentOf (ds : List Nat) : Nat :=
  ds.foldl (fun n d => if n < 65536 then 10 * n + d else n) 0

/-- The power of ten behind an `e`, if there is one. -/
def exponent? : List Char → Option (Option Int × List Char)
  | c :: cs =>
    if c = 'e' ∨ c = 'E' then do
      let (negative, cs) := sign? cs
      let (ds, cs) ← digits? 10 cs
      let n : Int := exponentOf ds
      return (some (if negative = some true then -n else n), cs)
    else some (none, c :: cs)
  | [] => some (none, [])

/-- A number in base ten behind its sign. One beyond the positive range is refused; one beyond the
negative range is the negative infinity. -/
def decimal? (negative : Bool) (cs : List Char) : Option (Toml × List Char) := do
  let (ds, cs) ← whole? cs
  let (fs, cs) ← fraction? cs
  let (e, cs) ← exponent? cs
  if fs.isNone ∧ e.isNone then
    let n : Int := Text.ofDigits 10 ds
    let n := if negative then -n else n
    if isInt64 n then some (integer n, cs) else none
  else
    let fs := fs.getD []
    let x := Binary64.ofDecimal negative ⟨Text.ofDigits 10 (ds ++ fs), e.getD 0 - fs.length⟩
    if x.isInfinite && !x.isNegative then none else some (real x, cs)

def number? (cs : List Char) : Option (Toml × List Char) :=
  match sign? cs with
  | (sign, cs) =>
    let negative := sign = some true
    match cs with
    | 'i' :: 'n' :: 'f' :: cs => some (real (.ofMagnitude negative Binary64.infinite), cs)
    | 'n' :: 'a' :: 'n' :: cs =>
      some (real (.ofMagnitude negative (Binary64.infinite + 1 <<< 51)), cs)
    | '0' :: c :: cs' =>
      if sign.isSome then decimal? negative cs
      else if c = 'x' then based? 16 cs'
      else if c = 'o' then based? 8 cs'
      else if c = 'b' then based? 2 cs'
      else decimal? negative cs
    | cs => decimal? negative cs

end DebateMesh.Toml

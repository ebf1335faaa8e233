import DebateMesh.Json
import DebateMesh.Text.Digits
import DebateMesh.Text.Utf8

namespace DebateMesh.Json

def maxDepth : Nat := 127

/-- How many significant digits of a number are looked at. No number halfway between two doubles
has more. -/
def maxDigits : Nat := 768

def isBlank (c : Char) : Bool := c == ' ' || c == '\t' || c == '\n' || c == '\r'

def skipBlanks (cs : List Char) : List Char := cs.dropWhile isBlank

/-- A code unit in four hexadecimal digits. -/
def unit? (a b c d : Char) : Option Nat := do
  let a ← Text.digitValue? 16 a
  let b ← Text.digitValue? 16 b
  let c ← Text.digitValue? 16 c
  let d ← Text.digitValue? 16 d
  return ((a * 16 + b) * 16 + c) * 16 + d

/-- The character behind a backslash, other than `u`. -/
def simpleEscape? (c : Char) : Option Char :=
  if c = '"' ∨ c = '\\' ∨ c = '/' then some c
  else if c = 'n' then some '\n'
  else if c = 'r' then some '\r'
  else if c = 't' then some '\t'
  else if c = 'b' then some '\x08'
  else if c = 'f' then some '\x0c'
  else none

def isSurrogate (n : Nat) : Bool := decide (0xD800 ≤ n ∧ n < 0xE000)

/-- The character of two surrogates, the first high and the second low. -/
def pair? (high low : Nat) : Option Char :=
  if 0xD800 ≤ high ∧ high < 0xDC00 ∧ 0xDC00 ≤ low ∧ low < 0xE000 then
    some (Char.ofNat (0x10000 + (high - 0xD800) * 1024 + (low - 0xDC00)))
  else none

/-- The rest of a string behind its opening quote; `acc` holds what was read, last first. -/
def stringBody : List Char → List Char → Option (String × List Char)
  | [], _ => none
  | c :: cs, acc =>
    if c = '"' then some (String.ofList acc.reverse, cs)
    else if c = '\\' then
      match cs with
      | [] => none
      | e :: cs =>
        if e = 'u' then
          match cs with
          | a :: b :: c :: d :: cs =>
            match unit? a b c d with
            | none => none
            | some n =>
              if isSurrogate n then
                match cs with
                | s :: u :: a :: b :: c :: d :: cs =>
                  if s = '\\' ∧ u = 'u' then
                    match (unit? a b c d).bind (pair? n) with
                    | some x => stringBody cs (x :: acc)
                    | none => none
                  else none
                | _ => none
              else stringBody cs (Char.ofNat n :: acc)
          | _ => none
        else
          match simpleEscape? e with
          | some x => stringBody cs (x :: acc)
          | none => none
    else if c < ' ' then none
    else stringBody cs (c :: acc)

def isDigit (c : Char) : Bool := decide ('0' ≤ c ∧ c ≤ '9')

def natOf (ds : List Char) : Nat := ds.foldl (fun n c => n * 10 + (c.toNat - 48)) 0

/-- One or more digits, and what follows them. -/
def digits? (cs : List Char) : Option (List Char × List Char) :=
  match cs.takeWhile isDigit with
  | [] => none
  | ds => some (ds, cs.dropWhile isDigit)

def whole? (cs : List Char) : Option (List Char × List Char) := do
  let (ds, rest) ← digits? cs
  if ds.head? = some '0' ∧ ds.length ≠ 1 then none else some (ds, rest)

def fraction? : List Char → Option (List Char × List Char)
  | '.' :: cs => digits? cs
  | cs => some ([], cs)

def exponent? (cs : List Char) : Option (Option Int × List Char) :=
  match cs with
  | c :: cs' =>
    if c = 'e' ∨ c = 'E' then do
      let (negative, cs') := match cs' with
        | '-' :: r => (true, r)
        | '+' :: r => (false, r)
        | r => (false, r)
      let (ds, rest) ← digits? cs'
      let n : Int := natOf ds
      return (some (if negative then -n else n), rest)
    else some (none, cs)
  | [] => some (none, cs)

/-- A number without fraction or exponent stays whole when 64 bits hold it. -/
def wholeNumber (negative : Bool) (n : Nat) : Json :=
  if negative then
    if n = 0 ∨ 0x8000000000000000 < n then double (Binary64.ofRatio true n 1) else int (-n)
  else if n < UInt64.size then int n
  else double (Binary64.ofRatio false n 1)

/-- The value of the digits before and behind a point, times a power of ten. Zeros at the end of a
fraction do not count. Digits beyond the first `maxDigits` count as a single one, zeros among them.
-/
def decimalOf (ds fs : List Char) (exponent : Int) : Decimal :=
  let fs := (fs.reverse.dropWhile (· == '0')).reverse
  let digits := (ds ++ fs).dropWhile (· == '0')
  let exponent := exponent - fs.length
  let extra := digits.length - maxDigits
  if extra = 0 then ⟨natOf digits, exponent⟩
  else ⟨natOf (digits.take maxDigits) * 10 + 1, exponent + extra - 1⟩

/-- Refuses a number that no finite double is near to. -/
def finite? (v : Json) : Option Json :=
  match v with
  | double x => if x.isFinite then some v else none
  | _ => some v

def unsigned? (negative : Bool) (cs : List Char) : Option (Json × List Char) := do
  let (ds, cs) ← whole? cs
  let (fs, cs) ← fraction? cs
  let (e, cs) ← exponent? cs
  let v ←
    if fs.isEmpty ∧ e.isNone then
      if 400 < ds.length then none else finite? (wholeNumber negative (natOf ds))
    else
      finite? (double (Binary64.ofDecimal negative (decimalOf ds fs (e.getD 0))))
  return (v, cs)

def number? : List Char → Option (Json × List Char)
  | '-' :: cs => unsigned? true cs
  | cs => unsigned? false cs

abbrev ReadValue := List Char → Option (Json × List Char)

/-- Items up to the closing bracket, of which there is at least one; `fuel` bounds their number. -/
def items? (read : ReadValue) : (fuel : Nat) → List Char → List Json →
    Option (List Json × List Char)
  | 0, _, _ => none
  | fuel + 1, cs, acc =>
    match read cs with
    | none => none
    | some (v, cs) =>
      match skipBlanks cs with
      | ',' :: cs => items? read fuel cs (v :: acc)
      | ']' :: cs => some ((v :: acc).reverse, cs)
      | _ => none

def member (read : ReadValue) (cs : List Char) : Option ((String × Json) × List Char) :=
  match skipBlanks cs with
  | '"' :: cs => do
    let (name, cs) ← stringBody cs []
    match skipBlanks cs with
    | ':' :: cs =>
      let (v, cs) ← read cs
      return ((name, v), cs)
    | _ => none
  | _ => none

/-- Members up to the closing brace, of which there is at least one. -/
def members? (read : ReadValue) : (fuel : Nat) → List Char → Members →
    Option (Members × List Char)
  | 0, _, _ => none
  | fuel + 1, cs, acc =>
    match member read cs with
    | none => none
    | some (m, cs) =>
      match skipBlanks cs with
      | ',' :: cs => members? read fuel cs (m :: acc)
      | '}' :: cs => some ((m :: acc).reverse, cs)
      | _ => none

def word? (word : List Char) (v : Json) (cs : List Char) : Option (Json × List Char) :=
  if word.isPrefixOf cs then some (v, cs.drop word.length) else none

def list? (read : ReadValue) (fuel : Nat) (cs : List Char) : Option (Json × List Char) :=
  match skipBlanks cs with
  | ']' :: cs => some (arr [], cs)
  | cs => (items? read fuel cs []).map fun (vs, cs) => (arr vs, cs)

def object? (read : ReadValue) (fuel : Nat) (cs : List Char) : Option (Json × List Char) :=
  match skipBlanks cs with
  | '}' :: cs => some (obj [], cs)
  | cs => (members? read fuel cs []).map fun (ms, cs) => (obj ms, cs)

/-- What a value is after its first character, when no array or object may begin. -/
def scalar? (cs : List Char) : Option (Json × List Char) :=
  match cs with
  | '"' :: cs => (stringBody cs []).map fun (s, cs) => (str s, cs)
  | 'n' :: _ => word? ['n', 'u', 'l', 'l'] null cs
  | 't' :: _ => word? ['t', 'r', 'u', 'e'] (bool true) cs
  | 'f' :: _ => word? ['f', 'a', 'l', 's', 'e'] (bool false) cs
  | _ => number? cs

/-- A value behind blanks, and what follows it. `fuel` bounds the items of any one list. -/
def value? (fuel : Nat) : (depth : Nat) → ReadValue
  | 0, cs =>
    match skipBlanks cs with
    | '[' :: _ => none
    | '{' :: _ => none
    | cs => scalar? cs
  | depth + 1, cs =>
    match skipBlanks cs with
    | '[' :: cs => list? (value? fuel depth) fuel cs
    | '{' :: cs => object? (value? fuel depth) fuel cs
    | cs => scalar? cs

/-- The value of a text that holds nothing else but blanks. -/
def ofChars (cs : List Char) : Option Json := do
  let (v, rest) ← value? cs.length maxDepth cs
  if (skipBlanks rest).isEmpty then some v else none

def decode (bs : Bytes) : Option Json := (Utf8.decodeChars bs).bind ofChars

end DebateMesh.Json

import DebateMesh.Bytes
import DebateMesh.Text.Quoted

namespace DebateMesh.Hex

inductive Fault
  /-- The text has an odd number of octets. -/
  | oddLength
  /-- The octet at this position is no digit. -/
  | badDigit (octet : UInt8) (position : Nat)
deriving DecidableEq

def Fault.message : Fault → String
  | .oddLength => "Odd number of digits"
  | .badDigit b i =>
    "Invalid character " ++ Text.quotedChar (Char.ofNat b.toNat) ++ " at position " ++ toString i

def digit (n : Nat) : Char :=
  if n < 10 then Char.ofNat (48 + n) else Char.ofNat (87 + n)

/-- Two digits an octet, in lower case. -/
def encodeChars (bs : Bytes) : List Char :=
  bs.flatMap fun b => [digit (b.toNat / 16), digit (b.toNat % 16)]

def encode (bs : Bytes) : String := String.ofList (encodeChars bs)

def value? (b : UInt8) : Option Nat :=
  let n := b.toNat
  if 48 ≤ n ∧ n ≤ 57 then some (n - 48)
  else if 97 ≤ n ∧ n ≤ 102 then some (n - 87)
  else if 65 ≤ n ∧ n ≤ 70 then some (n - 55)
  else none

def isDigit (b : UInt8) : Bool := (value? b).isSome

/-- Octets are read in pairs from the left, and the first that is no digit is reported. -/
def pairs : Bytes → Nat → Bytes → Except Fault Bytes
  | hi :: lo :: rest, i, acc =>
    match value? hi, value? lo with
    | some h, some l => pairs rest (i + 2) (UInt8.ofNat (16 * h + l) :: acc)
    | none, _ => .error (.badDigit hi i)
    | some _, none => .error (.badDigit lo (i + 1))
  | _, _, acc => .ok acc.reverse

def decode (text : Bytes) : Except Fault Bytes :=
  if text.length % 2 = 1 then .error .oddLength else pairs text 0 []

end DebateMesh.Hex

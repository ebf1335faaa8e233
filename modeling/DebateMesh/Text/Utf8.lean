import DebateMesh.Bytes

namespace DebateMesh.Utf8

def encodeChar (c : Char) : Bytes :=
  let n := c.toNat
  if n < 0x80 then [UInt8.ofNat n]
  else if n < 0x800 then [UInt8.ofNat (0xC0 + n / 64), UInt8.ofNat (0x80 + n % 64)]
  else if n < 0x10000 then
    [UInt8.ofNat (0xE0 + n / 4096), UInt8.ofNat (0x80 + n / 64 % 64), UInt8.ofNat (0x80 + n % 64)]
  else
    [UInt8.ofNat (0xF0 + n / 262144), UInt8.ofNat (0x80 + n / 4096 % 64),
      UInt8.ofNat (0x80 + n / 64 % 64), UInt8.ofNat (0x80 + n % 64)]

def encodeChars (cs : List Char) : Bytes := cs.flatMap encodeChar

def encode (s : String) : Bytes := encodeChars s.toList

def width (c : Char) : Nat := (encodeChar c).length

/-- The low six bits of an octet that continues a character. -/
def tail? (b : UInt8) : Option Nat :=
  if 0x80 ≤ b.toNat ∧ b.toNat < 0xC0 then some (b.toNat - 0x80) else none

def two? (a b : UInt8) : Option Char := do
  let t ← tail? b
  if 0xC2 ≤ a.toNat ∧ a.toNat < 0xE0 then some (Char.ofNat ((a.toNat - 0xC0) * 64 + t)) else none

def three? (a b c : UInt8) : Option Char := do
  let t ← tail? b
  let u ← tail? c
  let n := (a.toNat - 0xE0) * 4096 + t * 64 + u
  if 0xE0 ≤ a.toNat ∧ a.toNat < 0xF0 ∧ 0x800 ≤ n ∧ ¬ (0xD800 ≤ n ∧ n < 0xE000) then
    some (Char.ofNat n)
  else none

def four? (a b c d : UInt8) : Option Char := do
  let t ← tail? b
  let u ← tail? c
  let v ← tail? d
  let n := (a.toNat - 0xF0) * 262144 + t * 4096 + u * 64 + v
  if 0xF0 ≤ a.toNat ∧ a.toNat < 0xF5 ∧ 0x10000 ≤ n ∧ n < 0x110000 then some (Char.ofNat n) else none

/-- Reads characters in front of those in `acc`, which holds what was read, last first. -/
def scan : Bytes → List Char → Option (List Char)
  | [], acc => some acc.reverse
  | a :: r, acc =>
    if a.toNat < 0x80 then scan r (Char.ofNat a.toNat :: acc)
    else match r with
    | b :: r =>
      match two? a b with
      | some x => scan r (x :: acc)
      | none =>
        match r with
        | c :: r =>
          match three? a b c with
          | some x => scan r (x :: acc)
          | none =>
            match r with
            | d :: r =>
              match four? a b c d with
              | some x => scan r (x :: acc)
              | none => none
            | [] => none
        | [] => none
    | [] => none

/-- Only shortest forms of scalar values are read. -/
def decodeChars (bs : Bytes) : Option (List Char) := scan bs []

def decode (bs : Bytes) : Option String := (decodeChars bs).map String.ofList

/-- Whether a second octet can follow this first one. -/
def follows (a b : UInt8) : Bool :=
  let lead := a.toNat
  let next := b.toNat
  let least := if lead = 0xE0 then 0xA0 else if lead = 0xF0 then 0x90 else 0x80
  let last := if lead = 0xED then 0x9F else if lead = 0xF4 then 0x8F else 0xBF
  decide (0xC2 ≤ lead ∧ lead < 0xF5 ∧ least ≤ next ∧ next ≤ last)

/-- How many octets at the front belong to one broken character: the longest start of a
character that could have gone on, and at least one octet. -/
def brokenLength : Bytes → Nat
  | a :: b :: c :: _ =>
    if follows a b then
      if 0xF0 ≤ a.toNat ∧ (tail? c).isSome then 3 else if 0xE0 ≤ a.toNat then 2 else 1
    else 1
  | [a, b] => if follows a b ∧ 0xE0 ≤ a.toNat then 2 else 1
  | _ => 1

/-- Reads every octet string; each broken character gives one replacement character. `fuel` is
the number of octets left. -/
def lossyLoop : (fuel : Nat) → Bytes → List Char → List Char
  | fuel + 1, a :: r, acc =>
    let n :=
      if a.toNat < 0x80 then 1 else if a.toNat < 0xE0 then 2 else if a.toNat < 0xF0 then 3 else 4
    match scan ((a :: r).take n) [] with
    | some [x] => lossyLoop fuel (r.drop (n - 1)) (x :: acc)
    | _ => lossyLoop fuel (r.drop (brokenLength (a :: r) - 1)) ('\uFFFD' :: acc)
  | _, _, acc => acc.reverse

def decodeLossy (bs : Bytes) : String := String.ofList (lossyLoop bs.length bs [])

end DebateMesh.Utf8

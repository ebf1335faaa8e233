import DebateMesh.Text.Digits

namespace DebateMesh

structure Ipv4 where
  a : UInt8
  b : UInt8
  c : UInt8
  d : UInt8
deriving DecidableEq

structure Ipv6 where
  groups : List UInt16
  length_eq : groups.length = 8
deriving DecidableEq

inductive SocketAddress
  | v4 (ip : Ipv4) (portNumber : UInt16)
  | v6 (ip : Ipv6) (scope : UInt32) (portNumber : UInt16)
deriving DecidableEq

namespace Ipv4

def groups (ip : Ipv4) : List UInt16 :=
  [UInt16.ofNat (ip.a.toNat * 256 + ip.b.toNat), UInt16.ofNat (ip.c.toNat * 256 + ip.d.toNat)]

def ofGroups (high low : UInt16) : Ipv4 :=
  ⟨(high >>> 8).toUInt8, high.toUInt8, (low >>> 8).toUInt8, low.toUInt8⟩

def text (ip : Ipv4) : String :=
  ".".intercalate ([ip.a, ip.b, ip.c, ip.d].map fun n => toString n.toNat)

end Ipv4

namespace Ipv6

/-- How many zero groups stand from a position on. -/
def zerosFrom (gs : List UInt16) (i : Nat) : Nat := ((gs.drop i).takeWhile (· == 0)).length

/-- The position of the longest run of zero groups, which the text leaves out. -/
def longestZeros (gs : List UInt16) : Nat :=
  (List.range gs.length).foldl
    (fun best i => if zerosFrom gs best < zerosFrom gs i then i else best) 0

def groupsText (gs : List UInt16) : String :=
  ":".intercalate (gs.map fun g => String.ofList (Nat.toDigits 16 g.toNat))

def text (ip : Ipv6) : String :=
  match ip.groups with
  | [0, 0, 0, 0, 0, 0xFFFF, high, low] => "::ffff:" ++ (Ipv4.ofGroups high low).text
  | gs =>
    let i := longestZeros gs
    let n := zerosFrom gs i
    if n < 2 then groupsText gs
    else groupsText (gs.take i) ++ "::" ++ groupsText (gs.drop (i + n))

end Ipv6

namespace SocketAddress

def text : SocketAddress → String
  | v4 ip n => ip.text ++ ":" ++ toString n.toNat
  | v6 ip scope n =>
    let zone := if scope = 0 then "" else "%" ++ toString scope.toNat
    "[" ++ ip.text ++ zone ++ "]:" ++ toString n.toNat

/-- A number below `bound` in at most `width` digits, when a width is given. -/
def number? (base : Nat) (width : Option Nat) (bound : Nat) (cs : List Char) :
    Option (Nat × List Char) :=
  let (ds, rest) := Text.leadingDigits base cs
  let n := Text.ofDigits base ds
  if ds.isEmpty ∨ (width.any fun w => w < ds.length) ∨ bound ≤ n then none else some (n, rest)

/-- One of the four numbers of an IPv4 address, without leading zeros. -/
def octet? (cs : List Char) : Option (UInt8 × List Char) :=
  match cs with
  | '0' :: c :: rest => if Text.isDigit 10 c then none else some (0, c :: rest)
  | cs => (number? 10 (some 3) 256 cs).map fun (n, cs) => (UInt8.ofNat n, cs)

def after? (c : Char) : List Char → Option (List Char)
  | [] => none
  | d :: cs => if d = c then some cs else none

def ipv4? (cs : List Char) : Option (Ipv4 × List Char) := do
  let (a, cs) ← octet? cs
  let (b, cs) ← octet? (← after? '.' cs)
  let (c, cs) ← octet? (← after? '.' cs)
  let (d, cs) ← octet? (← after? '.' cs)
  return (⟨a, b, c, d⟩, cs)

/-- At most `room` groups with colons between them, of which the last two may be an IPv4 address,
and whether they are; `first` when no group stands before. -/
def groups : (room : Nat) → (first : Bool) → List Char → List UInt16 × Bool × List Char
  | 0, _, cs => ([], false, cs)
  | room + 1, first, cs =>
    match if first then some cs else after? ':' cs with
    | none => ([], false, cs)
    | some inner =>
      match if room = 0 then none else ipv4? inner with
      | some (ip, rest) => (ip.groups, true, rest)
      | none =>
        match number? 16 (some 4) 65536 inner with
        | none => ([], false, cs)
        | some (g, rest) =>
          let (gs, dotted, rest) := groups room false rest
          (UInt16.ofNat g :: gs, dotted, rest)

/-- Two colons stand for at least one group of zeros. -/
def ipv6? (cs : List Char) : Option (Ipv6 × List Char) := do
  let (front, dotted, rest) := groups 8 true cs
  if h : front.length = 8 then return (⟨front, h⟩, rest)
  if dotted then none
  let rest ← after? ':' (← after? ':' rest)
  let (back, _, rest) := groups (7 - front.length) true rest
  let gs := front ++ List.replicate (8 - front.length - back.length) 0 ++ back
  if h : gs.length = 8 then return (⟨gs, h⟩, rest) else none

/-- The number behind a colon, with which an address ends. -/
def portNumber? (cs : List Char) : Option UInt16 := do
  let (n, cs) ← number? 10 none UInt16.size (← after? ':' cs)
  if cs.isEmpty then some (UInt16.ofNat n) else none

/-- The number behind a percent sign, if there is one. -/
def scope? (cs : List Char) : Option (UInt32 × List Char) :=
  match after? '%' cs with
  | none => some (0, cs)
  | some cs => (number? 10 none UInt32.size cs).map fun (n, cs) => (UInt32.ofNat n, cs)

def ofChars (cs : List Char) : Option SocketAddress :=
  match after? '[' cs with
  | none => do
    let (ip, cs) ← ipv4? cs
    return v4 ip (← portNumber? cs)
  | some cs => do
    let (ip, cs) ← ipv6? cs
    let (scope, cs) ← scope? cs
    return v6 ip scope (← portNumber? (← after? ']' cs))

end SocketAddress

end DebateMesh

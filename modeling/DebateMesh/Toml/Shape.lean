import DebateMesh.Toml.Reader

namespace DebateMesh.Toml

abbrev Shape (α : Type) := Toml → Option α

def asText : Shape String
  | text s => some s
  | _ => none

def asTruth : Shape Bool
  | truth b => some b
  | _ => none

def asReal : Shape Binary64
  | real x => some x
  | integer n => some (Binary64.ofInt n)
  | _ => none

/-- A whole number from zero up to, but without, `bound`. -/
def asNat (bound : Nat) : Shape Nat
  | integer n => if 0 ≤ n ∧ n < bound then some n.toNat else none
  | _ => none

def asUInt16 : Shape UInt16 := fun v => (asNat UInt16.size v).map UInt16.ofNat

def asUInt32 : Shape UInt32 := fun v => (asNat UInt32.size v).map UInt32.ofNat

def asUInt64 : Shape UInt64 := fun v => (asNat UInt64.size v).map UInt64.ofNat

def asTexts : Shape (List String)
  | list vs => vs.mapM asText
  | _ => none

def isEmpty : Toml → Bool
  | list vs => vs.isEmpty
  | table _ es => es.isEmpty
  | _ => false

/-- A name, alone or as the only name of a table with nothing in it. -/
def asChoice {α : Type} (ofName? : String → Option α) : Shape α
  | text s => ofName? s
  | table _ [(name, v)] => if v.isEmpty then ofName? name else none
  | _ => none

/-- The fields of a record with these names. -/
def asRecord (names : List String) : Shape Entries
  | table _ es => if es.all fun e => names.contains e.1 then some es else none
  | list vs => some (names.zip vs)
  | _ => none

def required {α : Type} (es : Entries) (name : String) (shape : Shape α) : Option α :=
  (es.lookup name).bind shape

def optional {α : Type} (es : Entries) (name : String) (shape : Shape α) : Option (Option α) :=
  match es.lookup name with
  | none => some none
  | some v => (shape v).map some

def orElse {α : Type} (es : Entries) (name : String) (shape : Shape α) (default : α) : Option α :=
  match es.lookup name with
  | none => some default
  | some v => shape v

end DebateMesh.Toml

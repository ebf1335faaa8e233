import DebateMesh.Json.Printer
import DebateMesh.Text.Quoted

namespace DebateMesh.Json

/-- What stands in the text where something else was expected. -/
inductive Found
  | null
  | bool (b : Bool)
  | int (n : Int)
  | double (x : Binary64)
  | str (s : String)
  | sequence
  | map
deriving DecidableEq

def found : Json → Found
  | .null => .null
  | .bool b => .bool b
  | .int n => .int n
  | .double x => .double x
  | .str s => .str s
  | .arr _ => .sequence
  | .obj _ => .map

def Found.text : Found → String
  | .null => "null"
  | .bool b => "boolean `" ++ (if b then "true" else "false") ++ "`"
  | .int n => "integer `" ++ String.ofList (wholeText n) ++ "`"
  | .double x => "floating point `" ++ String.ofList x.text ++ "`"
  | .str s => "string " ++ Text.quoted s
  | .sequence => "sequence"
  | .map => "map"

inductive ShapeFault
  | wrongType (found : Found) (expected : String)
  | wrongValue (found : Found) (expected : String)
  | unknownVariant (name first second : String)
  | missing (field : String)
  /-- The list of a record's fields ends after this many, though the record needs more. -/
  | tooShort (length : Nat) (expected : String)
  | tooLong (length : Nat)
deriving DecidableEq

def ShapeFault.text : ShapeFault → String
  | .wrongType f e => "invalid type: " ++ f.text ++ ", expected " ++ e
  | .wrongValue f e => "invalid value: " ++ f.text ++ ", expected " ++ e
  | .unknownVariant n a b =>
    "unknown variant `" ++ n ++ "`, expected `" ++ a ++ "` or `" ++ b ++ "`"
  | .missing f => "missing field `" ++ f ++ "`"
  | .tooShort n e => "invalid length " ++ toString n ++ ", expected " ++ e
  | .tooLong n => "invalid length " ++ toString n ++ ", expected fewer elements in array"

abbrev Shape (α : Type) := Json → Except ShapeFault α

def asText : Shape String
  | .str s => .ok s
  | v => .error (.wrongType v.found "a string")

def asBool : Shape Bool
  | .bool b => .ok b
  | v => .error (.wrongType v.found "a boolean")

def asDouble : Shape Binary64
  | .double x => .ok x
  | .int n => .ok (Binary64.ofInt n)
  | v => .error (.wrongType v.found "f64")

/-- A whole number from zero up to, but without, `bound`. -/
def asNat (bound : Nat) (expected : String) : Shape Nat
  | .int n => if 0 ≤ n ∧ n < bound then .ok n.toNat else .error (.wrongValue (.int n) expected)
  | v => .error (.wrongType v.found expected)

def asUInt8 : Shape UInt8 := fun v => (asNat UInt8.size "u8" v).map UInt8.ofNat

def asUInt32 : Shape UInt32 := fun v => (asNat UInt32.size "u32" v).map UInt32.ofNat

def asUInt64 : Shape UInt64 := fun v => (asNat UInt64.size "u64" v).map UInt64.ofNat

def asUnit : Shape Unit
  | .null => .ok ()
  | v => .error (.wrongType v.found "unit")

def asTexts : Shape (List String)
  | .arr items => items.mapM asText
  | v => .error (.wrongType v.found "a sequence")

/-- A field of an object, if it is there. -/
def field? {α : Type} (ms : Members) (name : String) (shape : Shape α) :
    Except ShapeFault (Option α) :=
  match lookup? ms name with
  | none => .ok none
  | some v => (shape v).map some

def required {α : Type} (name : String) : Option α → Except ShapeFault α
  | some a => .ok a
  | none => .error (.missing name)

/-- The field at a position of a record's list, as which a record may be written as well. -/
def item? {α : Type} (items : List Json) (i : Nat) (shape : Shape α) :
    Except ShapeFault (Option α) :=
  match items[i]? with
  | none => .ok none
  | some v => (shape v).map some

def reached {α : Type} (items : List Json) (expected : String) : Option α → Except ShapeFault α
  | some a => .ok a
  | none => .error (.tooShort items.length expected)

def noMoreThan (n : Nat) (items : List Json) : Except ShapeFault Unit :=
  if n < items.length then .error (.tooLong items.length) else .ok ()

/-- The member of an object that has one name only. -/
def single? (ms : Members) : Option (String × Json) :=
  match ms.reverse with
  | [] => none
  | (name, v) :: rest => if rest.all (·.1 == name) then some (name, v) else none

/-- One of two names, alone or as the only name of an object with no value. -/
def asChoice {α : Type} (first second : String) (ofName? : String → Option α) : Shape α
  | .str s =>
    match ofName? s with
    | some a => .ok a
    | none => .error (.unknownVariant s first second)
  | .obj ms =>
    match single? ms with
    | none => .error (.wrongValue .map "map with a single key")
    | some (name, v) =>
      match ofName? name with
      | none => .error (.unknownVariant name first second)
      | some a => do
        asUnit v
        return a
  | v => .error (.wrongType v.found "string or map")

end DebateMesh.Json

import DebateMesh.Binary64.Decimal

namespace DebateMesh

inductive Json
  | null
  | bool (b : Bool)
  /-- A whole number written without fraction or exponent, in the range of 64 bits. -/
  | int (n : Int)
  | double (x : Binary64)
  | str (s : String)
  | arr (items : List Json)
  | obj (members : List (String × Json))
deriving Inhabited

namespace Json

abbrev Members := List (String × Json)

mutual

/-- Values are the same with equal members in the same order. -/
def same : Json → Json → Bool
  | null, null => true
  | bool a, bool b => decide (a = b)
  | int m, int n => decide (m = n)
  | double x, double y => decide (x = y)
  | str s, str t => decide (s = t)
  | arr vs, arr ws => sameItems vs ws
  | obj ms, obj ns => sameMembers ms ns
  | _, _ => false

def sameItems : List Json → List Json → Bool
  | [], [] => true
  | v :: vs, w :: ws => same v w && sameItems vs ws
  | _, _ => false

def sameMembers : Members → Members → Bool
  | [], [] => true
  | (a, v) :: ms, (b, w) :: ns => decide (a = b) && same v w && sameMembers ms ns
  | _, _ => false

end

mutual

theorem same_iff : (v w : Json) → (same v w = true ↔ v = w)
  | arr vs, w => by
    cases w with
    | arr ws => rw [same, sameItems_iff vs ws, arr.injEq]
    | null | bool | int | double | str | obj => simp [same]
  | obj ms, w => by
    cases w with
    | obj ns => rw [same, sameMembers_iff ms ns, obj.injEq]
    | null | bool | int | double | str | arr => simp [same]
  | null, w | bool _, w | int _, w | double _, w | str _, w => by cases w <;> simp [same]

theorem sameItems_iff : (vs ws : List Json) → (sameItems vs ws = true ↔ vs = ws)
  | [], ws => by cases ws <;> simp [sameItems]
  | v :: vs, [] => by simp [sameItems]
  | v :: vs, w :: ws => by simp [sameItems, same_iff v w, sameItems_iff vs ws]

theorem sameMembers_iff : (ms ns : Members) → (sameMembers ms ns = true ↔ ms = ns)
  | [], ns => by cases ns <;> simp [sameMembers]
  | m :: ms, [] => by simp [sameMembers]
  | (a, v) :: ms, (b, w) :: ns => by simp [sameMembers, same_iff v w, sameMembers_iff ms ns]

end

instance : DecidableEq Json := fun v w => decidable_of_iff _ (same_iff v w)

/-- Of two members with one name the last counts. -/
def lookup? (ms : Members) (name : String) : Option Json :=
  (ms.reverse.find? fun m => m.1 == name).map Prod.snd

def member? (name : String) : Json → Option Json
  | obj ms => lookup? ms name
  | _ => none

def str? : Json → Option String
  | str s => some s
  | _ => none

end Json

end DebateMesh

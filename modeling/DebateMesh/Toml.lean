import DebateMesh.Binary64.Arithmetic

namespace DebateMesh

/-- How a table was written, which decides what later lines may add to it. Lists of tables under
repeated headers, which no setting has, are not among the values. -/
inductive Toml.Origin
  /-- Between braces; nothing can be added. -/
  | braces
  /-- Under a header of its own. -/
  | header
  /-- Named on the way to another table's header; a header of its own may still follow. -/
  | passage
  /-- By a dotted name; other dotted names may add to it. -/
  | dotted
deriving DecidableEq

inductive Toml
  | text (s : String)
  | integer (n : Int)
  | real (x : Binary64)
  | truth (b : Bool)
  /-- A date or a time. No setting is one, so nothing is kept of it. -/
  | moment
  | list (items : List Toml)
  | table (origin : Toml.Origin) (entries : List (String × Toml))

namespace Toml

/-- The entries of a table, each name once. -/
abbrev Entries := List (String × Toml)

/-- Replaces the value of a name, which has one. -/
def Entries.replace (name : String) (v : Toml) (es : Entries) : Entries :=
  es.map fun (k, w) => if k == name then (k, v) else (k, w)

end Toml

end DebateMesh

import DebateMesh.Toml.Moment
import DebateMesh.Toml.Number
import DebateMesh.Toml.Quoted

namespace DebateMesh.Toml

/-- How deep lists and braces may nest, and of how many names a dotted name may be made. -/
def maxDepth : Nat := 79

abbrev ReadValue := List Char → Option (Toml × List Char)

def isBare (c : Char) : Bool := c.isAlphanum || c == '_' || c == '-'

def name? (fuel : Nat) (cs : List Char) : Option (String × List Char) :=
  match cs with
  | '"' :: cs => lineBody '"' fuel cs []
  | '\'' :: cs => lineBody '\'' fuel cs []
  | cs =>
    match cs.takeWhile isBare with
    | [] => none
    | ds => some (String.ofList ds, cs.dropWhile isBare)

/-- Names with points between them, and spaces around each; at most `most` of them. -/
def names? (fuel : Nat) : (most : Nat) → List Char → Option (List String × List Char)
  | 0, _ => none
  | most + 1, cs => do
    let (name, cs) ← name? fuel (cs.dropWhile isSpace)
    match cs.dropWhile isSpace with
    | '.' :: cs =>
      let (names, cs) ← names? fuel most cs
      return (name :: names, cs)
    | cs => return ([name], cs)

def path? (fuel : Nat) (cs : List Char) : Option (List String × List Char) :=
  names? fuel maxDepth cs

/-- Gives a dotted name a value. Only tables that dotted names made are added to. -/
def assign (v : Toml) : List String → Entries → Option Entries
  | [], _ => none
  | [name], es => if (es.lookup name).isSome then none else some (es ++ [(name, v)])
  | name :: names, es =>
    match es.lookup name with
    | none => (assign v names []).map fun sub => es ++ [(name, table .dotted sub)]
    | some (table .dotted sub) =>
      (assign v names sub).map fun sub => es.replace name (table .dotted sub)
    | some _ => none

def openTable : List String → Entries → Option Entries
  | [], _ => none
  | [name], es =>
    match es.lookup name with
    | none => some (es ++ [(name, table .header [])])
    | some (table .passage sub) => some (es.replace name (table .header sub))
    | some _ => none
  | name :: names, es =>
    match es.lookup name with
    | none => (openTable names []).map fun sub => es ++ [(name, table .passage sub)]
    | some (table .braces _) => none
    | some (table origin sub) =>
      (openTable names sub).map fun sub => es.replace name (table origin sub)
    | some _ => none

/-- Changes the entries of the table at a path. -/
def within (f : Entries → Option Entries) : List String → Entries → Option Entries
  | [], es => f es
  | name :: names, es =>
    match es.lookup name with
    | some (table origin sub) =>
      (within f names sub).map fun sub => es.replace name (table origin sub)
    | _ => none

/-- What follows spaces, line breaks and comments. -/
def skipFiller (inComment : Bool) : List Char → List Char
  | [] => []
  | '\n' :: cs => skipFiller false cs
  | '\r' :: '\n' :: cs => skipFiller false cs
  | c :: cs =>
    if inComment then if isPlain c then skipFiller true cs else c :: cs
    else if c = '#' then skipFiller true cs
    else if isSpace c then skipFiller false cs
    else c :: cs

/-- Items up to the closing bracket; a comma may follow the last one. -/
def items? (read : ReadValue) : (fuel : Nat) → List Char → List Toml →
    Option (List Toml × List Char)
  | 0, _, _ => none
  | fuel + 1, cs, acc =>
    match skipFiller false cs with
    | ']' :: cs => some (acc.reverse, cs)
    | cs =>
      match read cs with
      | none => none
      | some (v, cs) =>
        match skipFiller false cs with
        | ',' :: cs => items? read fuel cs (v :: acc)
        | ']' :: cs => some ((v :: acc).reverse, cs)
        | _ => none

/-- A dotted name, an equals sign, and the value. -/
def setting? (read : ReadValue) (fuel : Nat) (cs : List Char) :
    Option ((List String × Toml) × List Char) := do
  let (path, cs) ← path? fuel cs
  match cs with
  | '=' :: cs =>
    let (v, cs) ← read (cs.dropWhile isSpace)
    return ((path, v), cs)
  | _ => none

/-- Settings up to the closing brace, of which there is at least one. -/
def settings? (read : ReadValue) : (fuel : Nat) → List Char → Entries →
    Option (Entries × List Char)
  | 0, _, _ => none
  | fuel + 1, cs, es =>
    match setting? read (fuel + 1) cs with
    | none => none
    | some ((path, v), cs) =>
      match assign v path es with
      | none => none
      | some es =>
        match cs.dropWhile isSpace with
        | ',' :: cs => settings? read fuel cs es
        | '}' :: cs => some (es, cs)
        | _ => none

def braces? (read : ReadValue) (fuel : Nat) (cs : List Char) : Option (Toml × List Char) :=
  match cs.dropWhile isSpace with
  | '}' :: cs => some (table .braces [], cs)
  | cs => (settings? read fuel cs []).map fun (es, cs) => (table .braces es, cs)

def scalar? (fuel : Nat) (cs : List Char) : Option (Toml × List Char) :=
  match cs with
  | '"' :: cs => (string? fuel '"' cs).map fun (s, cs) => (text s, cs)
  | '\'' :: cs => (string? fuel '\'' cs).map fun (s, cs) => (text s, cs)
  | 't' :: 'r' :: 'u' :: 'e' :: cs => some (truth true, cs)
  | 'f' :: 'a' :: 'l' :: 's' :: 'e' :: cs => some (truth false, cs)
  | cs =>
    match moment? cs with
    | some cs => some (moment, cs)
    | none => number? cs

/-- A value in which lists and braces nest at most `depth` deep. -/
def value? (fuel : Nat) : (depth : Nat) → ReadValue
  | 0, cs => scalar? fuel cs
  | depth + 1, cs =>
    match cs with
    | '[' :: cs => (items? (value? fuel depth) fuel cs []).map fun (vs, cs) => (list vs, cs)
    | '{' :: cs => braces? (value? fuel depth) fuel cs
    | cs => scalar? fuel cs

/-- What follows the end of a line, before which spaces and a comment may stand. -/
def lineEnd? (cs : List Char) : Option (List Char) :=
  let cs := cs.dropWhile isSpace
  let cs := if cs.head? = some '#' then cs.dropWhile isPlain else cs
  if cs.isEmpty then some [] else break? cs

/-- The path of a header behind its opening bracket. -/
def header? (fuel : Nat) (cs : List Char) : Option (List String × List Char) := do
  let (path, cs) ← path? fuel cs
  match cs with
  | ']' :: cs => return (path, cs)
  | _ => none

/-- Reads the lines that are left into `es`; `opened` is the path of the open table. -/
def lines? : (fuel : Nat) → (opened : List String) → Entries → List Char → Option Entries
  | 0, _, es, cs => if cs.isEmpty then some es else none
  | fuel + 1, opened, es, cs =>
    match cs.dropWhile isSpace with
    | [] => some es
    | cs =>
      match lineEnd? cs with
      | some cs => lines? fuel opened es cs
      | none =>
        match cs with
        | '[' :: cs => do
          let (path, cs) ← header? (fuel + 1) cs
          let es ← openTable path es
          let cs ← lineEnd? cs
          lines? fuel path es cs
        | cs => do
          let ((path, v), cs) ← setting? (value? (fuel + 1) maxDepth) (fuel + 1) cs
          let es ← within (assign v path) opened es
          let cs ← lineEnd? cs
          lines? fuel opened es cs

/-- The entries of a file, none of which is given a value twice. A byte order mark may stand at its
start. -/
def ofChars (cs : List Char) : Option Entries :=
  let cs := if cs.head? = some '\uFEFF' then cs.tail else cs
  lines? cs.length [] [] cs

end DebateMesh.Toml

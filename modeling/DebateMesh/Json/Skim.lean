import DebateMesh.Json.Reader

namespace DebateMesh.Json

/-- What follows a string, behind its opening quote. -/
def skipString : List Char → Option (List Char)
  | [] => none
  | c :: cs =>
    if c = '"' then some cs
    else if c = '\\' then
      match cs with
      | [] => none
      | e :: cs =>
        if e = 'u' then
          match cs with
          | a :: b :: c :: d :: cs => if (unit? a b c d).isSome then skipString cs else none
          | _ => none
        else if (simpleEscape? e).isSome then skipString cs
        else none
    else if c < ' ' then none
    else skipString cs

def skipNumber (cs : List Char) : Option (List Char) := do
  let (_, cs) ← whole? cs
  let (_, cs) ← fraction? cs
  let (_, cs) ← exponent? cs
  return cs

def skipScalar : List Char → Option (List Char)
  | '"' :: cs => skipString cs
  | '-' :: cs => skipNumber cs
  | 'n' :: cs => (word? ['u', 'l', 'l'] null cs).map Prod.snd
  | 't' :: cs => (word? ['r', 'u', 'e'] null cs).map Prod.snd
  | 'f' :: cs => (word? ['a', 'l', 's', 'e'] null cs).map Prod.snd
  | cs => skipNumber cs

inductive Bracket
  | list
  | object
deriving DecidableEq

/-- What has to come next in the text. -/
inductive Expected
  | value
  | itemOrEnd
  | memberOrEnd
  | member
  | separator

/-- What follows the brackets that are open. Each step takes a character or leads to one that does,
so `fuel` of three times the length is enough. -/
def skipFrom : (fuel : Nat) → Expected → List Bracket → List Char → Option (List Char)
  | 0, _, _, _ => none
  | fuel + 1, .value, opened, cs =>
    match skipBlanks cs with
    | '[' :: cs => skipFrom fuel .itemOrEnd (.list :: opened) cs
    | '{' :: cs => skipFrom fuel .memberOrEnd (.object :: opened) cs
    | cs =>
      match skipScalar cs with
      | some cs => skipFrom fuel .separator opened cs
      | none => none
  | fuel + 1, .itemOrEnd, opened, cs =>
    match skipBlanks cs with
    | ']' :: cs => skipFrom fuel .separator opened.tail cs
    | cs => skipFrom fuel .value opened cs
  | fuel + 1, .memberOrEnd, opened, cs =>
    match skipBlanks cs with
    | '}' :: cs => skipFrom fuel .separator opened.tail cs
    | cs => skipFrom fuel .member opened cs
  | fuel + 1, .member, opened, cs =>
    match skipBlanks cs with
    | '"' :: cs =>
      match (skipString cs).map skipBlanks with
      | some (':' :: cs) => skipFrom fuel .value opened cs
      | _ => none
    | _ => none
  | _ + 1, .separator, [], cs => some cs
  | fuel + 1, .separator, .list :: opened, cs =>
    match skipBlanks cs with
    | ',' :: cs => skipFrom fuel .value (.list :: opened) cs
    | ']' :: cs => skipFrom fuel .separator opened cs
    | _ => none
  | fuel + 1, .separator, .object :: opened, cs =>
    match skipBlanks cs with
    | ',' :: cs => skipFrom fuel .member (.object :: opened) cs
    | '}' :: cs => skipFrom fuel .separator opened cs
    | _ => none

def skipValue (fuel : Nat) (cs : List Char) : Option (List Char) := skipFrom fuel .value [] cs

/-- The text from each item on, up to the closing bracket, and what follows that. -/
def itemTexts (skip : Nat) : (fuel : Nat) → List Char → List (List Char) →
    Option (List (List Char) × List Char)
  | 0, _, _ => none
  | fuel + 1, cs, acc =>
    match (skipValue skip cs).map skipBlanks with
    | some (',' :: rest) => itemTexts skip fuel rest (cs :: acc)
    | some (']' :: rest) => some ((cs :: acc).reverse, rest)
    | _ => none

/-- The items of a list that `cs` begins with. -/
def listTexts (fuel : Nat) (cs : List Char) : Option (List (List Char) × List Char) :=
  match skipBlanks cs with
  | '[' :: cs =>
    match skipBlanks cs with
    | ']' :: rest => some ([], rest)
    | _ => itemTexts fuel fuel cs []
  | _ => none

/-- Names and the text from each value on, up to the closing brace, and what follows that. -/
def memberTexts (skip : Nat) : (fuel : Nat) → List Char → List (String × List Char) →
    Option (List (String × List Char) × List Char)
  | 0, _, _ => none
  | fuel + 1, cs, acc =>
    match skipBlanks cs with
    | '"' :: cs =>
      match stringBody cs [] with
      | none => none
      | some (name, cs) =>
        match skipBlanks cs with
        | ':' :: cs =>
          match (skipValue skip cs).map skipBlanks with
          | some (',' :: rest) => memberTexts skip fuel rest ((name, cs) :: acc)
          | some ('}' :: rest) => some (((name, cs) :: acc).reverse, rest)
          | _ => none
        | _ => none
    | _ => none

/-- The one value of each name; nothing when one is missing or comes twice. -/
def fieldTexts (ms : List (String × List Char)) (names : List String) : Option (List (List Char)) :=
  names.mapM fun name =>
    match ms.filter (·.1 == name) with
    | [(_, cs)] => some cs
    | _ => none

/-- The texts of a record's fields: of an object with all of the names, or of a list as long as they
are. -/
def recordTexts (fuel : Nat) (names : List String) (cs : List Char) :
    Option (List (List Char) × List Char) :=
  match skipBlanks cs with
  | '{' :: cs =>
    match skipBlanks cs with
    | '}' :: rest => if names.isEmpty then some ([], rest) else none
    | _ => do
      let (ms, rest) ← memberTexts fuel fuel cs []
      let texts ← fieldTexts ms names
      return (texts, rest)
  | cs => do
    let (items, rest) ← listTexts fuel cs
    if items.length = names.length then some (items, rest) else none

def stringText (cs : List Char) : Option String :=
  match skipBlanks cs with
  | '"' :: cs => (stringBody cs []).map Prod.fst
  | _ => none

end DebateMesh.Json

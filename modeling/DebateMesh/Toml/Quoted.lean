import DebateMesh.Text.Digits

namespace DebateMesh.Toml

/-- No control character but the tab. -/
def isPlain (c : Char) : Bool := decide (c = '\t' ∨ ' ' ≤ c ∧ c ≠ '\x7f')

def isSpace (c : Char) : Bool := decide (c = ' ' ∨ c = '\t')

/-- What follows a line break, if there is one. -/
def break? : List Char → Option (List Char)
  | '\n' :: cs => some cs
  | '\r' :: '\n' :: cs => some cs
  | _ => none

/-- What follows spaces and line breaks. -/
def skipBreaks : List Char → List Char
  | '\n' :: cs => skipBreaks cs
  | '\r' :: '\n' :: cs => skipBreaks cs
  | c :: cs => if isSpace c then skipBreaks cs else c :: cs
  | [] => []

/-- A character by its code point, in as many hexadecimal digits as given. -/
def codePoint? (width : Nat) (cs : List Char) : Option (Char × List Char) :=
  let ds := (cs.take width).filterMap (Text.digitValue? 16)
  let n := Text.ofDigits 16 ds
  if ds.length = width ∧ n.isValidChar then some (Char.ofNat n, cs.drop width) else none

def escape? : List Char → Option (Char × List Char)
  | '"' :: cs => some ('"', cs)
  | '\\' :: cs => some ('\\', cs)
  | 'b' :: cs => some ('\x08', cs)
  | 't' :: cs => some ('\t', cs)
  | 'n' :: cs => some ('\n', cs)
  | 'f' :: cs => some ('\x0c', cs)
  | 'r' :: cs => some ('\r', cs)
  | 'u' :: cs => codePoint? 4 cs
  | 'U' :: cs => codePoint? 8 cs
  | _ => none

/-- The rest of a string on one line; `acc` holds what was read, last first, and `fuel` bounds what
is left. -/
def lineBody (quote : Char) : (fuel : Nat) → List Char → List Char → Option (String × List Char)
  | 0, _, _ => none
  | _, [], _ => none
  | fuel + 1, c :: cs, acc =>
    if c = quote then some (String.ofList acc.reverse, cs)
    else if c = '\\' ∧ quote = '"' then
      match escape? cs with
      | some (x, cs) => lineBody quote fuel cs (x :: acc)
      | none => none
    else if isPlain c then lineBody quote fuel cs (c :: acc)
    else none

/-- The rest of a string over several lines. Up to two quotes may stand before the three that end
it. A backslash at the end of a line leaves out the break and all blanks after it. -/
def blockBody (quote : Char) : (fuel : Nat) → List Char → List Char → Option (String × List Char)
  | 0, _, _ => none
  | _, [], _ => none
  | fuel + 1, c :: cs, acc =>
    if c = quote then
      let run := ((c :: cs).takeWhile (· == quote)).length
      let kept := min (run - 3) 2
      if run < 3 then blockBody quote fuel cs (c :: acc)
      else
        some (String.ofList (acc.reverse ++ List.replicate kept quote), (c :: cs).drop (3 + kept))
    else if c = '\\' ∧ quote = '"' then
      match break? (cs.dropWhile isSpace) with
      | some cs => blockBody quote fuel (skipBreaks cs) acc
      | none =>
        match escape? cs with
        | some (x, cs) => blockBody quote fuel cs (x :: acc)
        | none => none
    else
      match break? (c :: cs) with
      | some cs => blockBody quote fuel cs ('\n' :: acc)
      | none => if isPlain c then blockBody quote fuel cs (c :: acc) else none

/-- A string behind its first quote. A line break right after three quotes is left out. -/
def string? (fuel : Nat) (quote : Char) (cs : List Char) : Option (String × List Char) :=
  if [quote, quote].isPrefixOf cs then
    let cs := cs.drop 2
    blockBody quote fuel ((break? cs).getD cs) []
  else lineBody quote fuel cs []

end DebateMesh.Toml

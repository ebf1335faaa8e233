import DebateMesh.Json
import DebateMesh.Text.Utf8

namespace DebateMesh.Json

def hexDigit (n : Nat) : Char := if n < 10 then Char.ofNat (48 + n) else Char.ofNat (87 + n)

def escape (c : Char) : List Char :=
  if c = '"' then ['\\', '"']
  else if c = '\\' then ['\\', '\\']
  else if ' ' ≤ c then [c]
  else if c = '\n' then ['\\', 'n']
  else if c = '\r' then ['\\', 'r']
  else if c = '\t' then ['\\', 't']
  else if c = '\x08' then ['\\', 'b']
  else if c = '\x0c' then ['\\', 'f']
  else ['\\', 'u', '0', '0', hexDigit (c.toNat / 16), hexDigit (c.toNat % 16)]

def quoted (s : String) : List Char := '"' :: (s.toList.flatMap escape ++ ['"'])

def wholeText (n : Int) : List Char :=
  if n < 0 then '-' :: Decimal.digitChars n.natAbs else Decimal.digitChars n.natAbs

/-- A number that is not finite has no text of its own. -/
def doubleText (x : Binary64) : List Char :=
  if x.isFinite then x.text else ['n', 'u', 'l', 'l']

mutual

def text : Json → List Char
  | null => ['n', 'u', 'l', 'l']
  | bool true => ['t', 'r', 'u', 'e']
  | bool false => ['f', 'a', 'l', 's', 'e']
  | int n => wholeText n
  | double x => doubleText x
  | str s => quoted s
  | arr items => '[' :: (itemsText items ++ [']'])
  | obj members => '{' :: (membersText members ++ ['}'])

def itemsText : List Json → List Char
  | [] => []
  | [v] => text v
  | v :: vs => text v ++ ',' :: itemsText vs

def membersText : List (String × Json) → List Char
  | [] => []
  | [(k, v)] => quoted k ++ ':' :: text v
  | (k, v) :: ms => quoted k ++ ':' :: (text v ++ ',' :: membersText ms)

end

def print (v : Json) : String := String.ofList (text v)

def encode (v : Json) : Bytes := Utf8.encodeChars (text v)

end DebateMesh.Json

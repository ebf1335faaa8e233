import DebateMesh.Text.Word

namespace DebateMesh.Text

inductive CharSet
  /-- A character, or a letter in any of its case forms. -/
  | letter (c : Char)
  | digit
  | blank
  | word
  | notNewline
  | among (cs : List Char)
  | either (a b : CharSet)
deriving DecidableEq

/-- Whether a character folds to a small ASCII letter or to itself. -/
def folds (c x : Char) : Bool :=
  x == c || x.toLower == c || (c == 'k' && x == '\u212A') || (c == 's' && x == '\u017F')

def CharSet.has : CharSet → Char → Bool
  | .letter c, x => folds c x
  | .digit, x => isDecimalDigit x
  | .blank, x => isBlank x
  | .word, x => isWord x
  | .notNewline, x => x != '\n'
  | .among cs, x => cs.contains x
  | .either a b, x => a.has x || b.has x

inductive Pattern
  | empty
  | one (s : CharSet)
  /-- The place between a word character and another one, or an end of the text. -/
  | edge
  | seq (p q : Pattern)
  | alt (p q : Pattern)
  | many (p : Pattern)
deriving DecidableEq

namespace Pattern

def literal : List Char → Pattern
  | [] => empty
  | [c] => one (.letter c)
  | c :: cs => seq (one (.letter c)) (literal cs)

def anyOf : List Pattern → Pattern
  | [] => empty
  | [p] => p
  | p :: ps => alt p (anyOf ps)

def words (ws : List String) : Pattern := anyOf (ws.map fun w => literal w.toList)

def inOrder : List Pattern → Pattern
  | [] => empty
  | [p] => p
  | p :: ps => seq p (inOrder ps)

def oneOrMore (p : Pattern) : Pattern := seq p (many p)

def atLeast : Nat → Pattern → Pattern
  | 0, p => many p
  | n + 1, p => seq p (atLeast n p)

/-- Whether the pattern can match no characters here. -/
def matchesEmpty (atEdge : Bool) : Pattern → Bool
  | empty => true
  | one _ => false
  | edge => atEdge
  | seq p q => matchesEmpty atEdge p && matchesEmpty atEdge q
  | alt p q => matchesEmpty atEdge p || matchesEmpty atEdge q
  | many _ => true

def followedBy (q : Pattern) (p : Pattern) : Pattern := if p = empty then q else seq p q

/-- What may be left to match after the character `c` stood here. -/
def after (atEdge : Bool) (c : Char) : Pattern → List Pattern
  | empty => []
  | edge => []
  | one s => if s.has c then [empty] else []
  | seq p q =>
    (after atEdge c p).map (followedBy q) ++ if matchesEmpty atEdge p then after atEdge c q else []
  | alt p q => after atEdge c p ++ after atEdge c q
  | many p => (after atEdge c p).map (followedBy (many p))

/-- Whether one of the open patterns, or `p` from a later place on, matches. `previous` says
whether a word character stands in front. -/
def search (p : Pattern) (previous : Bool) (opened : List Pattern) : List Char → Bool
  | [] => opened.any (matchesEmpty previous)
  | c :: cs =>
    let next := isWord c
    let atEdge := previous != next
    if opened.any (matchesEmpty atEdge) then true
    else search p next (p :: (opened.flatMap (after atEdge c)).eraseDups) cs

def occursIn (p : Pattern) (text : List Char) : Bool := search p false [p] text

end Pattern

end DebateMesh.Text

import DebateMesh.Text.Utf8

namespace DebateMesh.Utf8

/-- Whether octets that hold a text can be cut here: in front, at the end, or before an octet that
does not continue a character. -/
def isBoundary (bs : Bytes) (n : Nat) : Bool :=
  n == 0 || n == bs.length || bs[n]?.any fun b => (tail? b).isNone

/-- Goes back, octet by octet, to where the octets can be cut; nothing if that leads past the front.
-/
def backToBoundary? (bs : Bytes) (n : Nat) : Option Nat :=
  if isBoundary bs n then some n
  else
    match n with
    | 0 => none
    | n + 1 => backToBoundary? bs n

/-- The characters in front of the last place within `width` octets where the text can be cut. -/
def front? (width : Nat) (bs : Bytes) : Option (List Char) :=
  (backToBoundary? bs (min bs.length width)).bind fun n => decodeChars (bs.take n)

end DebateMesh.Utf8

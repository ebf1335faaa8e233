import DebateMesh.Crypto.Sha256
import DebateMesh.Text.Utf8

namespace DebateMesh.PayloadHash

/-- 64 hexadecimal digits in lower case. -/
def ofPrompt (prompt : String) : String := Hex.encode (Sha256.hash (Utf8.encode prompt))

def asciiLower (b : UInt8) : UInt8 := if 65 ≤ b.toNat ∧ b.toNat ≤ 90 then b + 32 else b

/-- Equality of texts up to the case of ASCII letters. -/
def sameIgnoringCase (s t : String) : Bool :=
  (Utf8.encode s).map asciiLower == (Utf8.encode t).map asciiLower

def verify (prompt hash : String) : Bool := sameIgnoringCase (ofPrompt prompt) hash

end DebateMesh.PayloadHash

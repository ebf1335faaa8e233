import DebateMesh.Bytes

namespace DebateMesh.Gcm

abbrev BlockCipher := Bytes → Bytes

/-- The longest text and the longest associated data, in octets. -/
def maxLength : Nat := 1 <<< 36

def tagWidth : Nat := 16

/-- One bit of the product: `v` moves right, and what falls out is folded back. -/
def halve (v : Nat) : Nat := if v % 2 = 1 then (v / 2) ^^^ (0xe1 <<< 120) else v / 2

def mulBits (x : Nat) : (bits : Nat) → (v z : Nat) → Nat
  | 0, _, z => z
  | n + 1, v, z => mulBits x n (halve v) (if x.testBit n then z ^^^ v else z)

/-- The product of two blocks in the field of `2 ^ 128` elements. -/
def mul (x h : Nat) : Nat := mulBits x 128 h 0

def authenticate (h : Nat) (blocks : List Bytes) : Nat :=
  blocks.foldl (fun y b => mul (y ^^^ Bytes.toNatBE b) h) 0

def counterBlock (nonce : Bytes) (n : Nat) : Bytes := nonce ++ Bytes.ofNatBE 4 n

def keystream (cipher : BlockCipher) (nonce : Bytes) (length : Nat) : Bytes :=
  (List.range ((length + 15) / 16)).flatMap fun i => cipher (counterBlock nonce (i + 2))

/-- Encryption and decryption are the same. -/
def mask (cipher : BlockCipher) (nonce text : Bytes) : Bytes :=
  Bytes.xor text (keystream cipher nonce text.length)

def tag (cipher : BlockCipher) (nonce associated ciphertext : Bytes) : Bytes :=
  let h := Bytes.toNatBE (cipher (List.replicate 16 0))
  let lengths := Bytes.ofNatBE 8 (8 * associated.length) ++ Bytes.ofNatBE 8 (8 * ciphertext.length)
  let sum := authenticate h
    (Bytes.blocks 16 (Bytes.padTo 16 associated ++ Bytes.padTo 16 ciphertext ++ lengths))
  Bytes.ofNatBE tagWidth (sum ^^^ Bytes.toNatBE (cipher (counterBlock nonce 1)))

/-- The tag and the ciphertext, unless the text or the data is too long. -/
def sealText (cipher : BlockCipher) (nonce associated text : Bytes) : Option (Bytes × Bytes) :=
  if maxLength < text.length ∨ maxLength < associated.length then none
  else
    let ciphertext := mask cipher nonce text
    some (tag cipher nonce associated ciphertext, ciphertext)

def openText (cipher : BlockCipher) (nonce associated claimed ciphertext : Bytes) : Option Bytes :=
  if maxLength + tagWidth < ciphertext.length ∨ maxLength < associated.length then none
  else if claimed = tag cipher nonce associated ciphertext then some (mask cipher nonce ciphertext)
  else none

end DebateMesh.Gcm

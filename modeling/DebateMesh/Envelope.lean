import DebateMesh.Crypto.Aes
import DebateMesh.Crypto.Gcm
import DebateMesh.Crypto.Sha256
import DebateMesh.Text.Utf8

namespace DebateMesh

def nonceWidth : Nat := 12

def keyWidths : List Nat := [16, 24, 32]

/-- A key of one of the widths of the cipher. -/
structure Envelope where
  key : Bytes
  width : key.length ∈ keyWidths

namespace Envelope

inductive Fault
  | badKey (length : Nat)
  /-- The text or the associated data is longer than the cipher allows. -/
  | tooLong
deriving DecidableEq

def Fault.message : Fault → String
  | .badKey n => "key must be 16, 24, or 32 bytes (got " ++ toString n ++ ")"
  | .tooLong => "encryption failed"

def ofKey (key : Bytes) : Except Fault Envelope :=
  if h : key.length ∈ keyWidths then .ok ⟨key, h⟩ else .error (.badKey key.length)

def keyBits (e : Envelope) : Nat := 8 * e.key.length

/-- Shows the width of the key only. -/
def describe (e : Envelope) : String :=
  "Envelope \x7b key_bits: " ++ toString e.keyBits ++ ", .. \x7d"

/-- The nonce, the tag and the ciphertext. The nonce is drawn afresh for every blob. -/
def encrypt (e : Envelope) (nonce text associated : Bytes) : Except Fault Bytes :=
  match Gcm.sealText (Aes.cipher e.key) nonce associated text with
  | some (tag, ciphertext) => .ok (nonce ++ tag ++ ciphertext)
  | none => .error .tooLong

/-- Blobs that are short or altered, and other associated data, give nothing. -/
def decrypt (e : Envelope) (blob associated : Bytes) : Option Bytes :=
  if blob.length < nonceWidth + Gcm.tagWidth then none
  else
    let nonce := blob.take nonceWidth
    let rest := blob.drop nonceWidth
    Gcm.openText (Aes.cipher e.key) nonce associated (rest.take Gcm.tagWidth)
      (rest.drop Gcm.tagWidth)

def encryptText (e : Envelope) (nonce : Bytes) (text : String) (associated : Bytes) :
    Except Fault Bytes :=
  e.encrypt nonce (Utf8.encode text) associated

def decryptText (e : Envelope) (blob associated : Bytes) : Option String :=
  (e.decrypt blob associated).bind Utf8.decode

/-- A session key of 32 octets from an agreed secret. -/
def deriveSessionKey (secret : Bytes) : Bytes :=
  Sha256.derive secret (Utf8.encode "pneuma-session-v1")

end Envelope

end DebateMesh

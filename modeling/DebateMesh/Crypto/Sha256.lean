import DebateMesh.Bytes.Hex

namespace DebateMesh.Sha256

structure State where
  a : UInt32
  b : UInt32
  c : UInt32
  d : UInt32
  e : UInt32
  f : UInt32
  g : UInt32
  h : UInt32
deriving DecidableEq

def initial : State :=
  ⟨0x6a09e667, 0xbb67ae85, 0x3c6ef372, 0xa54ff53a,
    0x510e527f, 0x9b05688c, 0x1f83d9ab, 0x5be0cd19⟩

def constants : List UInt32 :=
   [0x428a2f98, 0x71374491, 0xb5c0fbcf, 0xe9b5dba5, 0x3956c25b, 0x59f111f1, 0x923f82a4, 0xab1c5ed5,
    0xd807aa98, 0x12835b01, 0x243185be, 0x550c7dc3, 0x72be5d74, 0x80deb1fe, 0x9bdc06a7, 0xc19bf174,
    0xe49b69c1, 0xefbe4786, 0x0fc19dc6, 0x240ca1cc, 0x2de92c6f, 0x4a7484aa, 0x5cb0a9dc, 0x76f988da,
    0x983e5152, 0xa831c66d, 0xb00327c8, 0xbf597fc7, 0xc6e00bf3, 0xd5a79147, 0x06ca6351, 0x14292967,
    0x27b70a85, 0x2e1b2138, 0x4d2c6dfc, 0x53380d13, 0x650a7354, 0x766a0abb, 0x81c2c92e, 0x92722c85,
    0xa2bfe8a1, 0xa81a664b, 0xc24b8b70, 0xc76c51a3, 0xd192e819, 0xd6990624, 0xf40e3585, 0x106aa070,
    0x19a4c116, 0x1e376c08, 0x2748774c, 0x34b0bcb5, 0x391c0cb3, 0x4ed8aa4a, 0x5b9cca4f, 0x682e6ff3,
    0x748f82ee, 0x78a5636f, 0x84c87814, 0x8cc70208, 0x90befffa, 0xa4506ceb, 0xbef9a3f7, 0xc67178f2]

def rotate (n : UInt32) (x : UInt32) : UInt32 := x >>> n ||| x <<< (32 - n)

def choose (x y z : UInt32) : UInt32 := (x &&& y) ^^^ (~~~x &&& z)

def majority (x y z : UInt32) : UInt32 := (x &&& y) ^^^ (x &&& z) ^^^ (y &&& z)

def round (s : State) (k w : UInt32) : State :=
  let t := s.h + (rotate 6 s.e ^^^ rotate 11 s.e ^^^ rotate 25 s.e) + choose s.e s.f s.g + k + w
  let u := (rotate 2 s.a ^^^ rotate 13 s.a ^^^ rotate 22 s.a) + majority s.a s.b s.c
  ⟨t + u, s.a, s.b, s.c, s.d + t, s.e, s.f, s.g⟩

def nextWord (w : List UInt32) : UInt32 :=
  let p := w.getD 1 0
  let q := w.getD 14 0
  (rotate 17 q ^^^ rotate 19 q ^^^ q >>> 10) + w.getD 9 0 +
    (rotate 7 p ^^^ rotate 18 p ^^^ p >>> 3) + w.getD 0 0

/-- Runs the rounds with sixteen words of the schedule at a time. -/
def rounds (s : State) (w : List UInt32) : List UInt32 → State
  | [] => s
  | k :: ks => rounds (round s k (w.getD 0 0)) (w.tail ++ [nextWord w]) ks

def words (block : Bytes) : List UInt32 :=
  (Bytes.blocks 4 block).map fun bs => UInt32.ofNat (Bytes.toNatBE bs)

def compress (s : State) (block : Bytes) : State :=
  let t := rounds s (words block) constants
  ⟨s.a + t.a, s.b + t.b, s.c + t.c, s.d + t.d, s.e + t.e, s.f + t.f, s.g + t.g, s.h + t.h⟩

/-- The message, a one bit, zeros up to a multiple of 64 octets, and the length in bits. -/
def padded (bs : Bytes) : Bytes :=
  let zeros := (119 - bs.length % 64) % 64
  bs ++ 0x80 :: (List.replicate zeros 0 ++ Bytes.ofNatBE 8 (8 * bs.length))

def State.bytes (s : State) : Bytes :=
  [s.a, s.b, s.c, s.d, s.e, s.f, s.g, s.h].flatMap fun w => Bytes.ofNatBE 4 w.toNat

def hash (bs : Bytes) : Bytes := ((Bytes.blocks 64 (padded bs)).foldl compress initial).bytes

/-- Keys longer than a block are hashed first. -/
def blockKey (key : Bytes) : Bytes :=
  Bytes.padTo 64 (if 64 < key.length then hash key else if key.isEmpty then [0] else key)

def hmac (key message : Bytes) : Bytes :=
  let k := blockKey key
  hash (k.map (· ^^^ 0x5c) ++ hash (k.map (· ^^^ 0x36) ++ message))

/-- Thirty-two octets derived from a secret without salt. -/
def derive (secret info : Bytes) : Bytes :=
  hmac (hmac (List.replicate 32 0) secret) (info ++ [1])

end DebateMesh.Sha256

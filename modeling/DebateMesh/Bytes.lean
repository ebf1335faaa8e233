namespace DebateMesh

abbrev Bytes := List UInt8

namespace Bytes

/-- The lowest octet comes first; what does not fit in `width` octets is dropped. -/
def ofNatLE : (width : Nat) → Nat → Bytes
  | 0, _ => []
  | w + 1, n => UInt8.ofNat n :: ofNatLE w (n / 256)

def toNatLE : Bytes → Nat
  | [] => 0
  | b :: bs => b.toNat + 256 * toNatLE bs

/-- The highest octet comes first. -/
def ofNatBE (width n : Nat) : Bytes := (ofNatLE width n).reverse

def toNatBE (bs : Bytes) : Nat := bs.foldl (fun n b => n * 256 + b.toNat) 0

def xor (a b : Bytes) : Bytes := List.zipWith (· ^^^ ·) a b

/-- Zero octets are added at the end up to a multiple of `block`. -/
def padTo (block : Nat) (bs : Bytes) : Bytes :=
  bs ++ List.replicate ((block - bs.length % block) % block) 0

def blocksFrom (size : Nat) : (fuel : Nat) → Bytes → List Bytes
  | fuel + 1, b :: bs => (b :: bs).take size :: blocksFrom size fuel ((b :: bs).drop size)
  | _, _ => []

/-- Consecutive pieces of `size` octets; the last may be shorter. -/
def blocks (size : Nat) (bs : Bytes) : List Bytes := blocksFrom size bs.length bs

@[simp] theorem length_ofNatLE (w n : Nat) : (ofNatLE w n).length = w := by
  induction w generalizing n with
  | zero => rfl
  | succ w ih => simp [ofNatLE, ih]

end Bytes

end DebateMesh

import DebateMesh.Bytes
import Mathlib.Algebra.Group.Nat.Defs
import Mathlib.Data.List.Induction

namespace DebateMesh.Bytes

theorem toNatLE_ofNatLE (w n : Nat) : toNatLE (ofNatLE w n) = n % 256 ^ w := by
  induction w generalizing n with
  | zero => simp [ofNatLE, toNatLE, Nat.mod_one]
  | succ w ih =>
    rw [ofNatLE, toNatLE, ih, Nat.pow_succ, Nat.mul_comm (256 ^ w), Nat.mod_mul]
    simp

theorem ofNatLE_toNatLE (bs : Bytes) : ofNatLE bs.length (toNatLE bs) = bs := by
  induction bs with
  | nil => rfl
  | cons b bs ih =>
    have hb : b.toNat < 256 := b.toNat_lt
    have hd : (b.toNat + 256 * toNatLE bs) / 256 = toNatLE bs := by omega
    have ho : UInt8.ofNat (b.toNat + 256 * toNatLE bs) = b := by
      apply UInt8.toNat_inj.mp
      simp
    simp [ofNatLE, toNatLE, hd, ho, ih]

theorem toNatLE_lt (bs : Bytes) : toNatLE bs < 256 ^ bs.length := by
  induction bs with
  | nil => simp [toNatLE]
  | cons b bs ih =>
    have hb : b.toNat < 256 := b.toNat_lt
    simp only [toNatLE, List.length_cons, Nat.pow_succ]
    omega

theorem toNatBE_eq (bs : Bytes) : toNatBE bs = toNatLE bs.reverse := by
  induction bs using List.reverseRecOn with
  | nil => rfl
  | append_singleton bs b ih =>
    rw [List.reverse_concat, toNatLE, ← ih, toNatBE, List.foldl_append]
    simp only [List.foldl_cons, List.foldl_nil, toNatBE]
    omega

theorem toNatBE_lt (bs : Bytes) : toNatBE bs < 256 ^ bs.length := by
  rw [toNatBE_eq, ← List.length_reverse]
  exact toNatLE_lt _

theorem toNatBE_ofNatBE (w n : Nat) : toNatBE (ofNatBE w n) = n % 256 ^ w := by
  rw [toNatBE_eq, ofNatBE, List.reverse_reverse, toNatLE_ofNatLE]

theorem toNatBE_inj {a b : Bytes} (hlen : a.length = b.length) (h : toNatBE a = toNatBE b) :
    a = b := by
  rw [toNatBE_eq, toNatBE_eq] at h
  rw [← List.reverse_inj, ← ofNatLE_toNatLE a.reverse, ← ofNatLE_toNatLE b.reverse, h,
    List.length_reverse, List.length_reverse, hlen]

end DebateMesh.Bytes

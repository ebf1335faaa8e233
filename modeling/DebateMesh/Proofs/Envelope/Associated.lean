import DebateMesh.Proofs.Bytes
import DebateMesh.Proofs.Envelope.Blobs
import Mathlib.Data.Nat.Bitwise

namespace DebateMesh

namespace Bytes

theorem blocksFrom_fuel {size fuel fuel' : Nat} {bs : Bytes} (hs : 0 < size)
    (hf : bs.length ≤ fuel) (hf' : bs.length ≤ fuel') :
    blocksFrom size fuel bs = blocksFrom size fuel' bs := by
  induction fuel generalizing fuel' bs with
  | zero =>
    rw [List.length_eq_zero_iff.mp (Nat.le_zero.mp hf)]
    cases fuel' <;> rfl
  | succ fuel ih =>
    cases bs with
    | nil => cases fuel' <;> rfl
    | cons b bs =>
      obtain ⟨k, rfl⟩ := Nat.exists_eq_succ_of_ne_zero (Nat.ne_zero_of_lt hf')
      have hrest : ((b :: bs).drop size).length ≤ bs.length := by
        rw [List.length_drop, List.length_cons]
        omega
      rw [blocksFrom, blocksFrom, ih (hrest.trans (Nat.le_of_succ_le_succ hf))
        (hrest.trans (Nat.le_of_succ_le_succ hf'))]

theorem blocks_append {size : Nat} {block : Bytes} (hs : 0 < size) (hb : block.length = size)
    (rest : Bytes) : blocks size (block ++ rest) = block :: blocks size rest := by
  cases block with
  | nil => exact absurd hb hs.ne
  | cons b bs =>
    rw [List.cons_append, blocks, List.length_cons, blocksFrom, ← List.cons_append,
      List.take_left' hb, List.drop_left' hb, blocks, blocksFrom_fuel hs _ (Nat.le_refl _)]
    rw [List.length_append]
    exact Nat.le_add_left _ _

theorem padTo_nil (block : Nat) : padTo block [] = [] := by simp [padTo]

theorem length_padTo {block : Nat} {bs : Bytes} (hne : bs ≠ []) (hl : bs.length ≤ block) :
    (padTo block bs).length = block := by
  have hpos := List.length_pos_iff.mpr hne
  rw [padTo, List.length_append, List.length_replicate]
  rcases Nat.lt_or_eq_of_le hl with hlt | heq
  · rw [Nat.mod_eq_of_lt hlt, Nat.mod_eq_of_lt (by omega)]
    omega
  · rw [← heq, Nat.mod_self, Nat.sub_zero, Nat.mod_self, Nat.add_zero]

theorem length_padTo_le {block : Nat} {bs : Bytes} (hl : bs.length ≤ block) :
    (padTo block bs).length ≤ block := by
  by_cases hne : bs = []
  · rw [hne, padTo_nil]
    exact Nat.zero_le _
  · exact (length_padTo hne hl).le

/-- Octets that were filled up are known by their number. -/
theorem eq_of_padTo {block : Nat} {a b : Bytes} (hlen : a.length = b.length)
    (h : toNatBE (padTo block a) = toNatBE (padTo block b)) : a = b := by
  have hpad : padTo block a = padTo block b := by
    refine toNatBE_inj ?_ h
    rw [padTo, padTo, List.length_append, List.length_append, hlen]
  exact (List.append_inj hpad hlen).1

end Bytes

theorem xor_xor_xor_right (x y z : Nat) : (x ^^^ z) ^^^ (y ^^^ z) = x ^^^ y := by
  rw [Nat.xor_comm y, ← Nat.xor_assoc, Nat.xor_xor_cancel_right]

/-- Terms of two equal sums change places. -/
theorem xor_exchange {a b c d : Nat} (h : a ^^^ b = c ^^^ d) : a ^^^ c = b ^^^ d := by
  have hsum : (a ^^^ c) ^^^ (b ^^^ d) = (a ^^^ b) ^^^ (c ^^^ d) := by ac_rfl
  rwa [h, Nat.xor_self, Nat.xor_eq_zero_iff] at hsum

/-- A linear map that keeps every single bit keeps every number. -/
theorem eq_self_of_xor_linear {f : Nat → Nat} (hf : ∀ x y, f (x ^^^ y) = f x ^^^ f y) {n : Nat}
    (hbit : ∀ i < n, f (2 ^ i) = 2 ^ i) {x : Nat} (hx : x < 2 ^ n) : f x = x := by
  induction n generalizing x with
  | zero =>
    have hzero := hf 0 0
    rw [Nat.xor_self, Nat.xor_self] at hzero
    rw [Nat.lt_one_iff.mp hx, hzero]
  | succ n ih =>
    have ih {y : Nat} := @ih (fun i hi => hbit i (Nat.lt_succ_of_lt hi)) y
    by_cases hlow : x < 2 ^ n
    · exact ih hlow
    · have hrest : x ^^^ 2 ^ n < 2 ^ n := by
        apply Nat.lt_pow_two_of_testBit
        intro i hi
        rw [Nat.testBit_xor]
        rcases Nat.lt_or_eq_of_le hi with hgt | rfl
        · rw [Nat.testBit_two_pow_of_ne hgt.ne, Nat.testBit_lt_two_pow (hx.trans_le
            (Nat.pow_le_pow_right (by decide) hgt))]
          rfl
        · rw [Nat.testBit_two_pow_self, Nat.testBit_of_two_pow_le_and_two_pow_add_one_gt
            (Nat.le_of_not_lt hlow) hx]
          rfl
      calc f x = f ((x ^^^ 2 ^ n) ^^^ 2 ^ n) := by rw [Nat.xor_xor_cancel_right]
        _ = (x ^^^ 2 ^ n) ^^^ 2 ^ n := by rw [hf, ih hrest, hbit n (Nat.lt_succ_self n)]
        _ = x := Nat.xor_xor_cancel_right _ _

namespace Gcm

open Bytes (toNatBE ofNatBE blocks padTo)

theorem mulBits_xor (x y n v z w : Nat) :
    mulBits (x ^^^ y) n v (z ^^^ w) = mulBits x n v z ^^^ mulBits y n v w := by
  induction n generalizing v z w with
  | zero => rfl
  | succ n ih =>
    rw [mulBits, mulBits, mulBits, ← ih, Nat.testBit_xor]
    congr 1
    cases x.testBit n <;> cases y.testBit n <;>
      simp only [Bool.xor_false, Bool.xor_true, Bool.not_false, Bool.not_true, Bool.false_eq_true,
        ↓reduceIte]
    · ac_rfl
    · ac_rfl
    · exact (xor_xor_xor_right z w v).symm

theorem mul_xor (x y h : Nat) : mul (x ^^^ y) h = mul x h ^^^ mul y h := mulBits_xor x y 128 h 0 0

theorem mul_zero (h : Nat) : mul 0 h = 0 := by
  have hsum := mul_xor 0 0 h
  rwa [Nat.xor_self, Nat.xor_self] at hsum

theorem halve_lt {v : Nat} (hv : v < 2 ^ 128) : halve v < 2 ^ 128 := by
  have hhalf : v / 2 < 2 ^ 128 := (Nat.div_le_self v 2).trans_lt hv
  unfold halve
  split
  · exact Nat.xor_lt_two_pow hhalf (by decide)
  · exact hhalf

theorem mulBits_lt {x n v z : Nat} (hv : v < 2 ^ 128) (hz : z < 2 ^ 128) :
    mulBits x n v z < 2 ^ 128 := by
  induction n generalizing v z with
  | zero => exact hz
  | succ n ih =>
    rw [mulBits]
    apply ih (halve_lt hv)
    split
    · exact Nat.xor_lt_two_pow hz hv
    · exact hz

theorem mul_lt {x h : Nat} (hh : h < 2 ^ 128) : mul x h < 2 ^ 128 := mulBits_lt hh (by decide)

/-- One block taken into the sum of those before it. -/
def absorb (h y : Nat) (block : Bytes) : Nat := mul (y ^^^ toNatBE block) h

theorem absorb_xor (h x y : Nat) (block : Bytes) :
    absorb h x block ^^^ absorb h y block = mul (x ^^^ y) h := by
  rw [absorb, absorb, ← mul_xor, xor_xor_xor_right]

theorem toNatBE_block_lt {block : Bytes} (hl : block.length ≤ 16) : toNatBE block < 2 ^ 128 :=
  (Bytes.toNatBE_lt block).trans_le (Nat.pow_le_pow_right (by decide : 0 < 256) hl)

/-- The block that tells how long data and ciphertext are. -/
def lengthBlock (associated ciphertext : Nat) : Bytes :=
  ofNatBE 8 (8 * associated) ++ ofNatBE 8 (8 * ciphertext)

def hashKey (cipher : BlockCipher) : Nat := toNatBE (cipher (List.replicate 16 0))

/-- The tag, but for the mask that depends on the nonce alone. -/
def digest (h : Nat) (associated ciphertext : Bytes) : Nat :=
  (blocks 16 (padTo 16 associated ++ padTo 16 ciphertext ++
    lengthBlock associated.length ciphertext.length)).foldl (absorb h) 0

theorem tag_eq (cipher : BlockCipher) (nonce associated ciphertext : Bytes) :
    tag cipher nonce associated ciphertext =
      ofNatBE tagWidth (digest (hashKey cipher) associated ciphertext ^^^
        toNatBE (cipher (counterBlock nonce 1))) := rfl

theorem length_lengthBlock (a c : Nat) : (lengthBlock a c).length = 16 := by
  simp [lengthBlock, ofNatBE]

theorem foldl_padTo {h y : Nat} {block : Bytes} (hne : block ≠ []) (hl : block.length ≤ 16)
    (rest : Bytes) : (blocks 16 (padTo 16 block ++ rest)).foldl (absorb h) y =
      (blocks 16 rest).foldl (absorb h) (absorb h y (padTo 16 block)) := by
  rw [Bytes.blocks_append (by decide) (Bytes.length_padTo hne hl), List.foldl_cons]

theorem foldl_lengthBlock (h y a c : Nat) :
    (blocks 16 (lengthBlock a c)).foldl (absorb h) y = absorb h y (lengthBlock a c) := by
  have hblocks := Bytes.blocks_append (by decide) (length_lengthBlock a c) []
  rw [List.append_nil] at hblocks
  rw [hblocks]
  rfl

variable {h : Nat} {a b c : Bytes}

/-- Data of at most one block comes first, and if there is none it counts as zero. -/
theorem foldl_associated (ha : a.length ≤ 16) (rest : Bytes) :
    (blocks 16 (padTo 16 a ++ rest)).foldl (absorb h) 0 =
      (blocks 16 rest).foldl (absorb h) (mul (toNatBE (padTo 16 a)) h) := by
  by_cases hne : a = []
  · rw [hne, Bytes.padTo_nil, List.nil_append, show toNatBE [] = 0 from rfl, mul_zero]
  · rw [foldl_padTo hne ha, absorb, Nat.zero_xor]

theorem digest_nil (ha : a.length ≤ 16) : digest h a [] =
    absorb h (mul (toNatBE (padTo 16 a)) h) (lengthBlock a.length 0) := by
  rw [digest, Bytes.padTo_nil, List.append_nil, foldl_associated ha, foldl_lengthBlock,
    List.length_nil]

theorem digest_block (ha : a.length ≤ 16) (hne : c ≠ []) (hc : c.length ≤ 16) : digest h a c =
    absorb h (absorb h (mul (toNatBE (padTo 16 a)) h) (padTo 16 c))
      (lengthBlock a.length c.length) := by
  rw [digest, List.append_assoc, foldl_associated ha, foldl_padTo hne hc, foldl_lengthBlock]

theorem digest_lt (hh : h < 2 ^ 128) (a c : Bytes) : digest h a c < 2 ^ 128 := by
  unfold digest
  generalize blocks 16 _ = bss
  induction bss using List.reverseRecOn with
  | nil => exact Nat.two_pow_pos 128
  | append_singleton bss bs =>
    rw [List.foldl_append]
    exact mul_lt hh

/-- The mask hides nothing that differs. -/
theorem digest_of_tag {cipher : BlockCipher} (hcipher : ∀ block, (cipher block).length = 16)
    {nonce : Bytes} (htag : tag cipher nonce a c = tag cipher nonce b c) :
    digest (hashKey cipher) a c = digest (hashKey cipher) b c := by
  have hlt (block : Bytes) : toNatBE (cipher block) < 2 ^ 128 := toNatBE_block_lt (hcipher block).le
  have hsum (a c block : Bytes) : (digest (hashKey cipher) a c ^^^ toNatBE (cipher block)) %
      256 ^ tagWidth = digest (hashKey cipher) a c ^^^ toNatBE (cipher block) :=
    Nat.mod_eq_of_lt (Nat.xor_lt_two_pow (digest_lt (hlt _) a c) (hlt block))
  have hnumber := congrArg toNatBE htag
  rw [tag_eq, tag_eq, Bytes.toNatBE_ofNatBE, Bytes.toNatBE_ofNatBE, hsum, hsum] at hnumber
  exact Nat.xor_left_inj.mp hnumber

/-- The hash key of the cipher whose key has no bit set. -/
def zeroHashKey : Nat := 0x66e94bd4ef8a2c3b884cfa59ca342b2e

theorem hashKey_zero : hashKey (Aes.cipher Envelope.zero.key) = zeroHashKey := by decide +kernel

/-- Its inverse in the field of blocks takes every product back. -/
theorem mul_inverse {x : Nat} (hx : x < 2 ^ 128) :
    mul (mul x zeroHashKey) 0xa1a8ea17406f018019139fabc3e339e = x :=
  eq_self_of_xor_linear
    (f := fun x => mul (mul x zeroHashKey) 0xa1a8ea17406f018019139fabc3e339e)
    (fun x y => by simp only [mul_xor]) (by decide +kernel) hx

theorem mul_zeroHashKey_inj {x y : Nat} (hx : x < 2 ^ 128) (hy : y < 2 ^ 128)
    (heq : mul x zeroHashKey = mul y zeroHashKey) : x = y := by
  rw [← mul_inverse hx, heq, mul_inverse hy]

/-- No difference of lengths stays what it is when it is multiplied by the hash key. -/
theorem lengths_of_mul : ∀ i < 17, ∀ j < 17,
    mul (toNatBE (lengthBlock i 0) ^^^ toNatBE (lengthBlock j 0)) zeroHashKey =
      toNatBE (lengthBlock i 1) ^^^ toNatBE (lengthBlock j 1) → i = j := by
  decide +kernel

/-- Sums that are equal after a block differed before it by what the blocks differ by. -/
theorem xor_of_absorb {x y : Nat} {block block' : Bytes} (hx : x < 2 ^ 128) (hy : y < 2 ^ 128)
    (hb : block.length ≤ 16) (hb' : block'.length ≤ 16)
    (heq : absorb zeroHashKey x block = absorb zeroHashKey y block') :
    x ^^^ y = toNatBE block ^^^ toNatBE block' := by
  apply xor_exchange
  exact mul_zeroHashKey_inj (Nat.xor_lt_two_pow hx (toNatBE_block_lt hb))
    (Nat.xor_lt_two_pow hy (toNatBE_block_lt hb')) heq

/-- Two ciphertexts, of no octet and of one, are enough to find data of at most one block: a
difference of the lengths would be its own product with the hash key. -/
theorem associated_of_digests (ha : a.length ≤ 16) (hb : b.length ≤ 16) (hc : c.length = 1)
    (hnone : digest zeroHashKey a [] = digest zeroHashKey b [])
    (hone : digest zeroHashKey a c = digest zeroHashKey b c) : a = b := by
  have hmul (x : Nat) : mul x zeroHashKey < 2 ^ 128 := mul_lt (by decide)
  have habsorb (x : Nat) : absorb zeroHashKey x (padTo 16 c) < 2 ^ 128 := hmul _
  have hne : c ≠ [] := List.length_pos_iff.mp (by omega)
  have hblock (i j : Nat) : (lengthBlock i j).length ≤ 16 := (length_lengthBlock i j).le
  rw [digest_nil ha, digest_nil hb] at hnone
  rw [digest_block ha hne (by omega), digest_block hb hne (by omega), hc] at hone
  have hfirst := xor_of_absorb (hmul _) (hmul _) (hblock _ _) (hblock _ _) hnone
  have hsecond := xor_of_absorb (habsorb _) (habsorb _) (hblock _ _) (hblock _ _) hone
  rw [absorb_xor, hfirst] at hsecond
  have hlen := lengths_of_mul _ (by omega) _ (by omega) hsecond
  rw [hlen, Nat.xor_self, Nat.xor_eq_zero_iff] at hfirst
  exact Bytes.eq_of_padTo hlen (mul_zeroHashKey_inj
    (toNatBE_block_lt (Bytes.length_padTo_le ha)) (toNatBE_block_lt (Bytes.length_padTo_le hb))
    hfirst)

end Gcm

namespace Envelope

variable {e : Envelope} {a b : Bytes}

/-- A blob of a text that also opens under other data has the same tag under both. -/
theorem tag_of_opens {nonce : Bytes} {s : String} (hnonce : nonce.length = nonceWidth)
    (hs : (Utf8.encode s).length ≤ Gcm.maxLength) (ha : a.length ≤ Gcm.maxLength)
    (hopens : ∀ blob, e.decryptText blob a = some s → e.decryptText blob b = some s) :
    Gcm.tag (Aes.cipher e.key) nonce a (Gcm.mask (Aes.cipher e.key) nonce (Utf8.encode s)) =
      Gcm.tag (Aes.cipher e.key) nonce b (Gcm.mask (Aes.cipher e.key) nonce (Utf8.encode s)) := by
  have hopen := hopens (e.sealed nonce (Utf8.encode s) a)
    (decryptText_eq_some_iff.mpr (decrypt_sealed hnonce hs ha))
  obtain ⟨-, -, hblob⟩ := decrypt_eq_some_iff.mp (decryptText_eq_some_iff.mp hopen)
  have hfront : (e.sealed nonce (Utf8.encode s) a).take nonceWidth = nonce := List.take_left' hnonce
  rw [hfront] at hblob
  exact ((append_eq_sealed_iff (Gcm.length_tag _ _ _)).mp hblob).2

/-- Data of at most one block is known by what envelopes open under it. -/
theorem associated_of_opens (ha : a.length ≤ 16) (hb : b.length ≤ 16)
    (hopens : ∀ (e : Envelope) (blob : Bytes) (s : String),
      e.decryptText blob a = some s → e.decryptText blob b = some s) : a = b := by
  have hcipher := Aes.length_cipher zero.width
  have hnonce : (List.replicate 12 (0 : UInt8)).length = nonceWidth := rfl
  have hdigest (s : String) (hs : (Utf8.encode s).length ≤ Gcm.maxLength) :=
    Gcm.digest_of_tag hcipher (tag_of_opens hnonce hs (ha.trans (by decide))
      fun blob => hopens zero blob s)
  rw [Gcm.hashKey_zero] at hdigest
  exact Gcm.associated_of_digests ha hb (Gcm.length_mask hcipher _ (Utf8.encode "x"))
    (hdigest "" (by decide)) (hdigest "x" (by decide))

end Envelope

end DebateMesh

import DebateMesh.Envelope
import DebateMesh.Proofs.Text.Utf8

namespace DebateMesh

namespace Bytes

theorem length_xor (a b : Bytes) : (xor a b).length = Nat.min a.length b.length :=
  List.length_zipWith

theorem xor_xor {a b : Bytes} (h : a.length ≤ b.length) : xor (xor a b) b = a := by
  induction a generalizing b with
  | nil => rfl
  | cons x a ih =>
    cases b with
    | nil => exact absurd h (by simp)
    | cons y b =>
      have hx : x ^^^ y ^^^ y = x := by rw [UInt8.xor_assoc, UInt8.xor_self, UInt8.xor_zero]
      have hrest := ih (Nat.le_of_succ_le_succ h)
      unfold xor at hrest ⊢
      rw [List.zipWith_cons_cons, List.zipWith_cons_cons, hx, hrest]

theorem blocksFrom_spec {size fuel k : Nat} {bs : Bytes} (hs : 0 < size)
    (hl : bs.length = size * k) (hf : k ≤ fuel) :
    (blocksFrom size fuel bs).length = k ∧ ∀ b ∈ blocksFrom size fuel bs, b.length = size := by
  induction fuel generalizing bs k with
  | zero =>
    rw [Nat.le_zero.mp hf]
    exact ⟨rfl, fun b hb => by cases hb⟩
  | succ fuel ih =>
    cases k with
    | zero =>
      rw [Nat.mul_zero, List.length_eq_zero_iff] at hl
      rw [hl]
      exact ⟨rfl, fun b hb => by cases hb⟩
    | succ k =>
      rw [Nat.mul_succ] at hl
      cases bs with
      | nil =>
        rw [List.length_nil] at hl
        omega
      | cons b bs =>
        have hdrop : ((b :: bs).drop size).length = size * k := by
          rw [List.length_drop]
          omega
        obtain ⟨h1, h2⟩ := ih hdrop (by omega)
        rw [blocksFrom]
        refine ⟨by rw [List.length_cons, h1], ?_⟩
        rw [List.forall_mem_cons]
        refine ⟨?_, h2⟩
        rw [List.length_take]
        omega

theorem blocks_spec {size k : Nat} {bs : Bytes} (hs : 0 < size) (hl : bs.length = size * k) :
    (blocks size bs).length = k ∧ ∀ b ∈ blocks size bs, b.length = size := by
  apply blocksFrom_spec hs hl
  rw [hl]
  exact Nat.le_mul_of_pos_left k hs

theorem length_flatten {size : Nat} {bss : List Bytes} (h : ∀ b ∈ bss, b.length = size) :
    bss.flatten.length = size * bss.length := by
  induction bss with
  | nil => rfl
  | cons b bss ih =>
    rw [List.forall_mem_cons] at h
    rw [List.flatten_cons, List.length_append, h.1, ih h.2, List.length_cons, Nat.mul_succ,
      Nat.add_comm]

end Bytes

namespace Aes

/-- Words of the key schedule have four octets. -/
def Words (schedule : List Bytes) : Prop := ∀ w ∈ schedule, w.length = 4

theorem length_rotateWord (w : Bytes) : (rotateWord w).length = w.length := by
  cases w with
  | nil => rfl
  | cons b bs => rw [rotateWord, List.length_append, List.length_cons]; rfl

theorem extend_spec {keyWords count : Nat} {round : UInt8} {schedule : List Bytes}
    (hk : 0 < keyWords) (hw : Words schedule) (hl : keyWords ≤ schedule.length) :
    (extend keyWords round count schedule).length = schedule.length + count ∧
      Words (extend keyWords round count schedule) := by
  induction count generalizing round schedule with
  | zero => exact ⟨rfl, hw⟩
  | succ count ih =>
    have hlast : (schedule.headD []).length = 4 := by
      cases schedule with
      | nil => exact absurd hl (by simp only [List.length_nil]; omega)
      | cons w ws => exact hw w List.mem_cons_self
    have hold : (schedule.getD (keyWords - 1) []).length = 4 := by
      rw [List.getD_eq_getElem?_getD, List.getElem?_eq_getElem (by omega), Option.getD_some]
      exact hw _ (List.getElem_mem _)
    rw [extend]
    have hnew (mixed : Bytes) (hm : mixed.length = 4) :
        Words (Bytes.xor (schedule.getD (keyWords - 1) []) mixed :: schedule) := by
      unfold Words
      rw [List.forall_mem_cons]
      refine ⟨?_, hw⟩
      rw [Bytes.length_xor, hold, hm]
      rfl
    have hmixed : (if schedule.length % keyWords = 0 then
        Bytes.xor ((rotateWord (schedule.headD [])).map substitute) [round, 0, 0, 0]
      else if 6 < keyWords ∧ schedule.length % keyWords = 4 then
        (schedule.headD []).map substitute
      else schedule.headD []).length = 4 := by
      split
      · rw [Bytes.length_xor, List.length_map, length_rotateWord, hlast]
        rfl
      split
      · rw [List.length_map, hlast]
      · exact hlast
    obtain ⟨h1, h2⟩ := @ih (if schedule.length % keyWords = 0 then double round else round) _
      (hnew _ hmixed) (by rw [List.length_cons]; omega)
    refine ⟨?_, h2⟩
    rw [h1, List.length_cons]
    omega

/-- Every key of the cipher gives at least two round keys, each the size of a block. -/
theorem roundKeys_spec {key : Bytes} (hk : key.length ∈ keyWidths) :
    2 ≤ (roundKeys key).length ∧ ∀ k ∈ roundKeys key, k.length = 16 := by
  obtain ⟨n, hn, hpos⟩ : ∃ n, key.length = 4 * n ∧ 0 < n := by
    simp only [keyWidths, List.mem_cons, List.not_mem_nil, or_false] at hk
    rcases hk with h | h | h
    · exact ⟨4, h, by decide⟩
    · exact ⟨6, h, by decide⟩
    · exact ⟨8, h, by decide⟩
  obtain ⟨hlen, hwords⟩ := Bytes.blocks_spec (by decide) hn
  obtain ⟨h1, h2⟩ := @extend_spec n (4 * (n + 7) - n) 1 (Bytes.blocks 4 key).reverse hpos
    (fun w hw => hwords w (List.mem_reverse.mp hw))
    (Nat.le_of_eq (List.length_reverse.trans hlen).symm)
  have hflat := @Bytes.length_flatten 4 (extend n 1 (4 * (n + 7) - n)
    (Bytes.blocks 4 key).reverse).reverse fun w hw => h2 w (List.mem_reverse.mp hw)
  rw [List.length_reverse, h1, List.length_reverse, hlen] at hflat
  obtain ⟨h3, h4⟩ := @Bytes.blocks_spec 16 (n + 7) _ (by decide)
    (hflat.trans (by omega))
  unfold roundKeys
  dsimp only
  rw [hlen]
  exact ⟨by rw [h3]; omega, h4⟩

theorem length_applyRounds {state : Bytes} {keys : List Bytes} (hne : keys ≠ [])
    (hk : ∀ k ∈ keys, k.length = 16) : (applyRounds state keys).length = 16 := by
  induction keys generalizing state with
  | nil => exact absurd rfl hne
  | cons k ks ih =>
    rw [List.forall_mem_cons] at hk
    cases ks with
    | nil =>
      rw [applyRounds, Bytes.length_xor, hk.1, shiftRows, List.length_map, List.length_range]
      rfl
    | cons k' ks =>
      rw [applyRounds]
      · exact ih (by simp) hk.2
      · simp

theorem length_cipher {key : Bytes} (hk : key.length ∈ keyWidths) (block : Bytes) :
    (cipher key block).length = 16 := by
  obtain ⟨hl, h16⟩ := roundKeys_spec hk
  unfold cipher encryptWith
  split
  · rename_i hnil
    rw [hnil] at hl
    cases hl
  · rename_i first rest hcons
    rw [hcons] at hl h16
    apply length_applyRounds
    · rintro rfl
      exact absurd hl (by simp)
    · exact (List.forall_mem_cons.mp h16).2

end Aes

namespace Gcm

variable {cipher : BlockCipher} (hc : ∀ block, (cipher block).length = 16)

include hc

theorem length_le_keystream (nonce : Bytes) (n : Nat) : n ≤ (keystream cipher nonce n).length := by
  have hall : ∀ b ∈ (List.range ((n + 15) / 16)).map fun i => cipher (counterBlock nonce (i + 2)),
      b.length = 16 := by
    intro b hb
    obtain ⟨i, -, rfl⟩ := List.mem_map.mp hb
    exact hc _
  have h := Bytes.length_flatten hall
  rw [List.length_map, List.length_range] at h
  rw [keystream, List.flatMap_def, h]
  omega

theorem length_mask (nonce text : Bytes) : (mask cipher nonce text).length = text.length := by
  have h := length_le_keystream hc nonce text.length
  rw [mask, Bytes.length_xor]
  exact Nat.min_eq_left h

theorem mask_mask (nonce text : Bytes) : mask cipher nonce (mask cipher nonce text) = text := by
  have hlen := length_mask hc nonce text
  rw [mask, hlen, mask, Bytes.xor_xor (length_le_keystream hc nonce text.length)]

omit hc in
theorem length_tag (nonce associated ciphertext : Bytes) :
    (tag cipher nonce associated ciphertext).length = tagWidth := by
  unfold tag Bytes.ofNatBE
  rw [List.length_reverse, Bytes.length_ofNatLE]

/-- What is sealed can be opened. -/
theorem openText_sealText {nonce associated text claimed ciphertext : Bytes}
    (h : sealText cipher nonce associated text = some (claimed, ciphertext)) :
    claimed.length = tagWidth ∧
      openText cipher nonce associated claimed ciphertext = some text := by
  unfold sealText at h
  split at h
  · cases h
  · rename_i hfits
    cases h
    refine ⟨length_tag _ _ _, ?_⟩
    have hlen := length_mask hc nonce text
    rw [openText, if_neg (by rw [hlen]; omega), if_pos rfl, mask_mask hc]

end Gcm

namespace Envelope

/-- The key with no bit set. -/
def zero : Envelope := ⟨List.replicate 16 0, by decide⟩

theorem eq_of_key {e e' : Envelope} (h : e.key = e'.key) : e = e' := by
  cases e
  cases e'
  cases h
  rfl

/-- A text within the cipher's limits can be sealed. -/
theorem encryptText_isOk {e : Envelope} {nonce associated : Bytes} {text : String}
    (ht : (Utf8.encode text).length ≤ Gcm.maxLength) (ha : associated.length ≤ Gcm.maxLength) :
    ∃ blob, e.encryptText nonce text associated = .ok blob := by
  unfold encryptText encrypt Gcm.sealText
  rw [if_neg (by omega)]
  exact ⟨_, rfl⟩

theorem encryptText_tooLong {e : Envelope} {nonce associated : Bytes} {text : String}
    (ht : Gcm.maxLength < (Utf8.encode text).length) :
    e.encryptText nonce text associated = .error .tooLong := by
  unfold encryptText encrypt Gcm.sealText
  rw [if_pos (Or.inl ht)]

theorem decrypt_encrypt {e : Envelope} {nonce text associated blob : Bytes}
    (hn : nonce.length = nonceWidth) (h : e.encrypt nonce text associated = .ok blob) :
    e.decrypt blob associated = some text := by
  unfold encrypt at h
  split at h
  · rename_i tag ciphertext hseal
    cases h
    obtain ⟨ht, hopen⟩ := Gcm.openText_sealText (Aes.length_cipher e.width) hseal
    have hlen : ¬ (nonce ++ tag ++ ciphertext).length < nonceWidth + Gcm.tagWidth := by
      simp only [List.length_append, hn, ht]
      omega
    rw [decrypt, if_neg hlen]
    dsimp only
    rw [List.append_assoc, List.take_left' hn, List.drop_left' hn, List.take_left' ht,
      List.drop_left' ht]
    exact hopen
  · cases h

/-- A sealed text is read by whoever has the key. -/
theorem decryptText_encryptText {e : Envelope} {nonce associated blob : Bytes} {text : String}
    (hn : nonce.length = nonceWidth) (h : e.encryptText nonce text associated = .ok blob) :
    e.decryptText blob associated = some text := by
  rw [decryptText, decrypt_encrypt hn h, Option.bind_some, Utf8.decode_encode]

end Envelope

end DebateMesh

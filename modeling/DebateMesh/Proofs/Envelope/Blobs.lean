import DebateMesh.Proofs.Envelope

namespace DebateMesh

namespace Gcm

variable {cipher : BlockCipher} (hc : ∀ block, (cipher block).length = 16)

include hc

/-- A ciphertext opens under its own tag only. -/
theorem openText_eq_some_iff {nonce associated claimed ciphertext text : Bytes} :
    openText cipher nonce associated claimed ciphertext = some text ↔
      (text.length ≤ maxLength + tagWidth ∧ associated.length ≤ maxLength) ∧
      ciphertext = mask cipher nonce text ∧ claimed = tag cipher nonce associated ciphertext := by
  unfold openText
  constructor
  · intro h
    split at h
    · cases h
    rename_i hfits
    split at h
    · rename_i htag
      cases h
      rw [not_or, Nat.not_lt, Nat.not_lt] at hfits
      rw [length_mask hc, mask_mask hc]
      exact ⟨⟨hfits.1, hfits.2⟩, rfl, htag⟩
    · cases h
  · rintro ⟨⟨htext, hassociated⟩, rfl, rfl⟩
    rw [length_mask hc, if_neg (by omega), if_pos rfl, mask_mask hc]

end Gcm

namespace Envelope

variable {e : Envelope} {nonce text associated blob blob' tag tag' ciphertext : Bytes}

/-- The blob that a nonce, associated data and a text make. -/
def sealed (e : Envelope) (nonce text associated : Bytes) : Bytes :=
  let ciphertext := Gcm.mask (Aes.cipher e.key) nonce text
  nonce ++ (Gcm.tag (Aes.cipher e.key) nonce associated ciphertext ++ ciphertext)

/-- Within the limits of the cipher, this is what encryption gives. -/
theorem encrypt_eq_sealed (nonce : Bytes) (htext : text.length ≤ Gcm.maxLength)
    (hassociated : associated.length ≤ Gcm.maxLength) :
    e.encrypt nonce text associated = .ok (e.sealed nonce text associated) := by
  rw [encrypt, Gcm.sealText, if_neg (by omega), sealed, ← List.append_assoc]

/-- A blob is read as nonce, tag and ciphertext. -/
theorem decrypt_append (hnonce : nonce.length = nonceWidth) (htag : tag.length = Gcm.tagWidth)
    (associated ciphertext : Bytes) : e.decrypt (nonce ++ (tag ++ ciphertext)) associated =
      Gcm.openText (Aes.cipher e.key) nonce associated tag ciphertext := by
  have hlong : ¬ (nonce ++ (tag ++ ciphertext)).length < nonceWidth + Gcm.tagWidth := by
    simp only [List.length_append, hnonce, htag]
    omega
  rw [decrypt, if_neg hlong]
  dsimp only
  rw [List.take_left' hnonce, List.drop_left' hnonce, List.take_left' htag, List.drop_left' htag]

theorem exists_parts (h : nonceWidth + Gcm.tagWidth ≤ blob.length) : ∃ nonce tag ciphertext,
    blob = nonce ++ (tag ++ ciphertext) ∧ nonce.length = nonceWidth ∧
      tag.length = Gcm.tagWidth := by
  refine ⟨blob.take nonceWidth, (blob.drop nonceWidth).take Gcm.tagWidth,
    (blob.drop nonceWidth).drop Gcm.tagWidth, ?_, ?_, ?_⟩
  · rw [List.take_append_drop, List.take_append_drop]
  · rw [List.length_take]
    omega
  · rw [List.length_take, List.length_drop]
    omega

/-- Nonce, tag and ciphertext make the blob of a text just when the tag and the ciphertext are those
of the text. -/
theorem append_eq_sealed_iff (htag : tag.length = Gcm.tagWidth) :
    nonce ++ (tag ++ ciphertext) = e.sealed nonce text associated ↔
      ciphertext = Gcm.mask (Aes.cipher e.key) nonce text ∧
      tag = Gcm.tag (Aes.cipher e.key) nonce associated ciphertext := by
  rw [sealed, List.append_right_inj]
  constructor
  · intro h
    obtain ⟨rfl, rfl⟩ := List.append_inj h (htag.trans (Gcm.length_tag _ _ _).symm)
    exact ⟨rfl, rfl⟩
  · rintro ⟨rfl, rfl⟩
    rfl

/-- A blob opens to a text just when it is the blob of its nonce and that text. -/
theorem decrypt_eq_some_iff : e.decrypt blob associated = some text ↔
    (text.length ≤ Gcm.maxLength + Gcm.tagWidth ∧ associated.length ≤ Gcm.maxLength) ∧
    nonceWidth + Gcm.tagWidth ≤ blob.length ∧
    blob = e.sealed (blob.take nonceWidth) text associated := by
  by_cases hlong : nonceWidth + Gcm.tagWidth ≤ blob.length
  · obtain ⟨nonce, tag, ciphertext, rfl, hnonce, htag⟩ := exists_parts hlong
    rw [decrypt_append hnonce htag, Gcm.openText_eq_some_iff (Aes.length_cipher e.width),
      List.take_left' hnonce, append_eq_sealed_iff htag]
    simp only [hlong, true_and]
  · rw [decrypt, if_pos (Nat.not_le.mp hlong)]
    simp only [hlong, false_and, and_false, reduceCtorEq]

theorem length_sealed (hnonce : nonce.length = nonceWidth) (text associated : Bytes) :
    (e.sealed nonce text associated).length = nonceWidth + Gcm.tagWidth + text.length := by
  rw [sealed, List.length_append, List.length_append, hnonce, Gcm.length_tag,
    Gcm.length_mask (Aes.length_cipher e.width), Nat.add_assoc]

/-- The cipher's limit bounds what encryption gives. -/
theorem length_encryptText {s : String} (hnonce : nonce.length = nonceWidth)
    (h : e.encryptText nonce s associated = .ok blob) :
    blob.length ≤ nonceWidth + Gcm.tagWidth + (Gcm.maxLength + Gcm.tagWidth) := by
  obtain ⟨⟨htext, -⟩, hlong, hblob⟩ := decrypt_eq_some_iff.mp (decrypt_encrypt hnonce h)
  have hfront : (blob.take nonceWidth).length = nonceWidth :=
    List.length_take_of_le (Nat.le_trans (Nat.le_add_right _ _) hlong)
  rw [hblob, length_sealed hfront]
  exact Nat.add_le_add_left htext _

theorem decrypt_sealed (hnonce : nonce.length = nonceWidth)
    (htext : text.length ≤ Gcm.maxLength) (hassociated : associated.length ≤ Gcm.maxLength) :
    e.decrypt (e.sealed nonce text associated) associated = some text := by
  have hfront : (e.sealed nonce text associated).take nonceWidth = nonce := List.take_left' hnonce
  rw [decrypt_eq_some_iff, hfront, length_sealed hnonce]
  exact ⟨⟨Nat.le_add_right_of_le htext, hassociated⟩, Nat.le_add_right _ _, rfl⟩

theorem decryptText_eq_some_iff {s : String} : e.decryptText blob associated = some s ↔
    e.decrypt blob associated = some (Utf8.encode s) := by
  rw [decryptText, Option.bind_eq_some_iff]
  constructor
  · rintro ⟨text, hopen, hread⟩
    rw [hopen, Utf8.encode_of_decode hread]
  · intro hopen
    exact ⟨_, hopen, Utf8.decode_encode s⟩

/-- Under another tag a blob that opens does not open any more. -/
theorem decrypt_of_tag_ne (hnonce : nonce.length = nonceWidth) (htag : tag.length = Gcm.tagWidth)
    (htag' : tag'.length = Gcm.tagWidth) (hne : tag' ≠ tag)
    (hopen : e.decrypt (nonce ++ (tag ++ ciphertext)) associated = some text) :
    e.decrypt (nonce ++ (tag' ++ ciphertext)) associated = none := by
  have hcipher := Aes.length_cipher e.width
  rw [decrypt_append hnonce htag, Gcm.openText_eq_some_iff hcipher] at hopen
  rw [Option.eq_none_iff_forall_ne_some]
  intro text' hopen'
  rw [decrypt_append hnonce htag', Gcm.openText_eq_some_iff hcipher] at hopen'
  exact hne (hopen'.2.2.trans hopen.2.2.symm)

/-- A key of one of the three widths makes an envelope that opens exactly the blobs that it seals.
What it seals within the limits of the cipher it opens to the same text, and reads as text just when
it is UTF-8. A blob that opens is the one that sealing its text with its nonce gives, so no other
blob with that nonce opens to the text, and none that differs from it in its tag opens at all. -/
theorem sealed_blobs_open {key : Bytes}
    (hkey : key.length = 16 ∨ key.length = 24 ∨ key.length = 32) :
    ∃ e, ofKey key = .ok e ∧ e.key = key ∧
      (∀ nonce text associated, nonce.length = 12 → text.length ≤ Gcm.maxLength →
        associated.length ≤ Gcm.maxLength → ∃ blob,
          e.encrypt nonce text associated = .ok blob ∧
          blob = e.sealed nonce text associated ∧
          e.decrypt blob associated = some text ∧
          ∀ s, e.decryptText blob associated = some s ↔ Utf8.encode s = text) ∧
      (∀ blob associated text, e.decrypt blob associated = some text →
        28 ≤ blob.length ∧ blob = e.sealed (blob.take 12) text associated ∧
        (text.length ≤ Gcm.maxLength →
          e.encrypt (blob.take 12) text associated = .ok blob)) ∧
      (∀ blob blob' associated text, blob.take 12 = blob'.take 12 →
        e.decrypt blob associated = some text → e.decrypt blob' associated = some text →
        blob = blob') ∧
      (∀ nonce tag tag' ciphertext associated text, nonce.length = 12 → tag.length = 16 →
        tag'.length = 16 → tag' ≠ tag →
        e.decrypt (nonce ++ (tag ++ ciphertext)) associated = some text →
        e.decrypt (nonce ++ (tag' ++ ciphertext)) associated = none) := by
  have hwidth : key.length ∈ keyWidths := by
    simp only [keyWidths, List.mem_cons, List.not_mem_nil, or_false]
    exact hkey
  refine ⟨⟨key, hwidth⟩, dif_pos hwidth, rfl, ?_, ?_, ?_, ?_⟩
  · intro nonce text associated hnonce htext hassociated
    have hopen := @decrypt_sealed ⟨key, hwidth⟩ _ _ _ hnonce htext hassociated
    refine ⟨_, encrypt_eq_sealed nonce htext hassociated, rfl, hopen, fun s => ?_⟩
    rw [decryptText_eq_some_iff, hopen, Option.some.injEq, eq_comm]
  · intro blob associated text hopen
    obtain ⟨⟨-, hassociated⟩, hlong, hblob⟩ := decrypt_eq_some_iff.mp hopen
    refine ⟨hlong, hblob, fun htext => ?_⟩
    exact (encrypt_eq_sealed _ htext hassociated).trans (congrArg Except.ok hblob.symm)
  · intro blob blob' associated text hnonce hopen hopen'
    have hblob := (decrypt_eq_some_iff.mp hopen).2.2
    have hblob' := (decrypt_eq_some_iff.mp hopen').2.2
    exact hblob.trans ((congrArg (sealed _ · text associated) hnonce).trans hblob'.symm)
  · intro nonce tag tag' ciphertext associated text hnonce htag htag' hne hopen
    exact decrypt_of_tag_ne hnonce htag htag' hne hopen

theorem sealed_blobs_open_note : (List.replicate 16 (0 : UInt8)).length = 16 ∧
    ∃ e, ofKey (List.replicate 16 0) = .ok e ∧ ∃ blob,
      e.encrypt (List.replicate 12 0) (Utf8.encode "note") [] = .ok blob ∧
      e.decryptText blob [] = some "note" ∧ 28 ≤ blob.length ∧
      ∀ blob', blob'.take 12 = blob.take 12 → e.decrypt blob' [] = some (Utf8.encode "note") →
        blob' = blob := by
  refine ⟨rfl, ?_⟩
  obtain ⟨e, he, -, hsealed, hopened, honly, -⟩ := @sealed_blobs_open (List.replicate 16 0)
    (.inl rfl)
  obtain ⟨blob, hblob, -, hopen, htext⟩ := hsealed (List.replicate 12 0) (Utf8.encode "note") []
    rfl (by decide) (by decide)
  refine ⟨e, he, blob, hblob, (htext "note").mpr rfl, (hopened _ _ _ hopen).1, ?_⟩
  exact fun blob' hnonce hopen' => honly _ _ _ _ hnonce hopen' hopen

end Envelope

end DebateMesh

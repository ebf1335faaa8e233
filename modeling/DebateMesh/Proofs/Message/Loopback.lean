import DebateMesh.Message.Loopback
import DebateMesh.Proofs.Message.Cap

namespace DebateMesh

/-- A character has the octets that it has in a text's own store. -/
theorem Utf8.encodeChar_eq (c : Char) : encodeChar c = String.utf8EncodeChar c := by
  have hmax := (char_bounds c).1
  have hval : c.val.toNat = c.toNat := rfl
  unfold encodeChar String.utf8EncodeChar
  dsimp only
  rw [hval]
  generalize c.toNat = n at hmax
  by_cases h1 : n < 0x80
  · rw [if_pos h1, if_pos (by omega : n ≤ 0x7F)]
  rw [if_neg h1, if_neg (by omega : ¬ n ≤ 0x7F)]
  by_cases h2 : n < 0x800
  · rw [if_pos h2, if_pos (by omega : n ≤ 0x7FF), Nat.mod_eq_of_lt (by omega : n / 64 < 32)]
    simp only [Nat.add_comm]
  rw [if_neg h2, if_neg (by omega : ¬ n ≤ 0x7FF)]
  by_cases h3 : n < 0x10000
  · rw [if_pos h3, if_pos (by omega : n ≤ 0xFFFF), Nat.mod_eq_of_lt (by omega : n / 4096 < 16)]
    simp only [Nat.add_comm]
  · rw [if_neg h3, if_neg (by omega : ¬ n ≤ 0xFFFF), Nat.mod_eq_of_lt (by omega : n / 262144 < 8)]
    simp only [Nat.add_comm]

/-- A text's octets are those it is stored as. -/
theorem Utf8.encode_eq (s : String) : encode s = s.toByteArray.data.toList := by
  have hchars : encodeChar = String.utf8EncodeChar := funext encodeChar_eq
  rw [encode, encodeChars, hchars, ← String.utf8Encode_toList, List.utf8Encode,
    List.toList_data_toByteArray]

theorem Utf8.length_encode (s : String) : (encode s).length = s.utf8ByteSize := by
  rw [encode_eq]
  rfl

theorem Utf8.front_eq (n : Nat) (s : String) : front n s = (encode s).take n := by
  rw [encode_eq]
  apply List.ext_getElem
  · simp [front]
  · intro i hf ht
    simp [front, String.getUTF8Byte, ByteArray.getElem_eq_getElem_data]

namespace Frame

namespace Piece

theorem size_eq (p : Piece) : p.size = p.bytes.length := by
  cases p with
  | octets bs => rfl
  | text s => exact (Utf8.length_encode s).symm

theorem front_eq (n : Nat) (p : Piece) : p.front n = p.bytes.take n := by
  cases p with
  | octets bs => rfl
  | text s => exact Utf8.front_eq n s

theorem totalSize_eq (ps : List Piece) : totalSize ps = (ps.flatMap bytes).length := by
  induction ps with
  | nil => rfl
  | cons p ps ih => simp [totalSize, size_eq, ih]

theorem totalFront_eq (n : Nat) (ps : List Piece) : totalFront n ps = (ps.flatMap bytes).take n := by
  induction ps generalizing n with
  | nil => simp [totalFront]
  | cons p ps ih => simp [totalFront, size_eq, front_eq, ih, List.take_append]

@[simp] theorem bytes_ofText (s : String) : (ofText s).flatMap bytes = putText s := by
  simp [ofText, bytes, putText, Utf8.length_encode]

@[simp] theorem bytes_ofTexts (ss : List String) : (ofTexts ss).flatMap bytes = putTexts ss := by
  simp [ofTexts, bytes, putTexts, List.flatMap_assoc]

end Piece

/-- The pieces hold the whole payload, in its order. -/
theorem bytes_pieces (m : Message) : (pieces m).flatMap Piece.bytes = payload m := by
  cases m with
  | routing r => simp [pieces, payload, Piece.bytes, putRequest, putIntent]
  | offer o => simp [pieces, payload, Piece.bytes, putOffer]
  | debate p => simp [pieces, payload, Piece.bytes, putPacket, putMetadata]

/-- The octets that are not made are octets that reading never reaches. -/
theorem loopback_eq (m : Message) : loopback m = (encode m).map decode := by
  cases hm : m.fault? with
  | some f => simp only [loopback, encode, hm, Except.map]
  | none =>
    by_cases hcap : maxPayload < (UInt32.ofNat (payload m).length).toNat
    · simp only [loopback, encode, hm, Piece.totalSize_eq, bytes_pieces, if_pos hcap, Except.map]
    · have he : encode m = .ok (putUInt32 (UInt32.ofNat (payload m).length) ++ payload m) := by
        simp only [encode, hm, if_neg hcap]
      simp only [loopback, hm, Piece.totalSize_eq, Piece.totalFront_eq, bytes_pieces, if_neg hcap]
      rw [he, Except.map, decode_of_encode he]

end Frame

end DebateMesh

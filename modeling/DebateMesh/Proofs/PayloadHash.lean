import DebateMesh.PayloadHash
import DebateMesh.Proofs.Text.Utf8

namespace DebateMesh

namespace Hex

def octet (n : Nat) : UInt8 := UInt8.ofNat (digit n).toNat

/-- The octets of a byte string's text. -/
def octets (bs : Bytes) : Bytes := bs.flatMap fun b => [octet (b.toNat / 16), octet (b.toNat % 16)]

theorem octets_cons (b : UInt8) (bs : Bytes) :
    octets (b :: bs) = octet (b.toNat / 16) :: octet (b.toNat % 16) :: octets bs := rfl

/-- A digit takes one octet, is in lower case, and has its value. -/
theorem octet_spec : ∀ n < 16, Utf8.encodeChar (digit n) = [octet n] ∧
    PayloadHash.asciiLower (octet n) = octet n ∧ value? (octet n) = some n := by
  decide

theorem halves_lt (b : UInt8) : b.toNat / 16 < 16 ∧ b.toNat % 16 < 16 := by
  have hb : b.toNat < 256 := b.toNat_lt
  omega

theorem encode_octets (bs : Bytes) : Utf8.encode (encode bs) = octets bs := by
  rw [Utf8.encode, encode, String.toList_ofList]
  induction bs with
  | nil => rfl
  | cons b bs ih =>
    obtain ⟨hhigh, hlow⟩ := halves_lt b
    have hsplit : Utf8.encodeChars (encodeChars (b :: bs)) =
        Utf8.encodeChar (digit (b.toNat / 16)) ++ (Utf8.encodeChar (digit (b.toNat % 16)) ++
          Utf8.encodeChars (encodeChars bs)) := rfl
    rw [hsplit, ih, (octet_spec _ hhigh).1, (octet_spec _ hlow).1]
    rfl

theorem map_asciiLower_octets (bs : Bytes) :
    (octets bs).map PayloadHash.asciiLower = octets bs := by
  induction bs with
  | nil => rfl
  | cons b bs ih =>
    obtain ⟨hhigh, hlow⟩ := halves_lt b
    rw [octets_cons, List.map_cons, List.map_cons, ih, (octet_spec _ hhigh).2.1,
      (octet_spec _ hlow).2.1]

theorem pairs_octets (bs : Bytes) (i : Nat) (acc : Bytes) :
    pairs (octets bs) i acc = .ok (acc.reverse ++ bs) := by
  induction bs generalizing i acc with
  | nil => simp [octets, pairs]
  | cons b bs ih =>
    obtain ⟨hhigh, hlow⟩ := halves_lt b
    have hvalue : UInt8.ofNat (16 * (b.toNat / 16) + b.toNat % 16) = b := by
      rw [Nat.div_add_mod]
      exact UInt8.ofNat_toNat
    rw [octets_cons, pairs, (octet_spec _ hhigh).2.2, (octet_spec _ hlow).2.2]
    dsimp only
    rw [ih, hvalue, List.reverse_cons, List.append_assoc, List.singleton_append]

theorem length_octets (bs : Bytes) : (octets bs).length = 2 * bs.length := by
  induction bs with
  | nil => rfl
  | cons b bs ih =>
    rw [octets_cons, List.length_cons, List.length_cons, List.length_cons, ih]
    omega

theorem decode_encode (bs : Bytes) : decode (Utf8.encode (encode bs)) = .ok bs := by
  rw [encode_octets, decode, if_neg (by rw [length_octets]; omega), pairs_octets]
  rfl

end Hex

/-- A prompt matches the hash of another just when they have the same digest. -/
theorem PayloadHash.verify_ofPrompt_iff {prompt other : String} :
    verify other (ofPrompt prompt) = true ↔
      Sha256.hash (Utf8.encode other) = Sha256.hash (Utf8.encode prompt) := by
  rw [verify, sameIgnoringCase, beq_iff_eq, ofPrompt, ofPrompt, Hex.encode_octets,
    Hex.encode_octets, Hex.map_asciiLower_octets, Hex.map_asciiLower_octets]
  constructor
  · intro h
    have hread := congrArg Hex.decode h
    rw [← Hex.encode_octets, ← Hex.encode_octets, Hex.decode_encode, Hex.decode_encode] at hread
    exact Except.ok.inj hread
  · exact congrArg Hex.octets

end DebateMesh

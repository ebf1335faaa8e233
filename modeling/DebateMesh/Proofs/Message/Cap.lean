import DebateMesh.Proofs.Message.Frame
import DebateMesh.Proofs.Message.Json

namespace DebateMesh.Frame

theorem toNat_stated (n : Nat) : (UInt32.ofNat n).toNat = n % 2 ^ 32 := UInt32.toNat_ofNat'

theorem encode_eq {m : Message} (hv : m.isValid = true) : encode m =
    if maxPayload < (payload m).length % 2 ^ 32 then .error .tooLarge
    else .ok (putUInt32 (UInt32.ofNat (payload m).length) ++ payload m) := by
  have hm : m.fault? = none := Option.isNone_iff_eq_none.mp hv
  simp only [encode, hm, toNat_stated]

/-- What a frame says of the message that it is written for. -/
theorem encode_states {m : Message} {f : Bytes} (h : encode m = .ok f) :
    f.length = lengthWidth + (payload m).length ∧
      Bytes.toNatLE (f.take lengthWidth) = (payload m).length % 2 ^ 32 := by
  obtain ⟨-, -, rfl⟩ := encode_ok h
  constructor
  · simp [length_putUInt32]
  · rw [List.take_left' (length_putUInt32 _), toNatLE_putUInt32, toNat_stated]

theorem readPayload_take {m : Message} {k : Nat} (hl : (payload m).length < 2 ^ 64)
    (hk : k < (payload m).length) :
    ∃ fault, readPayload ((payload m).take k) = .error (.malformed fault) := by
  cases hget : getMessage ((payload m).take k) with
  | error fault => exact ⟨fault, by simp [readPayload, hget]⟩
  | ok read =>
    obtain ⟨m', rest⟩ := read
    have hfront : payload m = payload m' ++ (rest ++ (payload m).drop k) := by
      rw [← List.append_assoc, ← message_inverse.put_get hget, List.take_append_drop]
    obtain ⟨-, hrest⟩ := payload_front hl hfront
    have hdrop : (payload m).length ≤ k := by
      apply List.drop_eq_nil_iff.mp
      exact (List.append_eq_nil_iff.mp hrest).2
    omega

/-- A frame that states less than its payload cannot be read. -/
theorem decode_wrapped {m : Message} {f : Bytes} (he : encode m = .ok f)
    (hl : (payload m).length < 2 ^ 64) (hw : 2 ^ 32 ≤ (payload m).length) :
    ∃ fault, decode f = .error (.malformed fault) := by
  have hcut : (UInt32.ofNat (payload m).length).toNat < (payload m).length := by
    rw [toNat_stated]
    omega
  obtain ⟨fault, hread⟩ := readPayload_take hl hcut
  refine ⟨fault, ?_⟩
  rw [decode_of_encode he, hread]
  rfl

/-- The cap is exact for a message. It is refused just when its payload is longer than the cap; else
its frame states the length of the payload, and is read as the message. -/
structure ExactlyCapped (m : Message) : Prop where
  refused : encode m = .error .tooLarge ↔ maxPayload < (payload m).length
  framed : (payload m).length ≤ maxPayload → ∃ f, encode m = .ok f ∧
    f.length = lengthWidth + (payload m).length ∧
    Bytes.toNatLE (f.take lengthWidth) = (payload m).length ∧ decode f = .ok (m, f.length)

/-- The cap is exact where the stated length and the true one are on the same side of it. -/
theorem exactlyCapped_of_agrees {m : Message} (hv : m.isValid = true)
    (h : maxPayload < (payload m).length % 2 ^ 32 ↔ maxPayload < (payload m).length) :
    ExactlyCapped m where
  refused := by
    rw [encode_eq hv, ← h]
    by_cases hcap : maxPayload < (payload m).length % 2 ^ 32
    · rw [if_pos hcap]
      simp only [hcap]
    · rw [if_neg hcap]
      simp only [hcap, reduceCtorEq]
  framed hle := by
    obtain ⟨f, he, hd⟩ := decode_encode_append hv hle []
    obtain ⟨hlen, hstated⟩ := encode_states he
    have hsmall : (payload m).length % 2 ^ 32 = (payload m).length := by
      apply Nat.mod_eq_of_lt
      simp only [maxPayload] at hle
      omega
    exact ⟨f, he, hlen, hstated.trans hsmall, by simpa using hd⟩

/-- The cap is exact as long as the length has 32 bits, and wherever the 32 bits that are left of it
are beyond the cap. Else the message has a frame, whatever the cap, and the frame states a length
that is too small and cannot be read. -/
theorem cap_is_exact_iff {m : Message} (hv : m.isValid = true) :
    (ExactlyCapped m ↔
      (payload m).length < 2 ^ 32 ∨ maxPayload < (payload m).length % 2 ^ 32) ∧
    (2 ^ 32 ≤ (payload m).length → (payload m).length % 2 ^ 32 ≤ maxPayload →
      ∃ f, encode m = .ok f ∧ f.length = lengthWidth + (payload m).length ∧
        Bytes.toNatLE (f.take lengthWidth) = (payload m).length % 2 ^ 32 ∧
        ((payload m).length < 2 ^ 64 → ∃ fault, decode f = .error (.malformed fault))) := by
  have henc := encode_eq hv
  constructor
  · constructor
    · intro hexact
      by_contra hout
      rw [not_or] at hout
      rw [if_neg hout.2] at henc
      have hlong : maxPayload < (payload m).length := by
        simp only [maxPayload]
        omega
      rw [hexact.refused.mpr hlong] at henc
      cases henc
    · intro h
      apply exactlyCapped_of_agrees hv
      simp only [maxPayload] at h ⊢
      omega
  · intro hw hle
    rw [if_neg (Nat.not_lt.mpr hle)] at henc
    obtain ⟨hlen, hstated⟩ := encode_states henc
    exact ⟨_, henc, hlen, hstated, fun hl => decode_wrapped henc hl hw⟩

theorem cap_is_exact_iff_objection : objection.isValid = true ∧ ExactlyCapped objection := by
  have hv : objection.isValid = true := by decide +kernel
  have hl : (payload objection).length < 2 ^ 32 := by decide
  exact ⟨hv, (cap_is_exact_iff hv).1.mpr (.inl hl)⟩

@[simp] theorem length_putText (s : String) :
    (putText s).length = 8 + (Utf8.encode s).length := by
  simp [putText, Bytes.length_ofNatLE]

/-- A text of so many letters. -/
def letters (n : Nat) : String := String.ofList (List.replicate n 'x')

@[simp] theorem length_encode_letters (n : Nat) : (Utf8.encode (letters n)).length = n := by
  have hchar : Utf8.encodeChar 'x' = [120] := rfl
  simp [Utf8.encode, Utf8.encodeChars, letters, hchar]

theorem letters_ne {n : Nat} (h : 0 < n) : letters n ≠ "" := by
  intro hempty
  have hlen := length_encode_letters n
  rw [hempty, Utf8.encode_empty, List.length_nil] at hlen
  omega

theorem length_payload_debate (p : DebatePacket) : (payload (.debate p)).length =
    36 + (Utf8.encode p.sessionId).length + (Utf8.encode p.content).length +
      (putTexts p.metadata.citations).length := by
  simp only [payload, putPacket, putMetadata, putDouble, List.length_append, length_putUInt32,
    length_putText, Bytes.length_ofNatLE, lengthWidth]
  omega

/-- A request is as long as its identifier and what is around it. -/
theorem length_payload_routing (r : RoutingRequest) : (payload (.routing r)).length =
    (Utf8.encode r.id).length + (payload (.routing { r with id := "" })).length := by
  simp only [payload, putRequest, List.length_append, length_putText, Utf8.encode_empty,
    List.length_nil]
  omega

/-- An offer is as long as the name of its expert's kind and what is around it. -/
theorem length_payload_offer (o : ExpertOffer) : (payload (.offer o)).length =
    (Utf8.encode o.expertType).length + (payload (.offer { o with expertType := "" })).length := by
  simp only [payload, putOffer, List.length_append, length_putText, Utf8.encode_empty,
    List.length_nil]
  omega

/-- A packet with one letter more than 32 bits can count. -/
def monologue : Message := .debate ⟨"s1", 1, .proposer, letters (2 ^ 32), {}⟩

theorem length_payload_monologue : (payload monologue).length = 2 ^ 32 + 46 := by
  have hid : (Utf8.encode "s1").length = 2 := by decide
  have hnone : (putTexts []).length = 8 := by decide
  rw [monologue, length_payload_debate]
  simp only [length_encode_letters, hid, hnone]
  omega

/-- A message that passes every check, is far too long, and has a frame that nobody can read. -/
theorem wrapped_lengths_pass_the_cap :
    monologue.isValid = true ∧ maxPayload < (payload monologue).length ∧
      ∃ f, encode monologue = .ok f ∧ Bytes.toNatLE (f.take lengthWidth) = 46 ∧
        ∃ fault, decode f = .error (.malformed fault) := by
  have hv : monologue.isValid = true := by
    rw [monologue, Message.isValid_debate]
    decide +kernel
  have henc := encode_eq hv
  rw [length_payload_monologue, if_neg (by decide)] at henc
  have hstated := (encode_states henc).2
  rw [length_payload_monologue] at hstated
  have hread := decode_wrapped henc (by rw [length_payload_monologue]; decide)
    (by rw [length_payload_monologue]; decide)
  refine ⟨hv, ?_, _, henc, hstated, hread⟩
  rw [length_payload_monologue]
  decide

end DebateMesh.Frame

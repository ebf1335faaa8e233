import DebateMesh.Proofs.Json.Text
import DebateMesh.Proofs.Message.Record

namespace DebateMesh

open Json (Readable IsWord)

namespace Json

theorem readable_strings (depth : Nat) (ss : List String) : Readable (depth + 1) (strings ss) := by
  apply Readable.arr
  intro v hv
  obtain ⟨s, -, rfl⟩ := List.mem_map.mp hv
  exact .str s

theorem isWord_natCast {n : Nat} (h : n < 2 ^ 64) : IsWord n := by
  unfold IsWord
  omega

theorem readable_uint8 (depth : Nat) (n : UInt8) : Readable depth (.int n.toNat) :=
  .int (isWord_natCast (Nat.lt_trans n.toNat_lt (by decide)))

theorem readable_uint32 (depth : Nat) (n : UInt32) : Readable depth (.int n.toNat) :=
  .int (isWord_natCast (Nat.lt_trans n.toNat_lt (by decide)))

theorem readable_uint64 (depth : Nat) (n : UInt64) : Readable depth (.int n.toNat) :=
  .int (isWord_natCast n.toNat_lt)

end Json

theorem isFinite_of_isUnit {x : Binary64} (h : isUnit x = true) : x.isFinite = true := by
  unfold isUnit at h
  rw [Bool.and_assoc, Bool.and_eq_true] at h
  exact h.1

theorem isFinite_of_isNonNegative {x : Binary64} (h : isNonNegative x = true) :
    x.isFinite = true := by
  unfold isNonNegative at h
  rw [Bool.and_eq_true] at h
  exact h.1

theorem Constraints.readable_toJson {c : Constraints} (h : c.costCap.isFinite = true)
    (depth : Nat) : Readable (depth + 1) c.toJson := by
  apply Readable.obj
  simp only [List.forall_mem_cons]
  exact ⟨.double h, Json.readable_uint32 _ _, Json.readable_uint8 _ _, .bool _,
    List.forall_mem_nil _⟩

theorem Intent.readable_toJson {i : Intent} (h : i.confidence.isFinite = true) (depth : Nat) :
    Readable (depth + 2) i.toJson := by
  apply Readable.obj
  simp only [List.forall_mem_cons]
  exact ⟨.double h, .str _, Json.readable_strings _ _, List.forall_mem_nil _⟩

theorem Bid.readable_toJson {b : Bid} (h : b.cost.isFinite = true) (depth : Nat) :
    Readable (depth + 1) b.toJson := by
  apply Readable.obj
  simp only [List.forall_mem_cons]
  exact ⟨.double h, Json.readable_uint32 _ _, List.forall_mem_nil _⟩

theorem Metadata.readable_toJson {m : Metadata} (h : m.confidence.isFinite = true) (depth : Nat) :
    Readable (depth + 2) m.toJson := by
  apply Readable.obj
  simp only [List.forall_mem_cons]
  exact ⟨Json.readable_strings _ _, .double h, List.forall_mem_nil _⟩

namespace Message

theorem isValid_iff (m : Message) : m.isValid = true ↔ ∀ c ∈ m.checks, c.1 = true := by
  rw [isValid, Option.isNone_iff_eq_none, fault?, firstFault_eq_none_iff]

theorem isValid_routing (r : RoutingRequest) : (routing r).isValid = true ↔
    (r.id ≠ "" ∧ r.origin ≠ "" ∧ isHash r.payloadHash = true) ∧
    (r.intent.primary ≠ "" ∧ isUnit r.intent.confidence = true) ∧
    0 < r.constraints.maxLatency ∧ r.constraints.minReputation ≤ 100 ∧
      isNonNegative r.constraints.costCap = true := by
  simp [isValid_iff, checks, RoutingRequest.checks, Intent.checks, Constraints.checks, and_assoc]

theorem isValid_offer (o : ExpertOffer) : (offer o).isValid = true ↔
    (o.requestId ≠ "" ∧ o.guardianId ≠ "") ∧
      isNonNegative o.bid.cost = true ∧ 0 < o.bid.latency := by
  simp [isValid_iff, checks, ExpertOffer.checks, Bid.checks, and_assoc]

theorem isValid_debate (p : DebatePacket) : (debate p).isValid = true ↔
    p.sessionId ≠ "" ∧ isUnit p.metadata.confidence = true := by
  simp [isValid_iff, checks, DebatePacket.checks]

/-- The checks keep out the numbers that have no text. -/
theorem readable_toJson {m : Message} (h : m.isValid = true) : Readable Json.maxDepth m.toJson := by
  cases m with
  | routing r =>
    obtain ⟨-, ⟨-, hconf⟩, -, -, hcost⟩ := (isValid_routing r).mp h
    apply Readable.obj
    simp only [List.forall_mem_cons]
    exact ⟨Constraints.readable_toJson (isFinite_of_isNonNegative hcost) _, .str _,
      Intent.readable_toJson (isFinite_of_isUnit hconf) _, .str _, .str _, Json.readable_uint64 _ _,
      .str _, List.forall_mem_nil _⟩
  | offer o =>
    obtain ⟨-, hcost, -⟩ := (isValid_offer o).mp h
    apply Readable.obj
    simp only [List.forall_mem_cons]
    exact ⟨Bid.readable_toJson (isFinite_of_isNonNegative hcost) _, Json.readable_strings _ _,
      .str _, .str _, .str _, .str _, .str _, List.forall_mem_nil _⟩
  | debate p =>
    obtain ⟨-, hconf⟩ := (isValid_debate p).mp h
    apply Readable.obj
    simp only [List.forall_mem_cons]
    exact ⟨.str _, Metadata.readable_toJson (isFinite_of_isUnit hconf) _, .str _,
      Json.readable_uint32 _ _, .str _, .str _, List.forall_mem_nil _⟩

theorem encode_ok {m : Message} {bs : Bytes} (h : encode m = .ok bs) :
    m.isValid = true ∧ bs = m.toJson.encode := by
  unfold encode at h
  split at h
  · cases h
  · rename_i hf
    cases h
    exact ⟨Option.isNone_iff_eq_none.mpr hf, rfl⟩

theorem encode_of_isValid {m : Message} (h : m.isValid = true) :
    encode m = .ok m.toJson.encode := by
  rw [encode, Option.isNone_iff_eq_none.mp h]

/-- A message has a text just when it is valid. -/
theorem encode_ok_iff (m : Message) : (∃ bs, encode m = .ok bs) ↔ m.isValid = true := by
  constructor
  · rintro ⟨bs, h⟩
    exact (encode_ok h).1
  · intro h
    exact ⟨_, encode_of_isValid h⟩

/-- A text is read as its message by every reader that takes the message's kind. -/
theorem ofBytes_encode {m : Message} {bs : Bytes} (h : encode m = .ok bs)
    {choose : String → Except ReadFault Kind} (hk : choose m.kind.tag = .ok m.kind) :
    ofBytes choose bs = .ok m := by
  obtain ⟨hv, rfl⟩ := encode_ok h
  obtain ⟨ms, hms, htype, hof⟩ := ofMembers_record m.varies_toJson
  have hfault : m.fault? = none := Option.isNone_iff_eq_none.mp hv
  rw [ofBytes, Json.decode_encode (readable_toJson hv), hms]
  simp only [Json.member?, htype, Option.bind_some, Json.str?, hk, ofTagged, hof, hfault]

theorem decode_encode {m : Message} {bs : Bytes} (h : encode m = .ok bs) : decode bs = .ok m := by
  apply ofBytes_encode h
  cases m <;> rfl

theorem decodeAs_encode {m : Message} {bs : Bytes} (h : encode m = .ok bs) :
    decodeAs m.kind bs = .ok m :=
  ofBytes_encode h (if_pos rfl)

theorem isValid_of_ofBytes {choose : String → Except ReadFault Kind} {bs : Bytes} {m : Message}
    (h : ofBytes choose bs = .ok m) : m.isValid = true := by
  unfold ofBytes at h
  split at h
  · cases h
  split at h
  · cases h
  split at h
  · cases h
  unfold ofTagged at h
  split at h
  · split at h
    · cases h
    split at h
    · cases h
    · rename_i hf
      cases h
      exact Option.isNone_iff_eq_none.mpr hf
  · cases h

/-- A message has a text just when it is valid, and is read back from it. What can be read is a
valid message, and its own text is read as the same message again. -/
theorem texts_are_messages :
    (∀ m : Message, ((∃ bs, encode m = .ok bs) ↔ m.isValid = true) ∧
      ∀ bs, encode m = .ok bs → decode bs = .ok m ∧ decodeAs m.kind bs = .ok m) ∧
    (∀ (bs : Bytes) (m : Message), decode bs = .ok m →
      m.isValid = true ∧ ∃ bs', encode m = .ok bs' ∧ decode bs' = .ok m) := by
  constructor
  · intro m
    exact ⟨encode_ok_iff m, fun bs h => ⟨decode_encode h, decodeAs_encode h⟩⟩
  · intro bs m h
    have hv := isValid_of_ofBytes h
    exact ⟨hv, _, encode_of_isValid hv, decode_encode (encode_of_isValid hv)⟩

/-- A critic's packet with a confidence of `-0`, and controls in its content. -/
def remark : Message := .debate ⟨"s", 7, .critic, "né\n\x00", ⟨⟨0x8000000000000000⟩, []⟩⟩

/-- Its text as another writer gives it: with blanks, in another order, one name twice. -/
def looseRemark : Bytes := Utf8.encode
  " \x7b\"type\":\"debate\", \"round\":1, \"role\":\"critic\", \"session_id\":\"s\", \"round\":7,
    \"content\":\"\\u006e\\u00e9\\n\\u0000\", \"metadata\":\x7b\"confidence\":-0e9\x7d\x7d"

theorem texts_are_messages_remark :
    (encode remark = .ok remark.toJson.encode ∧
      decode remark.toJson.encode = .ok remark ∧
      decodeAs .debate remark.toJson.encode = .ok remark) ∧
    (decode looseRemark = .ok remark ∧
      remark.isValid = true ∧ ∃ bs, encode remark = .ok bs ∧ decode bs = .ok remark) := by
  have he : encode remark = .ok remark.toJson.encode := by decide +kernel
  have hd : decode looseRemark = .ok remark := by decide +kernel
  exact ⟨⟨he, (texts_are_messages.1 remark).2 _ he⟩, hd, texts_are_messages.2 looseRemark remark hd⟩

end Message

end DebateMesh

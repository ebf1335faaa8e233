import DebateMesh.Message.Json
import DebateMesh.Proofs.Json.Record

namespace DebateMesh

namespace Json

theorem asNat_natCast {bound n : Nat} (h : n < bound) (expected : String) :
    asNat bound expected (.int n) = .ok n := by
  rw [asNat, if_pos (by omega), Int.toNat_natCast]

@[simp] theorem asUInt8_toNat (n : UInt8) : asUInt8 (.int n.toNat) = .ok n := by
  rw [asUInt8, asNat_natCast n.toNat_lt, Except.map, UInt8.ofNat_toNat]

@[simp] theorem asUInt32_toNat (n : UInt32) : asUInt32 (.int n.toNat) = .ok n := by
  rw [asUInt32, asNat_natCast n.toNat_lt, Except.map, UInt32.ofNat_toNat]

@[simp] theorem asUInt64_toNat (n : UInt64) : asUInt64 (.int n.toNat) = .ok n := by
  rw [asUInt64, asNat_natCast n.toNat_lt, Except.map, UInt64.ofNat_toNat]

@[simp] theorem asText_str (s : String) : asText (.str s) = .ok s := rfl

@[simp] theorem asDouble_double (x : Binary64) : asDouble (.double x) = .ok x := rfl

@[simp] theorem asBool_bool (b : Bool) : asBool (.bool b) = .ok b := rfl

@[simp] theorem asTexts_strings (ss : List String) : asTexts (strings ss) = .ok ss := by
  change (ss.map Json.str).mapM asText = .ok ss
  induction ss with
  | nil => rfl
  | cons s ss ih =>
    rw [List.map_cons, List.mapM_cons, ih]
    rfl

end Json

open Json (Slot Record Members)

def Constraints.slots (c : Constraints) : List Slot :=
  let unset : Constraints := {}
  [.defaulted "cost_cap" (c.costCap = unset.costCap) (.double c.costCap),
    .defaulted "max_latency" (c.maxLatency = unset.maxLatency) (.int c.maxLatency.toNat),
    .defaulted "min_reputation" (c.minReputation = unset.minReputation)
      (.int c.minReputation.toNat),
    .defaulted "prefer_local" (c.preferLocal = unset.preferLocal) (.bool c.preferLocal)]

def Intent.slots (i : Intent) : List Slot :=
  [.defaulted "confidence" (i.confidence = defaultConfidence) (.double i.confidence),
    .fixed "primary" (.str i.primary),
    .defaulted "secondary" (i.secondary = []) (Json.strings i.secondary)]

def Bid.slots (b : Bid) : List Slot :=
  [.fixed "cost" (.double b.cost), .fixed "est_latency" (.int b.latency.toNat)]

def Metadata.slots (m : Metadata) : List Slot :=
  [.defaulted "citations" (m.citations = []) (Json.strings m.citations),
    .defaulted "confidence" (m.confidence = defaultConfidence) (.double m.confidence)]

def RoutingRequest.slots (r : RoutingRequest) : List Slot :=
  [⟨"constraints", r.constraints = {}, Record r.constraints.slots⟩, .fixed "id" (.str r.id),
    ⟨"intent", False, Record r.intent.slots⟩, .fixed "origin" (.str r.origin),
    .fixed "payload_hash" (.str r.payloadHash), .fixed "timestamp" (.int r.timestamp.toNat)]

def ExpertOffer.slots (o : ExpertOffer) : List Slot :=
  [⟨"bid", False, Record o.bid.slots⟩, .fixed "capabilities" (Json.strings o.capabilities),
    .fixed "expert_type" (.str o.expertType), .fixed "guardian_id" (.str o.guardianId),
    .fixed "req_id" (.str o.requestId),
    .defaulted "signature" (o.signature = "") (.str o.signature)]

def DebatePacket.slots (p : DebatePacket) : List Slot :=
  [.fixed "content" (.str p.content), ⟨"metadata", p.metadata = {}, Record p.metadata.slots⟩,
    .fixed "role" (.str p.role.name), .fixed "round" (.int p.round.toNat),
    .fixed "session_id" (.str p.sessionId)]

/-- The fields of a message, its kind first. -/
def Message.slots (m : Message) : List Slot :=
  .fixed "type" (.str m.kind.tag) :: match m with
    | .routing r => r.slots
    | .offer o => o.slots
    | .debate p => p.slots

variable {c : Constraints} {i : Intent} {b : Bid} {ms : Members}

theorem Constraints.ofJson_record {v : Json} (h : Record c.slots v) : ofJson v = .ok c := by
  have hnames : (c.slots.map Slot.name).Nodup := by
    change ["cost_cap", "max_latency", "min_reputation", "prefer_local"].Nodup
    decide
  obtain ⟨ms, rfl, hstands⟩ := h.stands hnames
  simp only [slots, List.forall_mem_cons] at hstands
  obtain ⟨hcost, hlatency, hreputation, hlocal, -⟩ := hstands
  obtain ⟨cost, hcost, hcost'⟩ := hcost.optional Eq.symm
    (fun v hv => hv ▸ Json.asDouble_double c.costCap)
  obtain ⟨latency, hlatency, hlatency'⟩ := hlatency.optional Eq.symm
    (fun v hv => hv ▸ Json.asUInt32_toNat c.maxLatency)
  obtain ⟨reputation, hreputation, hreputation'⟩ := hreputation.optional Eq.symm
    (fun v hv => hv ▸ Json.asUInt8_toNat c.minReputation)
  obtain ⟨preferred, hlocal, hlocal'⟩ := hlocal.optional Eq.symm
    (fun v hv => hv ▸ Json.asBool_bool c.preferLocal)
  unfold ofJson
  dsimp only [Slot.defaulted] at hcost hlatency hreputation hlocal ⊢
  rw [hcost, hlatency, hreputation, hlocal]
  change Except.ok (ofFields latency reputation cost preferred) = .ok c
  rw [ofFields, hcost', hlatency', hreputation', hlocal']

theorem Intent.ofJson_record {v : Json} (h : Record i.slots v) : ofJson v = .ok i := by
  have hnames : (i.slots.map Slot.name).Nodup := by
    change ["confidence", "primary", "secondary"].Nodup
    decide
  obtain ⟨ms, rfl, hstands⟩ := h.stands hnames
  simp only [slots, List.forall_mem_cons] at hstands
  obtain ⟨hconfidence, hprimary, hsecondary, -⟩ := hstands
  obtain ⟨confidence, hconfidence, hconfidence'⟩ := hconfidence.optional Eq.symm
    (fun v hv => hv ▸ Json.asDouble_double i.confidence)
  have hprimary := hprimary.required not_false (fun v hv => hv ▸ Json.asText_str i.primary)
  obtain ⟨secondary, hsecondary, hsecondary'⟩ := hsecondary.optional Eq.symm
    (fun v hv => hv ▸ Json.asTexts_strings i.secondary)
  unfold ofJson
  dsimp only [Slot.defaulted, Slot.fixed] at hconfidence hprimary hsecondary ⊢
  rw [hconfidence, hprimary, hsecondary]
  change Except.ok (Intent.mk i.primary (secondary.getD []) (confidence.getD _)) = .ok i
  rw [hsecondary', hconfidence']

theorem Bid.ofJson_record {v : Json} (h : Record b.slots v) : ofJson v = .ok b := by
  have hnames : (b.slots.map Slot.name).Nodup := by
    change ["cost", "est_latency"].Nodup
    decide
  obtain ⟨ms, rfl, hstands⟩ := h.stands hnames
  simp only [slots, List.forall_mem_cons] at hstands
  obtain ⟨hcost, hlatency, -⟩ := hstands
  have hcost := hcost.required not_false (fun v hv => hv ▸ Json.asDouble_double b.cost)
  have hlatency := hlatency.required not_false (fun v hv => hv ▸ Json.asUInt32_toNat b.latency)
  unfold ofJson
  dsimp only [Slot.fixed] at hcost hlatency ⊢
  rw [hcost, hlatency]
  rfl

theorem Metadata.ofJson_record {m : Metadata} {v : Json} (h : Record m.slots v) :
    ofJson v = .ok m := by
  have hnames : (m.slots.map Slot.name).Nodup := by
    change ["citations", "confidence"].Nodup
    decide
  obtain ⟨ms, rfl, hstands⟩ := h.stands hnames
  simp only [slots, List.forall_mem_cons] at hstands
  obtain ⟨hcitations, hconfidence, -⟩ := hstands
  obtain ⟨citations, hcitations, hcitations'⟩ := hcitations.optional Eq.symm
    (fun v hv => hv ▸ Json.asTexts_strings m.citations)
  obtain ⟨confidence, hconfidence, hconfidence'⟩ := hconfidence.optional Eq.symm
    (fun v hv => hv ▸ Json.asDouble_double m.confidence)
  unfold ofJson
  dsimp only [Slot.defaulted] at hcitations hconfidence ⊢
  rw [hcitations, hconfidence]
  change Except.ok (ofFields confidence citations) = .ok m
  rw [ofFields, hcitations', hconfidence']

theorem Role.ofJson_name (r : Role) : ofJson (.str r.name) = .ok r := by
  cases r <;> rfl

theorem RoutingRequest.ofMembers_record {r : RoutingRequest} (h : ∀ s ∈ r.slots, Json.Stands ms s) :
    ofMembers ms = .ok r := by
  simp only [slots, List.forall_mem_cons] at h
  obtain ⟨hconstraints, hid, hintent, horigin, hhash, htime, -⟩ := h
  obtain ⟨constraints, hconstraints, hconstraints'⟩ := hconstraints.optional Eq.symm
    (fun v hv => Constraints.ofJson_record hv)
  have hid := hid.required not_false (fun v hv => hv ▸ Json.asText_str r.id)
  have hintent := hintent.required not_false (fun v hv => Intent.ofJson_record hv)
  have horigin := horigin.required not_false (fun v hv => hv ▸ Json.asText_str r.origin)
  have hhash := hhash.required not_false (fun v hv => hv ▸ Json.asText_str r.payloadHash)
  have htime := htime.required not_false (fun v hv => hv ▸ Json.asUInt64_toNat r.timestamp)
  unfold ofMembers
  dsimp only [Slot.fixed] at hconstraints hid hintent horigin hhash htime
  rw [hconstraints, hid, hintent, horigin, hhash, htime]
  change Except.ok (RoutingRequest.mk r.id r.origin r.intent (constraints.getD {}) r.timestamp
    r.payloadHash) = .ok r
  rw [hconstraints']

theorem ExpertOffer.ofMembers_record {o : ExpertOffer} (h : ∀ s ∈ o.slots, Json.Stands ms s) :
    ofMembers ms = .ok o := by
  simp only [slots, List.forall_mem_cons] at h
  obtain ⟨hbid, hcapabilities, htype, hguardian, hrequest, hsignature, -⟩ := h
  have hbid := hbid.required not_false (fun v hv => Bid.ofJson_record hv)
  have hcapabilities := hcapabilities.required not_false
    (fun v hv => hv ▸ Json.asTexts_strings o.capabilities)
  have htype := htype.required not_false (fun v hv => hv ▸ Json.asText_str o.expertType)
  have hguardian := hguardian.required not_false (fun v hv => hv ▸ Json.asText_str o.guardianId)
  have hrequest := hrequest.required not_false (fun v hv => hv ▸ Json.asText_str o.requestId)
  obtain ⟨signature, hsignature, hsignature'⟩ := hsignature.optional Eq.symm
    (fun v hv => hv ▸ Json.asText_str o.signature)
  unfold ofMembers
  dsimp only [Slot.fixed, Slot.defaulted] at hbid hcapabilities htype hguardian hrequest hsignature
  rw [hbid, hcapabilities, htype, hguardian, hrequest, hsignature]
  change Except.ok (ExpertOffer.mk o.requestId o.guardianId o.expertType o.capabilities o.bid
    (signature.getD "")) = .ok o
  rw [hsignature']

theorem DebatePacket.ofMembers_record {p : DebatePacket} (h : ∀ s ∈ p.slots, Json.Stands ms s) :
    ofMembers ms = .ok p := by
  simp only [slots, List.forall_mem_cons] at h
  obtain ⟨hcontent, hmetadata, hrole, hround, hsession, -⟩ := h
  have hcontent := hcontent.required not_false (fun v hv => hv ▸ Json.asText_str p.content)
  obtain ⟨metadata, hmetadata, hmetadata'⟩ := hmetadata.optional Eq.symm
    (fun v hv => Metadata.ofJson_record hv)
  have hrole := hrole.required not_false (fun v hv => hv ▸ p.role.ofJson_name)
  have hround := hround.required not_false (fun v hv => hv ▸ Json.asUInt32_toNat p.round)
  have hsession := hsession.required not_false (fun v hv => hv ▸ Json.asText_str p.sessionId)
  unfold ofMembers
  dsimp only [Slot.fixed] at hcontent hmetadata hrole hround hsession
  rw [hcontent, hmetadata, hrole, hround, hsession]
  change Except.ok (DebatePacket.mk p.sessionId p.round p.role p.content (metadata.getD {})) = .ok p
  rw [hmetadata']

namespace Message

/-- The object of a message, with its members in any order, others among them, and defaults left
out, at every level. -/
def Varies (m : Message) (v : Json) : Prop := Record m.slots v

theorem slots_nodup (m : Message) : (m.slots.map Slot.name).Nodup := by
  cases m with
  | routing r =>
    change ["type", "constraints", "id", "intent", "origin", "payload_hash", "timestamp"].Nodup
    decide
  | offer o =>
    change ["type", "bid", "capabilities", "expert_type", "guardian_id", "req_id",
      "signature"].Nodup
    decide
  | debate p =>
    change ["type", "content", "metadata", "role", "round", "session_id"].Nodup
    decide

theorem ofMembers_record {m : Message} {v : Json} (h : m.Varies v) :
    ∃ ms, v = .obj ms ∧ Json.lookup? ms "type" = some (.str m.kind.tag) ∧
      ofMembers ms m.kind = .ok m := by
  obtain ⟨ms, rfl, hstands⟩ := h.stands m.slots_nodup
  unfold slots at hstands
  rw [List.forall_mem_cons] at hstands
  obtain ⟨htype, hfields⟩ := hstands
  refine ⟨ms, rfl, ?_, ?_⟩
  · rcases htype with ⟨v, hv, rfl⟩ | ⟨-, hfalse⟩
    · exact hv
    · exact absurd hfalse not_false
  · cases m with
    | routing r =>
      rw [kind, ofMembers, RoutingRequest.ofMembers_record hfields]
      rfl
    | offer o =>
      rw [kind, ofMembers, ExpertOffer.ofMembers_record hfields]
      rfl
    | debate p =>
      rw [kind, ofMembers, DebatePacket.ofMembers_record hfields]
      rfl

/-- The object that is written of a message is one of them. -/
theorem varies_toJson (m : Message) : m.Varies m.toJson := by
  have hlast {kept : Members} {tag : Json} (h : Json.Kept m.slots (("type", tag) :: kept)) :
      Record m.slots (.obj (kept ++ [("type", tag)])) := by
    refine ⟨_, rfl, _, [], h, List.forall_mem_nil _, ?_⟩
    rw [List.append_nil]
    exact List.perm_append_singleton _ _
  cases m with
  | routing r =>
    have hc : Record r.constraints.slots r.constraints.toJson :=
      ⟨_, rfl, Json.Kept.fills (.keep rfl (.keep rfl (.keep rfl (.keep rfl .nil))))⟩
    have hi : Record r.intent.slots r.intent.toJson :=
      ⟨_, rfl, Json.Kept.fills (.keep rfl (.keep rfl (.keep rfl .nil)))⟩
    exact @hlast [_, _, _, _, _, _] _ (.keep rfl (.keep hc (.keep rfl (.keep hi (.keep rfl
      (.keep rfl (.keep rfl .nil)))))))
  | offer o =>
    have hb : Record o.bid.slots o.bid.toJson :=
      ⟨_, rfl, Json.Kept.fills (.keep rfl (.keep rfl .nil))⟩
    exact @hlast [_, _, _, _, _, _] _ (.keep rfl (.keep hb (.keep rfl (.keep rfl (.keep rfl
      (.keep rfl (.keep rfl .nil)))))))
  | debate p =>
    have hm : Record p.metadata.slots p.metadata.toJson :=
      ⟨_, rfl, Json.Kept.fills (.keep rfl (.keep rfl .nil))⟩
    exact @hlast [_, _, _, _, _] _ (.keep rfl (.keep rfl (.keep hm (.keep rfl (.keep rfl
      (.keep rfl .nil))))))

end Message

end DebateMesh

import DebateMesh.Message
import DebateMesh.Json.Reader
import DebateMesh.Json.Shape

namespace DebateMesh

open Json (ShapeFault Members Shape)

def Json.strings (ss : List String) : Json := .arr (ss.map .str)

def Constraints.toJson (c : Constraints) : Json :=
  .obj [("cost_cap", .double c.costCap), ("max_latency", .int c.maxLatency.toNat),
    ("min_reputation", .int c.minReputation.toNat), ("prefer_local", .bool c.preferLocal)]

def Intent.toJson (i : Intent) : Json :=
  .obj [("confidence", .double i.confidence), ("primary", .str i.primary),
    ("secondary", Json.strings i.secondary)]

def Bid.toJson (b : Bid) : Json :=
  .obj [("cost", .double b.cost), ("est_latency", .int b.latency.toNat)]

def Metadata.toJson (m : Metadata) : Json :=
  .obj [("citations", Json.strings m.citations), ("confidence", .double m.confidence)]

/-- The members in the order of their names. -/
def Message.toJson : Message → Json
  | .routing r =>
    .obj [("constraints", r.constraints.toJson), ("id", .str r.id), ("intent", r.intent.toJson),
      ("origin", .str r.origin), ("payload_hash", .str r.payloadHash),
      ("timestamp", .int r.timestamp.toNat), ("type", .str Kind.routing.tag)]
  | .offer o =>
    .obj [("bid", o.bid.toJson), ("capabilities", Json.strings o.capabilities),
      ("expert_type", .str o.expertType), ("guardian_id", .str o.guardianId),
      ("req_id", .str o.requestId), ("signature", .str o.signature),
      ("type", .str Kind.offer.tag)]
  | .debate p =>
    .obj [("content", .str p.content), ("metadata", p.metadata.toJson), ("role", .str p.role.name),
      ("round", .int p.round.toNat), ("session_id", .str p.sessionId),
      ("type", .str Kind.debate.tag)]

def Intent.ofJson : Shape Intent
  | .obj ms => do
    let confidence ← Json.field? ms "confidence" Json.asDouble
    let primary ← Json.field? ms "primary" Json.asText
    let secondary ← Json.field? ms "secondary" Json.asTexts
    let primary ← Json.required "primary" primary
    return { primary, secondary := secondary.getD []
             confidence := confidence.getD defaultConfidence }
  | .arr items => do
    let primary ← Json.item? items 0 Json.asText
    let primary ← Json.reached items "struct Intent with 3 elements" primary
    let secondary ← Json.item? items 1 Json.asTexts
    let confidence ← Json.item? items 2 Json.asDouble
    Json.noMoreThan 3 items
    return { primary, secondary := secondary.getD []
             confidence := confidence.getD defaultConfidence }
  | v => .error (.wrongType v.found "struct Intent")

def Constraints.ofFields (maxLatency : Option UInt32) (minReputation : Option UInt8)
    (costCap : Option Binary64) (preferLocal : Option Bool) : Constraints :=
  let unset : Constraints := {}
  { maxLatency := maxLatency.getD unset.maxLatency
    minReputation := minReputation.getD unset.minReputation
    costCap := costCap.getD unset.costCap
    preferLocal := preferLocal.getD unset.preferLocal }

def Constraints.ofJson : Shape Constraints
  | .obj ms => do
    let costCap ← Json.field? ms "cost_cap" Json.asDouble
    let maxLatency ← Json.field? ms "max_latency" Json.asUInt32
    let minReputation ← Json.field? ms "min_reputation" Json.asUInt8
    let preferLocal ← Json.field? ms "prefer_local" Json.asBool
    return .ofFields maxLatency minReputation costCap preferLocal
  | .arr items => do
    let maxLatency ← Json.item? items 0 Json.asUInt32
    let minReputation ← Json.item? items 1 Json.asUInt8
    let costCap ← Json.item? items 2 Json.asDouble
    let preferLocal ← Json.item? items 3 Json.asBool
    Json.noMoreThan 4 items
    return .ofFields maxLatency minReputation costCap preferLocal
  | v => .error (.wrongType v.found "struct IntentConstraints")

def Bid.ofJson : Shape Bid
  | .obj ms => do
    let cost ← Json.field? ms "cost" Json.asDouble
    let latency ← Json.field? ms "est_latency" Json.asUInt32
    let cost ← Json.required "cost" cost
    let latency ← Json.required "est_latency" latency
    return { cost, latency }
  | .arr items => do
    let cost ← Json.item? items 0 Json.asDouble
    let cost ← Json.reached items "struct Bid with 2 elements" cost
    let latency ← Json.item? items 1 Json.asUInt32
    let latency ← Json.reached items "struct Bid with 2 elements" latency
    Json.noMoreThan 2 items
    return { cost, latency }
  | v => .error (.wrongType v.found "struct Bid")

def Metadata.ofFields (confidence : Option Binary64) (citations : Option (List String)) :
    Metadata :=
  { confidence := confidence.getD defaultConfidence, citations := citations.getD [] }

def Metadata.ofJson : Shape Metadata
  | .obj ms => do
    let citations ← Json.field? ms "citations" Json.asTexts
    let confidence ← Json.field? ms "confidence" Json.asDouble
    return .ofFields confidence citations
  | .arr items => do
    let confidence ← Json.item? items 0 Json.asDouble
    let citations ← Json.item? items 1 Json.asTexts
    Json.noMoreThan 2 items
    return .ofFields confidence citations
  | v => .error (.wrongType v.found "struct DebateMetadata")

def Role.ofJson : Shape Role :=
  Json.asChoice Role.proposer.name Role.critic.name Role.ofName?

def RoutingRequest.ofMembers (ms : Members) : Except ShapeFault RoutingRequest := do
  let constraints ← Json.field? ms "constraints" Constraints.ofJson
  let id ← Json.field? ms "id" Json.asText
  let intent ← Json.field? ms "intent" Intent.ofJson
  let origin ← Json.field? ms "origin" Json.asText
  let payloadHash ← Json.field? ms "payload_hash" Json.asText
  let timestamp ← Json.field? ms "timestamp" Json.asUInt64
  let id ← Json.required "id" id
  let origin ← Json.required "origin" origin
  let intent ← Json.required "intent" intent
  let timestamp ← Json.required "timestamp" timestamp
  let payloadHash ← Json.required "payload_hash" payloadHash
  return { id, origin, intent, constraints := constraints.getD {}, timestamp, payloadHash }

def ExpertOffer.ofMembers (ms : Members) : Except ShapeFault ExpertOffer := do
  let bid ← Json.field? ms "bid" Bid.ofJson
  let capabilities ← Json.field? ms "capabilities" Json.asTexts
  let expertType ← Json.field? ms "expert_type" Json.asText
  let guardianId ← Json.field? ms "guardian_id" Json.asText
  let requestId ← Json.field? ms "req_id" Json.asText
  let signature ← Json.field? ms "signature" Json.asText
  let requestId ← Json.required "req_id" requestId
  let guardianId ← Json.required "guardian_id" guardianId
  let expertType ← Json.required "expert_type" expertType
  let capabilities ← Json.required "capabilities" capabilities
  let bid ← Json.required "bid" bid
  return { requestId, guardianId, expertType, capabilities, bid, signature := signature.getD "" }

def DebatePacket.ofMembers (ms : Members) : Except ShapeFault DebatePacket := do
  let content ← Json.field? ms "content" Json.asText
  let metadata ← Json.field? ms "metadata" Metadata.ofJson
  let role ← Json.field? ms "role" Role.ofJson
  let round ← Json.field? ms "round" Json.asUInt32
  let sessionId ← Json.field? ms "session_id" Json.asText
  let sessionId ← Json.required "session_id" sessionId
  let round ← Json.required "round" round
  let role ← Json.required "role" role
  let content ← Json.required "content" content
  return { sessionId, round, role, content, metadata := metadata.getD {} }

inductive ReadFault
  | notJson
  | shape (fault : ShapeFault)
  | missingType
  | unknownType (tag : String)
  | wrongType (expected : Kind) (tag : String)
  | invalid (field : Field)
deriving DecidableEq

def ReadFault.message : ReadFault → String
  | .notJson => "malformed json"
  | .shape f => "malformed json: " ++ f.text
  | .missingType => "missing \"type\" discriminator"
  | .unknownType t => "unknown message type " ++ Text.quoted t
  | .wrongType k t =>
    "expected message type " ++ Text.quoted k.tag ++ ", found " ++ Text.quoted t
  | .invalid f => invalidField f

namespace Message

/-- A message of a known kind, without its checks. -/
def ofMembers (ms : Members) : Kind → Except ShapeFault Message
  | .routing => (RoutingRequest.ofMembers ms).map routing
  | .offer => (ExpertOffer.ofMembers ms).map offer
  | .debate => (DebatePacket.ofMembers ms).map debate

def ofTagged (k : Kind) (v : Json) : Except ReadFault Message :=
  match v with
  | .obj ms =>
    match ofMembers ms k with
    | .error f => .error (.shape f)
    | .ok m =>
      match m.fault? with
      | some f => .error (.invalid f)
      | none => .ok m
  | _ => .error .missingType

def encode (m : Message) : Except Field Bytes :=
  match m.fault? with
  | some f => .error f
  | none => .ok m.toJson.encode

/-- The text is read as a whole before its type is looked at. -/
def ofBytes (choose : String → Except ReadFault Kind) (bs : Bytes) : Except ReadFault Message :=
  match Json.decode bs with
  | none => .error .notJson
  | some v =>
    match (v.member? "type").bind Json.str? with
    | none => .error .missingType
    | some tag =>
      match choose tag with
      | .error f => .error f
      | .ok k => ofTagged k v

def anyKind (tag : String) : Except ReadFault Kind :=
  match Kind.ofTag? tag with
  | some k => .ok k
  | none => .error (.unknownType tag)

def onlyKind (k : Kind) (tag : String) : Except ReadFault Kind :=
  if tag = k.tag then .ok k else .error (.wrongType k tag)

def decode (bs : Bytes) : Except ReadFault Message := ofBytes anyKind bs

/-- Reads a message of one kind only. -/
def decodeAs (k : Kind) (bs : Bytes) : Except ReadFault Message := ofBytes (onlyKind k) bs

end Message

end DebateMesh

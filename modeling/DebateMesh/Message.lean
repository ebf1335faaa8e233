import DebateMesh.Binary64.Arithmetic
import DebateMesh.Binary64.Decimal
import DebateMesh.Bytes.Hex
import DebateMesh.Text.Utf8

namespace DebateMesh

/-- Rounds after which a debate ends. -/
def maxRounds : UInt32 := 2

/-- How long a round may take, in milliseconds. -/
def roundTimeout : UInt64 := 30000

/-- What a node claims when nothing else is said. -/
def defaultConfidence : Binary64 := Binary64.ofDecimal false ⟨9, -1⟩

structure Intent where
  primary : String
  secondary : List String := []
  confidence : Binary64 := defaultConfidence
deriving DecidableEq

/-- What the user allows an expert to cost. Latencies are in milliseconds. -/
structure Constraints where
  maxLatency : UInt32 := 2000
  minReputation : UInt8 := 50
  costCap : Binary64 := Binary64.ofDecimal false ⟨5, -1⟩
  preferLocal : Bool := true
deriving DecidableEq

/-- Asks for experts. The prompt stays behind; `payloadHash` binds it. -/
structure RoutingRequest where
  id : String
  origin : String
  intent : Intent
  constraints : Constraints := {}
  timestamp : UInt64
  payloadHash : String
deriving DecidableEq

structure Bid where
  cost : Binary64
  latency : UInt32
deriving DecidableEq

/-- Answers the request `requestId`. -/
structure ExpertOffer where
  requestId : String
  guardianId : String
  expertType : String
  capabilities : List String
  bid : Bid
  signature : String := ""
deriving DecidableEq

structure Metadata where
  confidence : Binary64 := defaultConfidence
  citations : List String := []
deriving DecidableEq

inductive Role
  | proposer
  | critic
deriving DecidableEq

def Role.name : Role → String
  | .proposer => "proposer"
  | .critic => "critic"

def Role.ofName? (s : String) : Option Role :=
  if s = Role.proposer.name then some .proposer
  else if s = Role.critic.name then some .critic
  else none

structure DebatePacket where
  sessionId : String
  round : UInt32
  role : Role
  content : String
  metadata : Metadata := {}
deriving DecidableEq

inductive Message
  | routing (request : RoutingRequest)
  | offer (offer : ExpertOffer)
  | debate (packet : DebatePacket)
deriving DecidableEq

inductive Kind
  | routing
  | offer
  | debate
deriving DecidableEq

def Kind.tag : Kind → String
  | .routing => "route_req"
  | .offer => "expert_offer"
  | .debate => "debate"

def Kind.ofTag? (s : String) : Option Kind :=
  if s = Kind.routing.tag then some .routing
  else if s = Kind.offer.tag then some .offer
  else if s = Kind.debate.tag then some .debate
  else none

def Message.kind : Message → Kind
  | .routing _ => .routing
  | .offer _ => .offer
  | .debate _ => .debate

/-- True if the capability is the primary or a secondary intent. -/
def Intent.mentions (i : Intent) (capability : String) : Bool :=
  i.primary == capability || i.secondary.contains capability

def ExpertOffer.hasCapability (o : ExpertOffer) (capability : String) : Bool :=
  o.capabilities.contains capability

/-- Packets of other rounds can still be read. -/
def DebatePacket.hasValidRound (p : DebatePacket) : Bool :=
  decide (1 ≤ p.round ∧ p.round ≤ maxRounds)

/-- A field of a message that a check speaks about. -/
inductive Field
  | id
  | origin
  | payloadHash
  | intentPrimary
  | intentConfidence
  | maxLatency
  | minReputation
  | costCap
  | requestId
  | guardianId
  | bidCost
  | bidLatency
  | sessionId
  | metadataConfidence
deriving DecidableEq

def Field.name : Field → String
  | .id => "id"
  | .origin => "origin"
  | .payloadHash => "payload_hash"
  | .intentPrimary => "intent.primary"
  | .intentConfidence => "intent.confidence"
  | .maxLatency => "constraints.max_latency"
  | .minReputation => "constraints.min_reputation"
  | .costCap => "constraints.cost_cap"
  | .requestId => "req_id"
  | .guardianId => "guardian_id"
  | .bidCost => "bid.cost"
  | .bidLatency => "bid.est_latency"
  | .sessionId => "session_id"
  | .metadataConfidence => "metadata.confidence"

def isUnit (x : Binary64) : Bool :=
  x.isFinite && Binary64.zero.le x && x.le Binary64.one

def isNonNegative (x : Binary64) : Bool :=
  x.isFinite && Binary64.zero.le x

/-- The form of a SHA-256 hash: 64 hexadecimal digits of either case. -/
def isHash (s : String) : Bool :=
  let bs := Utf8.encode s
  bs.length == 64 && bs.all Hex.isDigit

abbrev Check := Bool × Field

def Intent.checks (i : Intent) : List Check :=
  [(i.primary != "", .intentPrimary), (isUnit i.confidence, .intentConfidence)]

def Constraints.checks (c : Constraints) : List Check :=
  [(decide (0 < c.maxLatency), .maxLatency), (decide (c.minReputation ≤ 100), .minReputation),
    (isNonNegative c.costCap, .costCap)]

def Bid.checks (b : Bid) : List Check :=
  [(isNonNegative b.cost, .bidCost), (decide (0 < b.latency), .bidLatency)]

def RoutingRequest.checks (r : RoutingRequest) : List Check :=
  [(r.id != "", .id), (r.origin != "", .origin), (isHash r.payloadHash, .payloadHash)] ++
    r.intent.checks ++ r.constraints.checks

def ExpertOffer.checks (o : ExpertOffer) : List Check :=
  [(o.requestId != "", .requestId), (o.guardianId != "", .guardianId)] ++ o.bid.checks

def DebatePacket.checks (p : DebatePacket) : List Check :=
  [(p.sessionId != "", .sessionId), (isUnit p.metadata.confidence, .metadataConfidence)]

def Message.checks : Message → List Check
  | .routing r => r.checks
  | .offer o => o.checks
  | .debate p => p.checks

def firstFault (cs : List Check) : Option Field := (cs.find? fun c => !c.1).map Prod.snd

/-- The first check that fails. -/
def Message.fault? (m : Message) : Option Field := firstFault m.checks

def Message.isValid (m : Message) : Bool := m.fault?.isNone

theorem firstFault_eq_none_iff {cs : List Check} :
    firstFault cs = none ↔ ∀ c ∈ cs, c.1 = true := by
  simp [firstFault]

/-- The message itself when every check holds. -/
def Message.checked (m : Message) : Except Field Message :=
  match m.fault? with
  | some f => .error f
  | none => .ok m

def invalidField (f : Field) : String := "invalid field: " ++ f.name

def refusal (f : Field) : String := "refusing to encode invalid message: " ++ invalidField f

end DebateMesh

import DebateMesh.Discovery
import DebateMesh.Envelope
import DebateMesh.PayloadHash
import DebateMesh.Session.Header
import DebateMesh.Text.Quoted

namespace DebateMesh

/-- What a node's model can do and what it charges. -/
structure Profile where
  nodeId : String
  expertType : String
  capabilities : List String
  cost : Binary64 := Binary64.zero
  latency : UInt32
  /-- Assignments the model works on at once. -/
  maxConcurrent : UInt64 := 2
deriving DecidableEq

/-- A prompt to answer, or in round two the prompt and the answer to criticise. -/
structure Assignment where
  sessionId : String
  round : UInt32
  role : Role
  prompt : String
  prior : Option String := none
deriving DecidableEq

/-- The packet that answers an assignment; the confidence is brought into range. -/
def Assignment.respond (a : Assignment) (content : String) (confidence : Binary64)
    (citations : List String) : DebatePacket :=
  { sessionId := a.sessionId, round := a.round, role := a.role, content
    metadata := ⟨confidence.clamp Binary64.zero Binary64.one, citations⟩ }

/-- A critic's prompt, kept until the proposer has spoken. -/
structure Parked where
  sessionId : String
  prompt : String
deriving DecidableEq

def maxQueued : Nat := 64

/-- Adds at the end; a full queue loses its oldest entry. -/
def enqueue {α : Type} (xs : List α) (x : α) : List α :=
  (if xs.length = maxQueued then xs.tail else xs) ++ [x]

/-- The first entry that satisfies `p`, and the queue without it. -/
def extract {α : Type} (p : α → Bool) : List α → Option (α × List α)
  | [] => none
  | x :: xs => if p x then some (x, xs) else (extract p xs).map fun (y, ys) => (y, x :: ys)

/-- An expert. Both queues hold `maxQueued` entries and forget the oldest. -/
structure Guardian where
  profile : Profile
  pending : List RoutingRequest := []
  parked : List Parked := []
  inFlight : Nat := 0
deriving DecidableEq

inductive GuardianFault
  | unknownRequest (requestId : String)
  | decrypt
  | integrity
deriving DecidableEq

def GuardianFault.message : GuardianFault → String
  | .unknownRequest id =>
    "session " ++ Text.quoted id ++ " refers to a request this node never offered on"
  | .decrypt => "prompt failed to decrypt"
  | .integrity => "prompt does not match the announced payload hash"

/-- Whether a request's identifier is the one a header shows. -/
def RoutingRequest.showsAs (r : RoutingRequest) (headerId : String) : Bool :=
  fitField requestIdWidth r.id == headerId

namespace Guardian

def nodeId (g : Guardian) : String := g.profile.nodeId

def isSaturated (g : Guardian) : Bool := decide (g.profile.maxConcurrent.toNat ≤ g.inFlight)

/-- An assignment has been answered or has failed. -/
def release (g : Guardian) : Guardian := { g with inFlight := g.inFlight - 1 }

def acquire (g : Guardian) : Option Guardian :=
  if g.isSaturated then none else some { g with inFlight := g.inFlight + 1 }

/-- Whether the profile suits the request's intent and constraints. -/
def serves (p : Profile) (r : RoutingRequest) : Bool :=
  p.capabilities.any r.intent.mentions && !r.constraints.costCap.lt p.cost &&
    decide (p.latency ≤ r.constraints.maxLatency)

def offer (p : Profile) (r : RoutingRequest) : ExpertOffer :=
  { requestId := r.id, guardianId := p.nodeId, expertType := p.expertType
    capabilities := p.capabilities, bid := ⟨p.cost, p.latency⟩ }

def accepts (g : Guardian) (r : RoutingRequest) : Bool :=
  r.origin != g.nodeId && !(g.pending.any fun q => q.id == r.id) && !g.isSaturated &&
    serves g.profile r

/-- Answers a request at most once while it is pending. -/
def offerFor (g : Guardian) (r : RoutingRequest) : Guardian × Option ExpertOffer :=
  if g.accepts r then ({ g with pending := enqueue g.pending r }, some (offer g.profile r))
  else (g, none)

/-- Takes up a session in its role. A proposer starts if a slot is free; a critic waits. -/
def join (g : Guardian) (sessionId prompt : String) : Role → Guardian × Option Assignment
  | .proposer =>
    match g.acquire with
    | none => (g, none)
    | some g => (g, some { sessionId, round := 1, role := .proposer, prompt })
  | .critic => ({ g with parked := enqueue g.parked ⟨sessionId, prompt⟩ }, none)

/-- A session that does not name this node is ignored; one that does must go back to a pending
request and carry its prompt. -/
def onInit (g : Guardian) (i : SessionInit) (e : Envelope) :
    Except GuardianFault (Guardian × Option Assignment) :=
  match i.roleOf g.nodeId with
  | none => .ok (g, none)
  | some role =>
    match extract (·.showsAs i.requestId) g.pending with
    | none => .error (.unknownRequest i.requestId)
    | some (r, pending) =>
      match e.decryptText i.encryptedPrompt (Utf8.encode i.requestId) with
      | none => .error .decrypt
      | some prompt =>
        if PayloadHash.verify prompt r.payloadHash then
          .ok ({ g with pending }.join i.sessionId prompt role)
        else .error .integrity

/-- The proposer's first packet wakes the critic of its session. -/
def onPacket (g : Guardian) (p : DebatePacket) : Guardian × Option Assignment :=
  if p.round = 1 ∧ p.role = .proposer then
    match extract (fun q => q.sessionId == p.sessionId) g.parked with
    | none => (g, none)
    | some (q, parked) =>
      let g := { g with parked }
      match g.acquire with
      | none => (g, none)
      | some g =>
        (g, some { sessionId := p.sessionId, round := 2, role := .critic, prompt := q.prompt
                   prior := some p.content })
  else (g, none)

end Guardian

end DebateMesh

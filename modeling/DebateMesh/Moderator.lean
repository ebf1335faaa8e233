import DebateMesh.Classifier
import DebateMesh.Discovery
import DebateMesh.Envelope
import DebateMesh.Message.Frame
import DebateMesh.Message.Json
import DebateMesh.Session.Debate

namespace DebateMesh

inductive Action
  /-- Bytes already encoded for their layer. -/
  | broadcast (layer : Layer) (bytes : Bytes)
  | sendInit (layer : Layer) (recipients : List String) (bytes : Bytes)
  /-- Replaces any earlier deadline; the delay is in milliseconds. -/
  | armTimer (delay : UInt64)
  | failed (requestId : String)
  | complete (sessionId requestId : String) (transcript : List DebatePacket)
deriving DecidableEq

inductive ModeratorFault
  | encode (field : Field)
  | frame (fault : Frame.WriteFault)
  | envelope (fault : Envelope.Fault)
deriving DecidableEq

def ModeratorFault.message : ModeratorFault → String
  | .encode f => refusal f
  | .frame f => f.message
  | .envelope f => f.message

/-- A request under way, and its debate once experts are chosen. -/
structure Active where
  request : RoutingRequest
  prompt : String
  discovery : Discovery
  session : Option Debate := none

/-- What takes one request at a time through discovery and debate. -/
structure Moderator where
  nodeId : String
  envelope : Envelope
  settings : DiscoverySettings := {}
  reputation : Option Reputation := none
  active : Option Active := none

/-- What must not repeat: the name of a new session, and the nonce for its prompt. -/
structure Fresh where
  sessionId : String
  nonce : Bytes

def encodeFor (layer : Layer) (m : Message) : Except ModeratorFault Bytes :=
  match layer with
  | .mesh => m.encode.mapError .encode
  | .backbone => (Frame.encode m).mapError .frame

namespace Moderator

abbrev Outcome := Except ModeratorFault (List Action)

def Outcome.actions : Outcome → List Action
  | .ok actions => actions
  | .error _ => []

def isIdle (m : Moderator) : Bool := m.active.isNone

def activeRequestId (m : Moderator) : Option String := m.active.map (·.request.id)

def drop (m : Moderator) : Moderator := { m with active := none }

def openDiscovery (s : DiscoverySettings) (r : RoutingRequest) : Discovery :=
  if r.constraints.preferLocal then { settings := s } else { settings := s, phase := .backbone }

/-- Starts on a prompt. A request still under way is dropped first. -/
def submit (m : Moderator) (prompt requestId : String) (constraints : Option Constraints)
    (now : UInt64) : Moderator × Outcome :=
  let request := RoutingRequest.ofPrompt prompt m.nodeId requestId (constraints.getD {}) now
  let discovery := openDiscovery m.settings request
  match encodeFor discovery.phase.layer (.routing request) with
  | .error f => (m.drop, .error f)
  | .ok bytes =>
    ({ m with active := some { request, prompt, discovery } },
      .ok [.broadcast discovery.phase.layer bytes, .armTimer discovery.timeout])

/-- Ends the request with what its debate holds. -/
def finish (m : Moderator) (a : Active) (d : Debate) : Moderator × List Action :=
  (m.drop, [.complete d.sessionId a.request.id d.transcript])

def withSession (m : Moderator) (a : Active) (d : Debate) : Moderator :=
  { m with active := some { a with session := some d } }

/-- Offers count until a session opens, and packets while it is open. -/
def handle (m : Moderator) (msg : Message) : Moderator × List Action :=
  match m.active with
  | none => (m, [])
  | some a =>
    match msg, a.session with
    | .offer o, none =>
      if o.requestId = a.request.id then
        ({ m with active := some { a with discovery := a.discovery.add o } }, [])
      else (m, [])
    | .debate p, some d =>
      if p.sessionId = d.sessionId then
        match d.record p with
        | .error _ => (m, [])
        | .ok d =>
          match d.status with
          | .complete => m.finish a d
          | .awaiting _ => (m.withSession a d, [.armTimer roundTimeout])
      else (m, [])
    | _, _ => (m, [])

/-- A message from the mesh; what cannot be read is dropped. -/
def onMessage (m : Moderator) (bs : Bytes) : Moderator × List Action :=
  match Message.decode bs with
  | .error _ => (m, [])
  | .ok msg => m.handle msg

/-- A frame from the backbone; what cannot be read is dropped. -/
def onFrame (m : Moderator) (bs : Bytes) : Moderator × List Action :=
  match Frame.decode bs with
  | .error _ => (m, [])
  | .ok (msg, _) => m.handle msg

/-- The invitation for the chosen experts. The prompt is bound to the identifier that the header
shows. -/
def invitation (m : Moderator) (a : Active) (proposer : ExpertOffer) (critic : Option ExpertOffer)
    (fresh : Fresh) : Except Envelope.Fault SessionInit := do
  let associated := Utf8.encode (fitField requestIdWidth a.request.id)
  let encryptedPrompt ← m.envelope.encryptText fresh.nonce a.prompt associated
  return { sessionId := fresh.sessionId, requestId := a.request.id
           proposerId := proposer.guardianId
           criticId := critic.map (·.guardianId), encryptedPrompt }

def startSession (m : Moderator) (a : Active) (s : Selection) (proposer : ExpertOffer)
    (fresh : Fresh) : Moderator × Outcome :=
  match m.invitation a proposer s.critic fresh with
  | .error f => (m, .error (.envelope f))
  | .ok i =>
    (m.withSession a (Debate.ofInit i),
      .ok [.sendInit s.phase.layer (i.recipients) i.toBytes, .armTimer roundTimeout])

/-- The local phase goes on to the backbone, and the backbone phase ends the request. -/
def escalate (m : Moderator) (a : Active) : Moderator × Outcome :=
  match a.discovery.phase with
  | .local =>
    let discovery := a.discovery.escalate
    let m := { m with active := some { a with discovery } }
    match encodeFor .backbone (.routing a.request) with
    | .error f => (m, .error f)
    | .ok bytes => (m, .ok [.broadcast .backbone bytes, .armTimer discovery.timeout])
  | .backbone => (m.drop, .ok [.failed a.request.id])

/-- The timer armed last has run out. -/
def onTimeout (m : Moderator) (fresh : Fresh) : Moderator × Outcome :=
  match m.active with
  | none => (m, .ok [])
  | some a =>
    match a.session with
    | some d =>
      let (m, actions) := m.finish a d.expire
      (m, .ok actions)
    | none =>
      if a.discovery.isSufficient then
        let s := a.discovery.select a.request m.reputation
        match s.proposer with
        | some proposer => m.startSession a s proposer fresh
        | none => m.escalate a
      else m.escalate a

/-- Forgets the request; experts are not told. -/
def cancel (m : Moderator) : Moderator := m.drop

inductive Event
  | submit (prompt requestId : String) (constraints : Option Constraints) (now : UInt64)
  | message (bytes : Bytes)
  | frame (bytes : Bytes)
  | timeout (fresh : Fresh)
  | cancel

def step (m : Moderator) : Event → Moderator × Outcome
  | .submit prompt id constraints now => m.submit prompt id constraints now
  | .message bs => let (m, actions) := m.onMessage bs; (m, .ok actions)
  | .frame bs => let (m, actions) := m.onFrame bs; (m, .ok actions)
  | .timeout fresh => m.onTimeout fresh
  | .cancel => (m.cancel, .ok [])

def run (m : Moderator) : List Event → Moderator × List Outcome
  | [] => (m, [])
  | e :: es =>
    let (m, o) := m.step e
    let (m, os) := run m es
    (m, o :: os)

end Moderator

end DebateMesh

import DebateMesh.Datagram
import DebateMesh.Guardian
import DebateMesh.Message.Frame
import DebateMesh.Message.Json

namespace DebateMesh

/-- What is to be done next: send, or have the model work on an assignment and answer on a layer. -/
inductive Work
  | send (layer : Layer) (datagram : Datagram)
  | generate (layer : Layer) (assignment : Assignment)
deriving DecidableEq

/-- An expert on the network, which remembers on which layer it offered: its answers follow the
request. -/
structure GuardianNode where
  guardian : Guardian
  envelope : Envelope
  offerLayers : List (String × Layer) := []

/-- What the node claims of its own answers. -/
def answerConfidence : Binary64 := .ofDecimal false ⟨9, -1⟩

/-- A message as a datagram of its layer; nothing when it cannot be encoded there. -/
def Datagram.ofMessage? (layer : Layer) (m : Message) : Option Datagram :=
  match layer with
  | .mesh => m.encode.toOption.map .json
  | .backbone => (Frame.encode m).toOption.map .frame

/-- The message of a datagram and the layer it came on. -/
def Datagram.message? : Datagram → Option (Layer × Message)
  | .json b => (Message.decode b).toOption.map fun m => (.mesh, m)
  | .frame b => (Frame.decode b).toOption.map fun (m, _) => (.backbone, m)
  | .sessionInit _ => none

namespace GuardianNode

/-- The layer of the oldest offer that a header's request could mean. -/
def offerLayer (n : GuardianNode) (headerId : String) : Layer :=
  match n.offerLayers.find? fun o => fitField requestIdWidth o.1 == headerId with
  | some (_, layer) => layer
  | none => .mesh

def onInit (n : GuardianNode) (bs : Bytes) : GuardianNode × List Work :=
  match SessionInit.ofBytes bs with
  | .error _ => (n, [])
  | .ok i =>
    match n.guardian.onInit i n.envelope with
    | .error _ => (n, [])
    | .ok (g, none) => ({ n with guardian := g }, [])
    | .ok (g, some a) => ({ n with guardian := g }, [.generate (n.offerLayer i.requestId) a])

/-- Only an offer that can be sent is remembered with its layer. -/
def onRequest (n : GuardianNode) (layer : Layer) (r : RoutingRequest) : GuardianNode × List Work :=
  match n.guardian.offerFor r with
  | (g, none) => ({ n with guardian := g }, [])
  | (g, some o) =>
    let n := { n with guardian := g }
    match Datagram.ofMessage? layer (.offer o) with
    | none => (n, [])
    | some d => ({ n with offerLayers := enqueue n.offerLayers (r.id, layer) }, [.send layer d])

def onPacket (n : GuardianNode) (layer : Layer) (p : DebatePacket) : GuardianNode × List Work :=
  let (g, a) := n.guardian.onPacket p
  ({ n with guardian := g }, a.toList.map (.generate layer))

def onMessage (n : GuardianNode) (layer : Layer) : Message → GuardianNode × List Work
  | .routing r => n.onRequest layer r
  | .debate p => n.onPacket layer p
  | .offer _ => (n, [])

def onDatagram (n : GuardianNode) (d : Datagram) : GuardianNode × List Work :=
  match d with
  | .sessionInit bs => n.onInit bs
  | d =>
    match d.message? with
    | none => (n, [])
    | some (layer, m) => n.onMessage layer m

/-- The model is done with an assignment; there is no packet when it failed. -/
def onGenerated (n : GuardianNode) (layer : Layer) (packet : Option DebatePacket) :
    GuardianNode × List Work :=
  let work := packet.bind fun p => (Datagram.ofMessage? layer (.debate p)).map (.send layer)
  ({ n with guardian := n.guardian.release }, work.toList)

/-- The packet for what the model wrote. -/
def reply (a : Assignment) (content : String) : DebatePacket :=
  a.respond content answerConfidence []

end GuardianNode

end DebateMesh

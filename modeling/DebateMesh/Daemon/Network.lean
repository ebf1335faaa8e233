import DebateMesh.Daemon.GuardianNode
import DebateMesh.Daemon.ModeratorLoop
import DebateMesh.LocalModel
import DebateMesh.Session.Identifier

namespace DebateMesh

structure GuardianHost where
  node : GuardianNode
  model : LocalModel

structure OpenCall where
  host : Nat
  layer : Layer
  assignment : Assignment

/-- A moderator, which is node 0, and guardians, which follow. Each datagram goes to all nodes but
its sender. -/
structure Network where
  /-- Nothing once the moderator's loop has ended. -/
  moderator : Option ModeratorLoop
  hosts : List GuardianHost
  /-- Every request to a model in its order; those that were answered leave a gap. -/
  calls : List (Option OpenCall) := []
  clock : Nat := 0
  /-- Time of day in seconds. -/
  time : UInt64 := 0
  delivering : Bool := true
  /-- Bytes of a line whose end has not come. -/
  typed : Bytes := []
  /-- Random octets, sixteen at a time, and how often they were drawn. -/
  random : Nat → Bytes
  draws : Nat := 0

inductive NetworkEvent
  | sent (node : Nat) (layer : Layer) (datagram : Datagram)
  | printed (line : String)
  | asked (request : HttpRequest)
  | ended (node : Nat) (fault : LoopFault)

structure Parcel where
  sender : Nat
  layer : Layer
  datagram : Datagram

/-- A network with what it has done, and the datagrams that wait for delivery. -/
structure Progress where
  network : Network
  events : List NetworkEvent := []
  mail : List Parcel := []
  ended : Option LoopFault := none

namespace Progress

def log (p : Progress) (e : NetworkEvent) : Progress := { p with events := p.events ++ [e] }

def post (p : Progress) (parcel : Parcel) : Progress := { p with mail := p.mail ++ [parcel] }

def effect (p : Progress) : Effect → Progress
  | .send layer d => p.post ⟨0, layer, d⟩
  | .print line => p.log (.printed line)

def random (p : Progress) : Bytes := p.network.random p.network.draws

def drawn (p : Progress) : Progress :=
  { p with network := { p.network with draws := p.network.draws + 1 } }

def stepModerator (p : Progress) (e : LoopEvent) : Progress :=
  match p.network.moderator with
  | none => p
  | some l =>
    match l.step p.network.clock p.network.time e with
    | .error f => { p with network := { p.network with moderator := none }, ended := some f }
    | .ok (l, effects) =>
      effects.foldl effect { p with network := { p.network with moderator := some l } }

def setHost (p : Progress) (i : Nat) (h : GuardianHost) : Progress :=
  { p with network := { p.network with hosts := p.network.hosts.set i h } }

/-- Host `i` is node `i + 1`. -/
def work (p : Progress) (i : Nat) (h : GuardianHost) : Work → Progress
  | .send layer d => p.post ⟨i + 1, layer, d⟩
  | .generate layer a =>
    let p := p.log (.asked (h.model.request a))
    { p with network := { p.network with calls := p.network.calls ++ [some ⟨i, layer, a⟩] } }

def stepHost (p : Progress) (i : Nat) (f : GuardianNode → GuardianNode × List Work) : Progress :=
  match p.network.hosts[i]? with
  | none => p
  | some h =>
    let (node, works) := f h.node
    let h := { h with node }
    works.foldl (fun p w => p.work i h w) (p.setHost i h)

def deliver (p : Progress) (d : Datagram) (node : Nat) : Progress :=
  match node with
  | 0 => p.stepModerator (.datagram d)
  | i + 1 => p.stepHost i fun n => n.onDatagram d

/-- Delivers what waits, oldest first; what that causes waits behind it. `fuel` bounds the number of
parcels. -/
def settle : (fuel : Nat) → Progress → Progress
  | 0, p => p
  | fuel + 1, p =>
    match p.mail with
    | [] => p
    | parcel :: mail =>
      let p := { p with mail }.log (.sent parcel.sender parcel.layer parcel.datagram)
      let others := (List.range (p.network.hosts.length + 1)).filter (· ≠ parcel.sender)
      let p :=
        if p.network.delivering then others.foldl (fun p n => p.deliver parcel.datagram n) p
        else p
      settle fuel p

/-- Requests lead to offers, one from each host, and nothing that is sent leads to more. -/
def settled (p : Progress) : Progress :=
  settle (p.mail.length * (p.network.hosts.length + 1) + 1) p

/-- The events of a step, in order; the end of a loop comes last. -/
def result (p : Progress) : Network × List NetworkEvent :=
  let p := p.settled
  (p.network, p.events ++ (p.ended.map (.ended 0)).toList)

end Progress

namespace Network

/-- Whole lines, without their ends, and what follows the last end. -/
def splitLines (bs : Bytes) : List Bytes × Bytes :=
  let (lines, line) := bs.foldl
    (fun (lines, line) b => if b = 10 then (line.reverse :: lines, []) else (lines, b :: line))
    (([] : List Bytes), ([] : Bytes))
  (lines.reverse, line.reverse)

def progress (n : Network) : Progress := { network := n }

def readsInput (n : Network) : Bool :=
  match n.moderator with
  | some l => l.inputOpen
  | none => false

def typeLine (p : Progress) (line : Bytes) : Progress :=
  p.drawn.stepModerator (.line line (requestIdOf p.random))

def typeBytes (n : Network) (bs : Bytes) : Network × List NetworkEvent :=
  if n.readsInput then
    let (lines, typed) := splitLines (n.typed ++ bs)
    (lines.foldl typeLine { n with typed }.progress).result
  else (n, [])

/-- The user closes the input; a line without an end still counts. -/
def closeInput (n : Network) : Network × List NetworkEvent :=
  if n.readsInput then
    let p := { n with typed := [] }.progress
    let p := if n.typed.isEmpty then p else typeLine p n.typed
    (p.stepModerator .endOfInput).result
  else (n, [])

/-- Time passes; a deadline that has passed takes effect once. -/
def advance (n : Network) (delay : Nat) : Network × List NetworkEvent :=
  let n := { n with clock := n.clock + delay }
  let p := n.progress
  match n.moderator with
  | none => p.result
  | some l =>
    if l.isDue n.clock then
      let fresh : Fresh := ⟨sessionIdOf p.random, p.random.take nonceWidth⟩
      (p.drawn.stepModerator (.alarm fresh)).result
    else p.result

/-- A datagram from nowhere; one that cannot be read is passed over. -/
def inject (n : Network) (node : Nat) (bs : Bytes) : Network × List NetworkEvent :=
  match Datagram.decode bs with
  | none => (n, [])
  | some d => (n.progress.deliver d node).result

/-- A model answers the request at this place in their order, unless it was answered before. -/
def answer (n : Network) (place : Nat) (r : HttpReply) : Network × List NetworkEvent :=
  match n.calls[place]?.join with
  | none => (n, [])
  | some w =>
    let packet := (LocalModel.answer r).toOption.map (GuardianNode.reply w.assignment)
    let p := { n with calls := n.calls.set place none }.progress
    (p.stepHost w.host fun g => g.onGenerated w.layer packet).result

def setDelivery (n : Network) (on : Bool) : Network := { n with delivering := on }

end Network

end DebateMesh

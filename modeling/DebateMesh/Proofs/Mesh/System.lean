import DebateMesh.Daemon.GuardianNode
import DebateMesh.Daemon.ModeratorLoop
import DebateMesh.Session.Identifier
import Mathlib.Algebra.Group.Nat.Defs

namespace DebateMesh

/-- Where a datagram can be delivered. -/
inductive Address
  | moderator
  | node (k : Nat)
deriving DecidableEq

/-- An assignment that a node's model has been given. -/
structure Job where
  node : Nat
  layer : Layer
  assignment : Assignment
deriving DecidableEq

/-- What a model answers with. -/
structure Reply where
  content : String
  confidence : Binary64
  citations : List String
deriving DecidableEq

def Job.packet (j : Job) (r : Reply) : DebatePacket :=
  j.assignment.respond r.content r.confidence r.citations

@[simp] theorem Job.packet_round (j : Job) (r : Reply) :
    (j.packet r).round = j.assignment.round := rfl

@[simp] theorem Job.packet_sessionId (j : Job) (r : Reply) :
    (j.packet r).sessionId = j.assignment.sessionId := rfl

/-- What has happened so far. Datagrams and jobs are known by their places, and nothing is taken
back. -/
structure History where
  /-- The session names drawn. -/
  sessions : List String := []
  sent : List Datagram := []
  delivered : List (Nat × Address) := []
  jobs : List Job := []
  /-- The jobs that are over, each with its packet unless it failed. -/
  done : List (Nat × Option DebatePacket) := []
deriving DecidableEq

namespace History

def draw (h : History) (sessionId : String) : History :=
  { h with sessions := sessionId :: h.sessions }

def post (h : History) (ds : List Datagram) : History := { h with sent := h.sent ++ ds }

def deliver (h : History) (place : Nat) (address : Address) : History :=
  { h with delivered := (place, address) :: h.delivered }

def assign (h : History) (js : List Job) : History := { h with jobs := h.jobs ++ js }

def settle (h : History) (job : Nat) (packet : Option DebatePacket) : History :=
  { h with done := (job, packet) :: h.done }

/-- What can be delivered there. No node takes in more octets than 64 bits can count. -/
def parcel? (h : History) (place : Nat) (address : Address) : Option Datagram :=
  match h.sent[place]? with
  | none => none
  | some d => if d.body.length < 2 ^ 64 ∧ (place, address) ∉ h.delivered then some d else none

/-- A job that is not over. -/
def job? (h : History) (place : Nat) : Option Job :=
  if place ∈ h.done.map Prod.fst then none else h.jobs[place]?

end History

structure Mesh where
  moderator : Moderator
  nodes : List GuardianNode
  /-- What was submitted: identifiers and texts, the last one last. -/
  submitted : List (String × String) := []
  history : History := {}

/-- Who is on the network: a moderator at rest and the guardians' profiles. Headers can tell the
guardians apart, and all share the moderator's key. -/
structure Roster where
  moderator : Moderator
  profiles : List Profile
  idle : moderator.active = none
  named : ∀ p ∈ profiles, fitField nodeIdWidth p.nodeId ≠ ""
  distinct : profiles.Pairwise fun p q =>
    fitField nodeIdWidth p.nodeId ≠ fitField nodeIdWidth q.nodeId

def Roster.start (r : Roster) : Mesh where
  moderator := r.moderator
  nodes := r.profiles.map fun p =>
    { guardian := { profile := p }, envelope := r.moderator.envelope }

/-- What the mesh sees of an action. -/
def Action.datagram? (a : Action) : Option Datagram :=
  match a.effect? with
  | some (.send _ d) => some d
  | _ => none

def Work.datagram? : Work → Option Datagram
  | .send _ d => some d
  | .generate _ _ => none

def Work.job? (node : Nat) : Work → Option Job
  | .send _ _ => none
  | .generate layer a => some ⟨node, layer, a⟩

inductive MeshEvent
  | submit (text requestId : String) (constraints : Option Constraints) (now : UInt64)
  | cancel
  /-- The timer runs out; random octets name the session that may open. -/
  | timeout (random nonce : Bytes)
  | hear (place : Nat)
  | receive (place node : Nat)
  /-- A model is done with a job, or has failed. -/
  | answer (job : Nat) (reply : Option Reply)

namespace Mesh

def act (w : Mesh) (m : Moderator) (actions : List Action) : Mesh × List Action :=
  ({ w with moderator := m, history := w.history.post (actions.filterMap Action.datagram?) },
    actions)

def work (w : Mesh) (k : Nat) (n : GuardianNode) (works : List Work) : Mesh × List Action :=
  ({ w with
      nodes := w.nodes.set k n
      history := (w.history.post (works.filterMap Work.datagram?)).assign
        (works.filterMap (Work.job? k)) }, [])

/-- What an event leads to and the moderator's actions; nothing when it cannot happen. -/
def step? (w : Mesh) : MeshEvent → Option (Mesh × List Action)
  | .submit text requestId constraints now =>
    let (m, o) := w.moderator.submit text requestId constraints now
    some ({ w with submitted := w.submitted ++ [(requestId, text)] }.act m o.actions)
  | .cancel => some (w.act w.moderator.cancel [])
  | .timeout random nonce =>
    let sessionId := sessionIdOf random
    if random.length = 16 ∧ nonce.length = nonceWidth ∧ sessionId ∉ w.history.sessions then
      let (m, o) := w.moderator.onTimeout ⟨sessionId, nonce⟩
      some ({ w with history := w.history.draw sessionId }.act m o.actions)
    else none
  | .hear place =>
    match w.history.parcel? place .moderator with
    | none => none
    | some d =>
      let (m, actions) := ModeratorLoop.onDatagram w.moderator d
      some ({ w with history := w.history.deliver place .moderator }.act m actions)
  | .receive place k =>
    match w.history.parcel? place (.node k), w.nodes[k]? with
    | some d, some n =>
      let (n, works) := n.onDatagram d
      some ({ w with history := w.history.deliver place (.node k) }.work k n works)
    | _, _ => none
  | .answer place reply =>
    match w.history.job? place with
    | none => none
    | some j =>
      match w.nodes[j.node]? with
      | none => none
      | some n =>
        let packet := reply.map j.packet
        let (n, works) := n.onGenerated j.layer packet
        some ({ w with history := w.history.settle place packet }.work j.node n works)

/-- Where the events lead, if they can happen in turn. -/
def run? (w : Mesh) : List MeshEvent → Option Mesh
  | [] => some w
  | e :: es =>
    match w.step? e with
    | none => none
    | some (w, _) => run? w es

end Mesh

end DebateMesh

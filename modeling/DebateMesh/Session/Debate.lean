import DebateMesh.Session.Header
import DebateMesh.Text.Quoted

namespace DebateMesh

structure Debate where
  sessionId : String
  requestId : String
  proposerId : String
  criticId : Option String
  transcript : List DebatePacket := []
  expired : Bool := false
deriving DecidableEq

inductive DebateStatus
  | awaiting (round : UInt32)
  | complete
deriving DecidableEq

inductive DebateFault
  | closed
  | wrongSession (id : String)
  | roundLimit (round : UInt32)
  | unexpectedRound (expected got : UInt32)
  | proposerFirst
deriving DecidableEq

def DebateFault.message : DebateFault → String
  | .closed => "session is closed"
  | .wrongSession id => "packet belongs to session " ++ Text.quoted id
  | .roundLimit r => "round " ++ toString r.toNat ++ " exceeds the round limit"
  | .unexpectedRound e g =>
    "expected round " ++ toString e.toNat ++ ", got " ++ toString g.toNat
  | .proposerFirst => "round 1 must come from the proposer"

namespace Debate

def ofInit (i : SessionInit) : Debate :=
  { sessionId := i.sessionId, requestId := i.requestId, proposerId := i.proposerId
    criticId := i.criticId }

def rounds (d : Debate) : UInt32 := UInt32.ofNat d.transcript.length

def nextRound (d : Debate) : UInt32 := d.rounds + 1

/-- A debate is over after the last round, after round one when there is no critic, and when its
time has run out. -/
def isTerminal (d : Debate) : Bool :=
  d.expired || decide (maxRounds ≤ d.rounds) || (d.criticId.isNone && !d.transcript.isEmpty)

def status (d : Debate) : DebateStatus :=
  if d.isTerminal then .complete else .awaiting d.nextRound

def refusal? (d : Debate) (p : DebatePacket) : Option DebateFault :=
  if d.isTerminal then some .closed
  else if p.sessionId ≠ d.sessionId then some (.wrongSession p.sessionId)
  else if maxRounds < p.round then some (.roundLimit p.round)
  else if p.round ≠ d.nextRound then some (.unexpectedRound d.nextRound p.round)
  else if p.round = 1 ∧ p.role ≠ .proposer then some .proposerFirst
  else none

def append (d : Debate) (p : DebatePacket) : Debate := { d with transcript := d.transcript ++ [p] }

/-- The debate with the packet, unless it is refused. -/
def record (d : Debate) (p : DebatePacket) : Except DebateFault Debate :=
  match d.refusal? p with
  | some f => .error f
  | none => .ok (d.append p)

def expire (d : Debate) : Debate := { d with expired := true }

end Debate

end DebateMesh

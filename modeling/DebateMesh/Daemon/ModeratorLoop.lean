import DebateMesh.Datagram
import DebateMesh.Moderator
import DebateMesh.Text.Class

namespace DebateMesh

/-- What a daemon does to the world. -/
inductive Effect
  | send (layer : Layer) (datagram : Datagram)
  | print (line : String)
deriving DecidableEq

inductive LoopFault
  | badLine
  | moderator (fault : ModeratorFault)
deriving DecidableEq

/-- A moderator that reads lines and datagrams. The timer that it arms is one deadline, on a clock
of milliseconds. -/
structure ModeratorLoop where
  moderator : Moderator
  inputOpen : Bool := true
  deadline : Option Nat := none

inductive LoopEvent
  /-- A line without its end, and the identifier that its request would get. -/
  | line (bytes : Bytes) (requestId : String)
  | endOfInput
  | datagram (datagram : Datagram)
  | alarm (fresh : Fresh)

/-- The line that tells how a debate ended. -/
def verdict (requestId : String) (transcript : List DebatePacket) : String :=
  match transcript.getLast? with
  | some p => "[" ++ requestId ++ "] " ++ p.role.name ++ ": " ++ p.content
  | none => "[" ++ requestId ++ "] experts did not respond"

/-- What the user or the mesh sees of an action. -/
def Action.effect? : Action → Option Effect
  | .broadcast layer bytes => some (.send layer (.message layer bytes))
  | .sendInit layer _ bytes => some (.send layer (.sessionInit bytes))
  | .armTimer _ => none
  | .failed id => some (.print ("[" ++ id ++ "] no experts available"))
  | .complete _ id transcript => some (.print (verdict id transcript))

/-- The deadline after an action. -/
def Action.deadline (now : Nat) (deadline : Option Nat) : Action → Option Nat
  | .armTimer delay => some (now + delay.toNat)
  | _ => deadline

namespace ModeratorLoop

def perform (l : ModeratorLoop) (now : Nat) (actions : List Action) : ModeratorLoop × List Effect :=
  ({ l with deadline := actions.foldl (Action.deadline now) l.deadline },
    actions.filterMap Action.effect?)

/-- Takes the moderator's answer to an event. -/
def settle (l : ModeratorLoop) (now : Nat) (answer : Moderator × Moderator.Outcome) :
    Except LoopFault (ModeratorLoop × List Effect) :=
  match answer.2 with
  | .error f => .error (.moderator f)
  | .ok actions => .ok ({ l with moderator := answer.1 }.perform now actions)

/-- Submits a line that is not blank. -/
def onLine (l : ModeratorLoop) (now : Nat) (time : UInt64) (bytes : Bytes) (requestId : String) :
    Except LoopFault (ModeratorLoop × List Effect) :=
  match Utf8.decodeChars bytes with
  | none => .error .badLine
  | some cs =>
    match Text.trimChars cs with
    | [] => .ok (l, [])
    | cs => l.settle now (l.moderator.submit (String.ofList cs) requestId none time)

def onDatagram (m : Moderator) : Datagram → Moderator × List Action
  | .json b => m.onMessage b
  | .frame b => m.onFrame b
  | .sessionInit _ => (m, [])

/-- One turn of the loop. `now` is the clock of the timers, `time` the time of day in seconds. -/
def step (l : ModeratorLoop) (now : Nat) (time : UInt64) :
    LoopEvent → Except LoopFault (ModeratorLoop × List Effect)
  | .line bytes requestId => l.onLine now time bytes requestId
  | .endOfInput => .ok ({ l with inputOpen := false }, [])
  | .datagram d =>
    let (m, actions) := onDatagram l.moderator d
    l.settle now (m, .ok actions)
  | .alarm fresh => { l with deadline := none }.settle now (l.moderator.onTimeout fresh)

def isDue (l : ModeratorLoop) (now : Nat) : Bool :=
  match l.deadline with
  | some d => decide (d ≤ now)
  | none => false

end ModeratorLoop

end DebateMesh

import DebateMesh.Bytes.Hex
import DebateMesh.Guardian
import DebateMesh.SocketAddress
import DebateMesh.Text.Class
import DebateMesh.Text.Digits

namespace DebateMesh

inductive NodeRole
  | moderator
  | guardian
deriving DecidableEq

structure Settings where
  nodeId : String
  role : NodeRole := .moderator
  meshPort : UInt16 := 47100
  /-- Where backbone traffic goes, if not to the mesh. -/
  backbone : Option SocketAddress := none
  /-- The key that the network shares, in hexadecimal. -/
  networkKey : Option String := none
  logLevel : String := "info"
  logJson : Bool := false
  modelUrl : Option String := none
  modelName : String := "default"
  discovery : DiscoverySettings := {}
  guardian : Option Profile := none

/-- Settings that have been checked, and the envelope of their key. -/
structure CheckedSettings extends Settings where
  envelope : Envelope

inductive SettingsFault
  | emptyNodeId
  | noKey
  | keyNotHex (fault : Hex.Fault)
  | keyLength (length : Nat)
  | noProfile
  | noCapabilities
  | zeroLatency
  | badCost (cost : Binary64)
  | zeroConcurrent
  | noModelUrl
deriving DecidableEq

def SettingsFault.message : SettingsFault → String
  | .emptyNodeId => "node_id must not be empty"
  | .noKey => "network_key is required (hex, 16/24/32 bytes)"
  | .keyNotHex f => "network_key is not valid hex: " ++ f.message
  | .keyLength n => "network_key must be 16, 24 or 32 bytes (got " ++ toString n ++ ")"
  | .noProfile => "role = \"guardian\" requires a [guardian] section"
  | .noCapabilities => "[guardian] capabilities must not be empty"
  | .zeroLatency => "[guardian] est_latency_ms must be positive"
  | .badCost x =>
    "[guardian] cost must be a non-negative number (got " ++ String.ofList x.positionalText ++ ")"
  | .zeroConcurrent => "[guardian] max_concurrent must be at least 1"
  | .noModelUrl => "role = \"guardian\" requires cortex_url"

abbrev Environment := String → Option String

def Environment.names : List String :=
  ["PNEUMA_NODE_ID", "PNEUMA_MESH_PORT", "PNEUMA_NETWORK_KEY", "PNEUMA_CORTEX_URL",
   "PNEUMA_LOG_LEVEL"]

/-- The number of a socket in decimal; a plus sign may stand before it. -/
def portNumber? (s : String) : Option UInt16 :=
  let cs := if s.toList.head? = some '+' then s.toList.tail else s.toList
  let (ds, rest) := Text.leadingDigits 10 cs
  let n := Text.ofDigits 10 ds
  if ds.isEmpty ∨ !rest.isEmpty ∨ UInt16.size ≤ n then none else some (UInt16.ofNat n)

namespace Settings

/-- Variables that are set override the file; a socket's number that cannot be read is ignored. -/
def override (s : Settings) (env : Environment) : Settings :=
  { s with
    nodeId := (env "PNEUMA_NODE_ID").getD s.nodeId
    meshPort := ((env "PNEUMA_MESH_PORT").bind portNumber?).getD s.meshPort
    networkKey := (env "PNEUMA_NETWORK_KEY").or s.networkKey
    modelUrl := (env "PNEUMA_CORTEX_URL").or s.modelUrl
    logLevel := (env "PNEUMA_LOG_LEVEL").getD s.logLevel }

/-- The envelope of the network key; blanks around the key do not count. -/
def openKey (s : Settings) : Except SettingsFault Envelope :=
  match s.networkKey with
  | none => .error .noKey
  | some text =>
    match Hex.decode (Utf8.encode (Text.trim text)) with
    | .error f => .error (.keyNotHex f)
    | .ok key =>
      if h : key.length ∈ keyWidths then .ok ⟨key, h⟩ else .error (.keyLength key.length)

/-- A profile that can make valid offers. Without an identifier of its own it has the node's. -/
def checkProfile (nodeId : String) (p : Profile) : Except SettingsFault Profile :=
  if p.capabilities.isEmpty then .error .noCapabilities
  else if p.latency = 0 then .error .zeroLatency
  else if !(p.cost.isFinite && Binary64.zero.le p.cost) then .error (.badCost p.cost)
  else if p.maxConcurrent = 0 then .error .zeroConcurrent
  else .ok { p with nodeId := if p.nodeId.isEmpty then nodeId else p.nodeId }

/-- A guardian needs a profile and a model. -/
def checkRole (s : Settings) : Except SettingsFault Settings :=
  match s.role, s.guardian with
  | .moderator, _ => .ok s
  | .guardian, none => .error .noProfile
  | .guardian, some p =>
    match checkProfile s.nodeId p with
    | .error f => .error f
    | .ok p => if s.modelUrl.isNone then .error .noModelUrl else .ok { s with guardian := some p }

def check (s : Settings) : Except SettingsFault CheckedSettings :=
  if (Text.trim s.nodeId).isEmpty then .error .emptyNodeId
  else
    match s.openKey with
    | .error f => .error f
    | .ok envelope =>
      match s.checkRole with
      | .error f => .error f
      | .ok s => .ok { s with envelope }

end Settings

end DebateMesh

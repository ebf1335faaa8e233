import DebateMesh.Settings
import DebateMesh.Toml.Shape

namespace DebateMesh

def NodeRole.ofName? (name : String) : Option NodeRole :=
  if name = "moderator" then some .moderator
  else if name = "guardian" then some .guardian
  else none

def SocketAddress.ofToml? : Toml.Shape SocketAddress
  | .text s => SocketAddress.ofChars s.toList
  | _ => none

def DiscoverySettings.ofToml? : Toml.Shape DiscoverySettings := fun v => do
  let es ← Toml.asRecord
    ["local_timeout_ms", "backbone_timeout_ms", "reputation_weight", "latency_weight",
     "min_offers"] v
  let d : DiscoverySettings := {}
  return {
    localTimeout := ← Toml.orElse es "local_timeout_ms" Toml.asUInt64 d.localTimeout
    backboneTimeout := ← Toml.orElse es "backbone_timeout_ms" Toml.asUInt64 d.backboneTimeout
    reputationWeight := ← Toml.orElse es "reputation_weight" Toml.asReal d.reputationWeight
    latencyWeight := ← Toml.orElse es "latency_weight" Toml.asReal d.latencyWeight
    minOffers := ← Toml.orElse es "min_offers" Toml.asUInt64 d.minOffers }

def Profile.ofToml? : Toml.Shape Profile := fun v => do
  let es ← Toml.asRecord
    ["node_id", "expert_type", "capabilities", "cost", "est_latency_ms", "max_concurrent"] v
  return {
    nodeId := ← Toml.orElse es "node_id" Toml.asText ""
    expertType := ← Toml.required es "expert_type" Toml.asText
    capabilities := ← Toml.required es "capabilities" Toml.asTexts
    cost := ← Toml.orElse es "cost" Toml.asReal Binary64.zero
    latency := ← Toml.required es "est_latency_ms" Toml.asUInt32
    maxConcurrent := ← Toml.orElse es "max_concurrent" Toml.asUInt64 2 }

namespace Settings

def names : List String :=
  ["node_id", "role", "mesh_port", "backbone_addr", "network_key", "log_level", "log_json",
   "cortex_url", "cortex_model", "discovery", "guardian"]

/-- The settings of a file, when it has no other names; `d` is what it leaves out. -/
def ofEntries? (d : Settings) (es : Toml.Entries) : Option Settings := do
  let es ← Toml.asRecord names (.table .header es)
  return {
    nodeId := ← Toml.orElse es "node_id" Toml.asText d.nodeId
    role := ← Toml.orElse es "role" (Toml.asChoice NodeRole.ofName?) d.role
    meshPort := ← Toml.orElse es "mesh_port" Toml.asUInt16 d.meshPort
    backbone := ← Toml.optional es "backbone_addr" SocketAddress.ofToml?
    networkKey := ← Toml.optional es "network_key" Toml.asText
    logLevel := ← Toml.orElse es "log_level" Toml.asText d.logLevel
    logJson := ← Toml.orElse es "log_json" Toml.asTruth d.logJson
    modelUrl := ← Toml.optional es "cortex_url" Toml.asText
    modelName := ← Toml.orElse es "cortex_model" Toml.asText d.modelName
    discovery := ← Toml.orElse es "discovery" DiscoverySettings.ofToml? d.discovery
    guardian := ← Toml.optional es "guardian" Profile.ofToml? }

inductive LoadFault
  /-- The file is not UTF-8. -/
  | unreadable
  /-- The file does not follow the grammar, or has other names or values than settings do. -/
  | malformed
  | unfit (fault : SettingsFault)
deriving DecidableEq

def LoadFault.message : LoadFault → String
  | .unreadable => "the settings file is not UTF-8"
  | .malformed => "the settings file cannot be parsed"
  | .unfit f => f.message

/-- The settings of a file, if there is one; `fresh` is the node's identifier if it has no other. -/
def ofFile? (file : Option Bytes) (fresh : String) : Except LoadFault Settings :=
  match file with
  | none => .ok { nodeId := fresh }
  | some bytes =>
    match Utf8.decodeChars bytes with
    | none => .error .unreadable
    | some cs =>
      match (Toml.ofChars cs).bind (ofEntries? { nodeId := fresh }) with
      | none => .error .malformed
      | some s => .ok s

/-- What a node runs with, out of its file and its environment. -/
def load (file : Option Bytes) (env : Environment) (fresh : String) :
    Except LoadFault CheckedSettings :=
  match ofFile? file fresh with
  | .error f => .error f
  | .ok s =>
    match (s.override env).check with
    | .error f => .error (.unfit f)
    | .ok s => .ok s

end Settings

end DebateMesh

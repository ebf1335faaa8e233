import DebateMesh.Session.Identifier
import DebateMesh.Settings.File

namespace DebateMesh

def version : String := "pneuma-node 0.1.0"

/-- A file that cannot be opened counts as absent. -/
def readFile? (path : String) : IO (Option Bytes) := do
  try
    return some (← IO.FS.readBinFile path).toList
  catch _ =>
    return none

/-- The user's settings file, or else the machine's. -/
def readSettingsFile : IO (Option Bytes) := do
  if let some home ← IO.getEnv "HOME" then
    if let some bytes ← readFile? (home ++ "/.config/pneuma/config.toml") then
      return some bytes
  readFile? "/etc/pneuma/config.toml"

def readEnvironment : IO Environment := do
  let vars ← Environment.names.mapM fun name => do return (name, ← IO.getEnv name)
  return fun name => (vars.lookup name).join

end DebateMesh

open DebateMesh

def main (args : List String) : IO UInt32 := do
  if args.any fun a => a == "--version" || a == "-V" then
    IO.println version
    return 0
  let fresh := nodeIdOf (← IO.getRandomBytes 16).toList
  match Settings.load (← readSettingsFile) (← readEnvironment) fresh with
  | .error f =>
    IO.eprintln ("loading configuration: " ++ f.message)
    return 1
  | .ok s =>
    IO.eprintln (s.nodeId ++ " is set up with a key of " ++ toString s.envelope.keyBits ++ " bits")
    return 0

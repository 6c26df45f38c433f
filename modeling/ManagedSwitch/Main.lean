import ManagedSwitch.Tool.Exporting
import ManagedSwitch.Tool.Preview
import ManagedSwitch.Tool.Provisioning
import ManagedSwitch.Tool.Rollout
import Std.Time.Format

/-!
# The command line

The first word chooses a tool, and the words behind it are its command line.  Files, the clock and
the environment are those of the machine; no host can be reached from here, so that requests to
switches fail as they do without a network.  The exporting tool answers requests that it reads from
its standard input, a method and an address on each line.
-/

namespace ManagedSwitch
namespace Outside

section Machine

def openFile (path : String) : IO File.Found := do
  if path.toList.contains '\x00' then
    return .notName
  try
    return .content (← IO.FS.readBinFile path).toList
  catch
    | .noFileOrDirectory .. => return .refused 2 "No such file or directory"
    | .permissionDenied .. => return .refused 13 "Permission denied"
    | .inappropriateType .. => return .refused 21 "Is a directory"
    | _ => return .refused 5 "Input/output error"

/-- The only file that a tool opens, opened before it runs. -/
def filesWith (path : String) : IO Tool.Files := do
  let found ← openFile (File.normalPath path)
  return fun _ => found

/-- The variables of the environment that the tools look at. -/
def environment : IO (Table String String) := do
  let mut found := Table.empty
  for key in ["VLANS_YAML", "XIKE_SWITCH", "XIKE_VLAN", "XIKE_TIMEOUT", "APPLY", "SAVE"] do
    if let some value ← IO.getEnv key then
      found := found.put key value
  return found

def clock : IO Float := do
  return Float.ofNat (← IO.monoMsNow) / 1000

def stamp : IO String := do
  let now ← Std.Time.PlainDateTime.now
  return now.format "uuuu-MM-dd'T'HH:mm:ss"

def world : IO (World Float) := do
  return ⟨← clock, Table.empty, []⟩

def publish (shown : Record → Option String) (journal : List (Event Float)) : IO Unit := do
  for line in printedLines journal do
    IO.println line
  for line in operatorLines shown journal do
    IO.eprintln line

end Machine

section Tools

open CommandLine

/-- Ends a tool whose command line is refused. -/
def refuse {α : Type} (name about : String) (settings : List (Setting α)) : Stop → IO UInt32
  | .help => do
    for line in Tool.help name about settings do
      IO.println line
    return 0
  | .fault fault => do
    IO.eprintln (Tool.faultLine name fault)
    return 2

def execute (shown : Record → Option String) (program : Tool.Program Bool) : IO UInt32 := do
  let (result, w) := program.run (← world)
  publish shown w.journal
  match result with
  | .ok success => return if success then 0 else 1
  | .error _ =>
    IO.eprintln "The program broke off."
    return 1

partial def serve (shown : Record → Option String) (source : Source Float Empty (Run Float))
    (cache : Cache Float String) (w : World Float) : IO Unit := do
  let line ← (← IO.getStdin).getLine
  if !line.isEmpty then
    match (line.trimAscii.toString).splitOn " " with
    | [method, address] =>
      let ((reply, cache), w) :=
        (source.answer method address).run cache { w with clock := ← clock, journal := [] }
      publish shown w.journal
      IO.println (Number.natText reply.status ++ " " ++ reply.body.getD "")
      serve shown source cache w
    | _ => serve shown source cache w

def provision (words : List String) : IO UInt32 := do
  match Tool.Provisioning.ofWords words with
  | .error stop =>
    refuse Tool.Provisioning.name Tool.Provisioning.about Tool.Provisioning.settings stop
  | .ok options =>
    execute (Record.stamped (← stamp) options.level) (options.run (← filesWith options.file))

def exportStats (words : List String) : IO UInt32 := do
  match Tool.Exporting.ofWords (← environment) words with
  | .error stop => refuse Tool.Exporting.name Tool.Exporting.about Tool.Exporting.settings stop
  | .ok options =>
    let shown := Record.stamped (← stamp) options.level
    let (result, w) := (options.start (← filesWith options.file)).run (← world)
    publish shown w.journal
    match result with
    | .ok (some source) =>
      serve shown source (Cache.empty options.span) w
      return 0
    | _ => return 1

end Tools

end Outside
end ManagedSwitch

def main (words : List String) : IO UInt32 := do
  let environment ← ManagedSwitch.Outside.environment
  let path := ManagedSwitch.Tool.configPath environment
  match words with
  | "vlan" :: words => ManagedSwitch.Outside.provision words
  | "stats" :: words => ManagedSwitch.Outside.exportStats words
  | ["preview"] =>
    ManagedSwitch.Outside.execute ManagedSwitch.Record.bare
      (ManagedSwitch.Tool.preview environment (← ManagedSwitch.Outside.filesWith path))
  | ["rollout"] =>
    ManagedSwitch.Outside.execute
      (ManagedSwitch.Record.stamped (← ManagedSwitch.Outside.stamp) .info)
      (ManagedSwitch.Tool.Rollout.run environment (← ManagedSwitch.Outside.filesWith path))
  | _ =>
    IO.eprintln "usage: managed-switch vlan|stats|preview|rollout [options]"
    return 2

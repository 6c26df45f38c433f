import ManagedSwitch.Tool.Program
import ManagedSwitch.Vlan.Listing
import ManagedSwitch.Vlan.View

/-!
# The provisioning tool

The provisioning tool shows the VLAN memberships that a configuration describes, lists the requests
that would bring them about, or sends these requests.
-/

namespace ManagedSwitch
namespace Tool

/-- The options of the provisioning tool. -/
structure Provisioning where
  file : String
  http : Bool
  switches : List String
  vlans : List String
  execute : Bool
  verbose : Bool
  save : Bool
  timeout : Float
  level : Level

namespace Provisioning

section Options

open CommandLine

def name : String := "xike-vlan"

def about : String := "Transform vlans.yaml into switch port configuration."

def usual : Provisioning :=
  ⟨"vlans.yaml", false, [], [], false, false, false, 10, .warning⟩

def settings : List (Setting Provisioning) :=
  [.help,
    .text ["-f", "--file"] "path to vlans.yaml file" fun v o => { o with file := v },
    .flag ["--http"] "output HTTP POST requests instead of JSON" fun o => { o with http := true },
    .text ["-s", "--switch"] "filter by switch name (can be specified multiple times)"
      fun v o => { o with switches := o.switches ++ [v] },
    .text ["-v", "--vlan"] "filter by VLAN ID or name (can be specified multiple times)"
      fun v o => { o with vlans := o.vlans ++ [v] },
    .flag ["-x", "--execute"] "execute HTTP POST requests to the switches (requires --http)"
      fun o => { o with execute := true },
    .flag ["--verbose"] "show detailed request/response information when executing"
      fun o => { o with verbose := true },
    .flag ["--save"] "save configuration after applying changes (requires --execute)"
      fun o => { o with save := true },
    .decimal ["--timeout"] "per-request timeout in seconds (default: 10)"
      fun v o => { o with timeout := v },
    levelSetting fun v o => { o with level := v }]

def ofWords (words : List String) : Except Stop Provisioning :=
  interpret settings usual words

end Options

section Running

/-- Shows, lists or sends what a narrowed configuration asks for. -/
def process
    (o : Provisioning)
    (config : Config) :
    Program Bool := do
  if !o.http then
    remarkAll config.viewRecords
    say (viewText config.view)
    return true
  else if !o.execute then
    let compiled ← compile config
    say (listing compiled.batches)
    return true
  else
    let application ← apply config ⟨o.timeout, none, o.save, o.verbose⟩
    return application.ok

def giveUp (message : String) : Program Bool := do
  complain ("Error: " ++ message)
  return false

def run
    (o : Provisioning)
    (files : Files) :
    Program Bool := do
  match checkModes o.http o.execute o.save with
  | .error e => giveUp e.message
  | .ok () =>
    match ← load files o.file with
    | .error message => giveUp message
    | .ok config => process o (← narrow config o.switches o.vlans)

end Running

end Provisioning
end Tool
end ManagedSwitch

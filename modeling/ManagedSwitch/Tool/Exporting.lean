import ManagedSwitch.Stats.Exporter
import ManagedSwitch.Tool.Program

/-!
# The exporting tool

The exporting tool loads a configuration and serves the statistics of its switches.  The path of the
configuration can be given on the command line or in the environment.
-/

namespace ManagedSwitch
namespace Tool

/-- The options of the exporting tool. -/
structure Exporting where
  file : String
  address : String
  port : Int
  span : Float
  timeout : Float
  level : Level

namespace Exporting

section Options

open CommandLine

def name : String := "xike-stats"

def about : String := "Serve per-port switch statistics as metric lines on /metrics."

/-- The variable of the environment that has the path of the configuration. -/
def pathVariable : String := "VLANS_YAML"

def usual (environment : Table String String) : Exporting :=
  ⟨(environment.get? pathVariable).getD "/config/vlans.yaml", "0.0.0.0", 9100, 10, 10, .info⟩

def settings : List (Setting Exporting) :=
  [.help,
    .text ["--config"] "path to vlans.yaml (default: $VLANS_YAML or /config/vlans.yaml)"
      fun v o => { o with file := v },
    .text ["--listen"] "address to bind (default: 0.0.0.0)" fun v o => { o with address := v },
    .integer ["--port"] "port to bind (default: 9100)" fun v o => { o with port := v },
    .decimal ["--cache-ttl"] "seconds to reuse a scrape result (default: 10)"
      fun v o => { o with span := v },
    .decimal ["--timeout"] "per-switch request timeout in seconds (default: 10)"
      fun v o => { o with timeout := v },
    levelSetting fun v o => { o with level := v }]

def ofWords
    (environment : Table String String)
    (words : List String) :
    Except Stop Exporting :=
  interpret settings (usual environment) words

end Options

section Running

/-- The record of a server that begins its work. -/
def servingRecord
    (o : Exporting)
    (config : Config) :
    Record :=
  ⟨.info, .tool, "Serving metrics for " ++ Number.natText config.switches.size ++
    " switch(es) on " ++ o.address ++ ":" ++ Number.text o.port⟩

/-- Loads the configuration and gives the source of the metrics to be served, if there is one. -/
def start
    (o : Exporting)
    (files : Files) :
    Program (Option (Source Float Empty (Run Float))) := do
  match ← load files o.file with
  | .error message =>
    remark ⟨.error, .tool, message⟩
    return none
  | .ok config =>
    remark (servingRecord o config)
    return some (Source.ofSwitches o.timeout config.switches.values)

end Running

end Exporting
end Tool
end ManagedSwitch

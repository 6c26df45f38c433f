import ManagedSwitch.Config.Reading
import ManagedSwitch.File
import ManagedSwitch.Yaml.Stream

/-!
# Configurations from files

A file is opened, decoded and read; the first step that fails decides.  Most failures are reported
as errors of the configuration; `LoadError.message?` tells which ones, and how.
-/

namespace ManagedSwitch
namespace Config

section Errors

/-- Why a file gives no configuration. -/
inductive LoadError
  /-- The path cannot name a file. -/
  | notName
  /-- The file cannot be read. -/
  | unreadable (path reason : String)
  /-- The file is not text. -/
  | notText
  /-- The text is not a stream. -/
  | faulty (path : String) (fault : Yaml.Fault)
  /-- The document is no configuration. -/
  | refused (refusal : Refusal)
deriving DecidableEq

/-- The message of a failure that is an error of the configuration. -/
def LoadError.message? : LoadError → Option String
  | .unreadable path reason => some ("Cannot read " ++ path ++ ": " ++ reason)
  | .faulty path .malformed => some ("Invalid YAML in " ++ path)
  | .refused (.problem p) => some p.message
  | _ => none

end Errors

section Loading

/-- The document in a file that has been opened. -/
def fileDocument
    (path : String) :
    File.Found → Except LoadError Document
  | .notName => .error .notName
  | .refused code reason => .error (.unreadable path (File.refusalText code reason path))
  | .content bytes =>
    match Yaml.document bytes with
    | .error .notText => .error .notText
    | .error (.faulty fault) => .error (.faulty path fault)
    | .ok d => .ok d

/-- The record of a configuration that has been loaded. -/
def loadedRecord
    (path : String)
    (config : Config) :
    Record :=
  ⟨.info, .config, "Loaded " ++ path ++ ": " ++ Number.natText config.vlans.size ++ " VLAN(s), " ++
    Number.natText config.templates.size ++ " template(s), " ++
    Number.natText config.switches.size ++ " switch(es)"⟩

/-- What loading gives: a configuration or the reason why there is none, and the records made on
the way. -/
structure Loaded where
  result : Except LoadError Config
  records : List Record

/-- Loads the configuration in a file that has been opened; `path` is in its shortest spelling. -/
def load
    (path : String)
    (found : File.Found) :
    Loaded :=
  match fileDocument path found with
  | .error e => ⟨.error e, []⟩
  | .ok d =>
    match read d with
    | .error refusal => ⟨.error (.refused refusal), remarks d⟩
    | .ok config => ⟨.ok config, remarks d ++ [loadedRecord path config]⟩

end Loading

end Config
end ManagedSwitch

import ManagedSwitch.CommandLine.Reading
import ManagedSwitch.Config.Loading
import ManagedSwitch.Config.Selection
import ManagedSwitch.Provision.Application
import ManagedSwitch.Text.UpperCase

/-!
# Programs

A program runs in the world, opens files and ends with success or without.  Some inputs make it
break off; the reason is then a crash.
-/

namespace ManagedSwitch
namespace Tool

section Programs

/-- Why a program breaks off. -/
inductive Crash
  | load (error : Config.LoadError)
  /-- A selector is a number with too many digits. -/
  | longSelector
  /-- A timeout is no number. -/
  | badTimeout
  | execution (error : ExecutionError)

/-- A computation of a program. -/
abbrev Program := ExceptT Crash (Run Float)

/-- The files that a program can open. -/
abbrev Files := String → File.Found

end Programs

section Actions

def say (line : String) : Program Unit :=
  ExceptT.lift (ManagedSwitch.say line)

def complain (line : String) : Program Unit :=
  ExceptT.lift (ManagedSwitch.complain line)

def remark (r : Record) : Program Unit :=
  ExceptT.lift (ManagedSwitch.remark r)

def remarkAll (rs : List Record) : Program Unit :=
  ExceptT.lift (ManagedSwitch.remarkAll rs)

end Actions

section Configurations

/-- Loads the configuration in a file; an error of the configuration is given as its message. -/
def load
    (files : Files)
    (path : String) :
    Program (Except String Config) := do
  let path := File.normalPath path
  let loaded := Config.load path (files path)
  remarkAll loaded.records
  match loaded.result with
  | .ok config => return .ok config
  | .error e =>
    match e.message? with
    | some message => return .error message
    | none => throw (.load e)

def narrow
    (config : Config)
    (switches vlans : List String) :
    Program Config := do
  match config.select? switches vlans with
  | none => throw .longSelector
  | some kept =>
    remarkAll (Config.selectionRecords switches vlans kept)
    return kept

/-- Compiles a configuration without credentials. -/
def compile (config : Config) : Program Compiled := do
  remarkAll config.compileRecords
  return config.compile Table.empty

/-- Applies a configuration. -/
def apply
    (config : Config)
    (options : ApplyOptions Float) :
    Program Application := do
  match ← config.apply options with
  | .ok application => return application
  | .error e => throw (.execution e)

end Configurations

section Settings

open CommandLine

/-- The setting of the level from which on records are shown. -/
def levelSetting
    {α : Type}
    (set : Level → α → α) :
    Setting α :=
  .choice (Level.all.map fun l => (l.text, l)) Text.upper ["--log-level"]
    "least important level of records to show" set

def help
    {α : Type}
    (program about : String)
    (settings : List (Setting α)) :
    List String :=
  ["usage: " ++ program ++ " [options]", "", about, "", "options:"] ++
    settings.map fun s => "  " ++ ", ".intercalate s.spellings ++ "  " ++ s.about

/-- The line about a fault of a command line. -/
def faultLine
    (program : String)
    (fault : Fault) :
    String :=
  program ++ ": error: " ++ fault.message

end Settings

end Tool
end ManagedSwitch

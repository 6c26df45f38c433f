import ManagedSwitch.Tool.Program

/-!
# Programs that take everything from the environment

Variables of the environment name the configuration and say what is selected and what is asked for.
-/

namespace ManagedSwitch
namespace Tool

section Environment

/-- The value of a variable, or what stands for it. -/
def variableOr
    (environment : Table String String)
    (variableName usual : String) :
    String :=
  (environment.get? variableName).getD usual

def configPath (environment : Table String String) : String :=
  variableOr environment "VLANS_YAML" "examples/vlans.yaml"

/-- The selector in a variable; an empty one selects everything. -/
def selector
    (environment : Table String String)
    (variableName : String) :
    List String :=
  match variableOr environment variableName "" with
  | "" => []
  | s => [s]

/-- Whether a variable has the value that stands for yes. -/
def isSet
    (environment : Table String String)
    (variableName : String) :
    Bool :=
  variableOr environment variableName "0" == "1"

/-- Ends with a message about the configuration. -/
def abandon (message : String) : Program Bool := do
  complain ("ERROR: " ++ message)
  return false

end Environment

end Tool
end ManagedSwitch

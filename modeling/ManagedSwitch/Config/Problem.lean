import ManagedSwitch.Number.Integer
import ManagedSwitch.Config.Basic

/-!
# Problems of configurations

A problem says what is wrong and at which place of the document.  A few documents cannot even be
complained about: they have a number that is too long to be written, or a collection where a word
is compared.
-/

namespace ManagedSwitch
namespace Config

section Places

/-- A place in the document of a configuration. -/
inductive Place
  | root
  | vlans
  | templates
  | switches
  | template (name : String)
  | switch (key : String)
  | auth (key : String)
  | port (key : String) (index : Nat)
deriving DecidableEq

def Place.text : Place → String
  | .root => "config"
  | .vlans => "vlans"
  | .templates => "templates"
  | .switches => "switches"
  | .template name => "templates." ++ name
  | .switch key => "switches." ++ key
  | .auth key => "switches." ++ key ++ ".auth"
  | .port key index => "switches." ++ key ++ ".ports[" ++ Number.natText index ++ "]"

end Places

section Problems

/-- What is wrong with a configuration; `shown` is the quoted text of the value at fault. -/
inductive Problem
  | notMapping (place : Place)
  | missingField (place : Place) (field : String)
  | fieldNotText (place : Place) (field : String)
  | badKey (place : Place) (shown : String)
  | idNotNumber (place : Place) (shown : String)
  | idNotPositive (place : Place) (id : Int)
  | duplicateId (id : Int)
  | nameNotText (id : Int)
  | badStatus (place : Place) (id : Int) (shown : String)
  | badAuthType (place : Place) (type : String)
  | portsNotList (place : Place)
deriving DecidableEq

def Problem.message : Problem → String
  | .notMapping place => place.text ++ ": expected a mapping."
  | .missingField place field =>
    place.text ++ ": missing required field '" ++ field ++ "'."
  | .fieldNotText place field => place.text ++ ": field '" ++ field ++ "' must be a string."
  | .badKey place shown => place.text ++ ": invalid key " ++ shown ++ "."
  | .idNotNumber place shown => place.text ++ ": VLAN ID must be a number, got " ++ shown ++ "."
  | .idNotPositive place id =>
    place.text ++ ": VLAN ID must be positive, got " ++ Number.text id ++ "."
  | .duplicateId id => "vlans: duplicate VLAN ID " ++ Number.text id ++ "."
  | .nameNotText id => "vlans." ++ Number.text id ++ ": name must be a string."
  | .badStatus place id shown =>
    place.text ++ "." ++ Number.text id ++ ": invalid status " ++ shown ++
      ". Allowed: pvid, tagged."
  | .badAuthType place type =>
    place.text ++ ": invalid type '" ++ type ++ "'. Allowed: " ++ supportedAuth ++ "."
  | .portsNotList place => place.text ++ ": 'ports' must be a list."

/-- Why a document gives no configuration. -/
inductive Refusal
  /-- The document breaks a rule. -/
  | problem (problem : Problem)
  /-- A number with too many digits would have to be written. -/
  | longNumber
  /-- A collection stands where a word is compared. -/
  | incomparable
deriving DecidableEq

end Problems

end Config
end ManagedSwitch

import ManagedSwitch.Tool.Environment
import ManagedSwitch.Vlan.Listing

/-!
# Preview

The preview lists the requests for the switches of a configuration, or for one of them, and warns of
ports without a template.
-/

namespace ManagedSwitch
namespace Tool

def preview
    (environment : Table String String)
    (files : Files) :
    Program Bool := do
  match ← load files (configPath environment) with
  | .error message => abandon message
  | .ok config =>
    let compiled ← compile (← narrow config (selector environment "XIKE_SWITCH") [])
    for u in compiled.unresolved do
      complain ("WARNING: " ++ u.message)
    say (listing compiled.batches)
    return true

end Tool
end ManagedSwitch

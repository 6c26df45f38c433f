import ManagedSwitch.Vlan.Command

/-!
# Listings of requests

A listing shows the requests of every batch as they would be sent, with numbers and separators
between them.
-/

namespace ManagedSwitch

section Lines

def Command.listing (c : Command × Nat) : List String :=
  ["## Request " ++ Number.natText c.2, c.1.request.listingText, "---", ""]

def Batch.listing (b : Batch) : List String :=
  ["# Switch: " ++ b.switchKey ++ " (" ++ b.address ++ ")",
    "# " ++ Number.natText b.commands.length ++
      " configuration requests (VLAN membership + PVID)", ""] ++
    (b.commands.zipIdx 1).flatMap Command.listing

def listing (batches : List Batch) : String :=
  "\n".intercalate (batches.flatMap Batch.listing)

end Lines

end ManagedSwitch

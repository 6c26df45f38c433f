import ManagedSwitch.Http.Request
import ManagedSwitch.Number.Integer
import ManagedSwitch.Text.Percent

/-!
# Forms of the firmware

The firmware takes its settings from forms that are posted to fixed targets.  The names of VLANs are
percent-encoded; the position of a code among the codes is the number of the port it is for.
-/

namespace ManagedSwitch
namespace Form

section Bodies

/-- Fields joined by ampersands. -/
def join (fields : List String) : String :=
  "&".intercalate fields

def portField (code : String × Nat) : String :=
  "vlanPort_" ++ Number.natText code.2 ++ "=" ++ code.1

/-- The form that sets the name of a VLAN and the membership of every port. -/
def membership
    (id : Int)
    (name : String)
    (codes : List String) :
    String :=
  join (("vid=" ++ Number.text id) :: ("name=" ++ Text.percentEncode name) ::
    codes.zipIdx.map portField)

/-- The form that sets the VLAN of untagged frames of a port, which goes on accepting all frames. -/
def untagged (port id : Int) : String :=
  join ["ports=" ++ Number.text port, "pvid=" ++ Number.text id, "vlan_accept_frame_type=0"]

end Bodies

section Requests

def userAgent : String := "xike-switch/0.1.0"

/-- The headers of a form, in the order that the firmware is used to. -/
def headers (address cookie body : String) : List (String × String) := [
  ("Host", address),
  ("User-Agent", userAgent),
  ("Accept", "*/*"),
  ("Cookie", cookie),
  ("Content-Length", Number.natText (Text.Utf8.size body)),
  ("Content-Type", "application/x-www-form-urlencoded")]

def post (path address cookie body : String) : Request :=
  ⟨"POST", path, headers address cookie body, body⟩

end Requests

end Form
end ManagedSwitch

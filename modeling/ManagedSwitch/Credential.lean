import ManagedSwitch.Config.Basic
import ManagedSwitch.Text.Quoted

/-!
# Credentials

A switch lets requests in that carry a fixed cookie: the user's name and the stored response.
-/

namespace ManagedSwitch

section Cookies

/-- Why there is no cookie for a switch. -/
inductive AuthFailure
  | missing (switchKey : String)
  | unsupported (type switchKey : String)
deriving DecidableEq

def AuthFailure.message : AuthFailure → String
  | .missing key => "No auth config found for " ++ key
  | .unsupported type key => "Unsupported auth type " ++ Text.quote type ++ " for " ++ key

/-- The cookie of a switch. -/
def Switch.cookie (s : Switch) : Except AuthFailure String :=
  match s.auth with
  | none => .error (.missing s.key)
  | some auth =>
    if auth.type = supportedAuth then
      .ok (auth.user ++ "=" ++ auth.response)
    else
      .error (.unsupported auth.type s.key)

/-- Cookies by the keys of switches. -/
abbrev Credentials := Table String String

end Cookies

end ManagedSwitch

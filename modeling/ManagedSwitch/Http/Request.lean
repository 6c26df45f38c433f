import ManagedSwitch.Text.Utf8

/-!
# Requests

A request has a method, a target, headers in order and a body.  On the wire every line of the head
ends in carriage return and line feed, and an empty line separates the head from the body.
-/

namespace ManagedSwitch

/-- A request. -/
structure Request where
  method : String
  path : String
  headers : List (String × String)
  body : String
deriving DecidableEq

namespace Request

section Lines

def firstLine (r : Request) : String :=
  r.method ++ " " ++ r.path ++ " HTTP/1.1"

def headerLine (h : String × String) : String :=
  h.1 ++ ": " ++ h.2

def headLines (r : Request) : List String :=
  r.firstLine :: r.headers.map headerLine

end Lines

section Texts

def wireText (r : Request) : String :=
  "\r\n".intercalate r.headLines ++ "\r\n\r\n" ++ r.body

def bytes (r : Request) : Bytes :=
  Text.Utf8.encode r.wireText

/-- The text for readers, with line feeds and one more at the end. -/
def listingText (r : Request) : String :=
  "\n".intercalate (r.headLines ++ ["", r.body]) ++ "\n"

end Texts

end Request
end ManagedSwitch

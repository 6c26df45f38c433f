import ManagedSwitch.Journal
import ManagedSwitch.Text.Percent
import ManagedSwitch.Text.Split

/-!
# The two pages of the exporter

The exporter answers under two paths, one for the metrics and one that tells that it is alive.  A
page can be fetched with its body or asked for its head only; every other method is refused there,
and every other path is unknown.
-/

namespace ManagedSwitch
namespace Web

section Types

/-- An answer to a browser; the kind and the body are shown where they are fixed. -/
structure Answer where
  status : Nat
  kind : Option String
  body : Option String
deriving DecidableEq

/-- What a request asks for. -/
inductive Route
  | metrics
  | health
  | refused
  | unknown
deriving DecidableEq

end Types

section Paths

def isSchemeChar (c : Char) : Bool :=
  c.isAlphanum || c == '+' || c == '-' || c == '.'

def withoutScheme (cs : List Char) : List Char :=
  match Text.cutAt ':' cs with
  | some (c :: scheme, rest) => if c.isAlpha && scheme.all isSchemeChar then rest else cs
  | _ => cs

def withoutHost : List Char → List Char
  | '/' :: '/' :: rest => rest.dropWhile fun c => c != '/' && c != '?' && c != '#'
  | cs => cs

/-- The decoded path of an address, with one slash in front unless it is empty. -/
def pathOf (address : String) : String :=
  let cs := withoutHost (withoutScheme address.toList)
  let path := cs.takeWhile fun c => c != '?' && c != '#'
  let decoded := Text.percentDecode (String.ofList path)
  if decoded.isEmpty then "" else String.ofList ('/' :: decoded.toList.dropWhile (· == '/'))

def route (method address : String) : Route :=
  let page :=
    match pathOf address with
    | "/metrics" => Route.metrics
    | "/health" => Route.health
    | _ => Route.unknown
  if page = .unknown || method = "GET" || method = "HEAD" then page else .refused

end Paths

section Answers

def plainKind : String := "text/plain; charset=utf-8"

/-- A plain text; its body is left out where only the head is asked for. -/
def plain
    (method : String)
    (status : Nat)
    (body : String) :
    Answer :=
  ⟨status, some plainKind, some (if method = "HEAD" then "" else body)⟩

/-- The answer when the metrics cannot be loaded. -/
def failed : Answer :=
  ⟨500, some "text/html; charset=utf-8", none⟩

/-- The record about metrics that could not be loaded. -/
def failedRecord (method : String) : Record :=
  ⟨.error, .stats, "Exception on /metrics [" ++ method ++ "]"⟩

/-- The answer to a request, where `metrics` gives the text of the metrics and `report` makes a
record. -/
def answer
    {m : Type → Type}
    [Monad m]
    {ε : Type}
    (metrics : m (Except ε String))
    (report : Record → m Unit)
    (method address : String) :
    m Answer := do
  match route method address with
  | .unknown => return plain method 404 "not found\n"
  | .refused => return ⟨405, none, none⟩
  | .health => return plain method 200 "ok\n"
  | .metrics =>
    match ← metrics with
    | .ok text => return plain method 200 text
    | .error _ =>
      report (failedRecord method)
      return failed

end Answers

end Web
end ManagedSwitch

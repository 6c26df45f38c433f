import ManagedSwitch.Config.Problem
import ManagedSwitch.Document.Basic
import ManagedSwitch.Journal

/-!
# Configurations from documents

`Config.read` takes a decoded document apart, from the VLANs over the templates to the switches, and
stops at the first problem.  Identifiers may be written as numbers or as texts; keys and fields that
are numbers are taken by their text.  `Config.remarks` has the warnings that reading the same
document gives.
-/

namespace ManagedSwitch
namespace Config

section Parts

/-- The entries of a mapping in order. -/
abbrev Entries := List (Document × Document)

def refuse {α : Type} (p : Problem) : Except Refusal α :=
  .error (.problem p)

/-- The text of a value, which exists unless a number is too long. -/
def written (text : Option String) : Except Refusal String :=
  match text with
  | some s => .ok s
  | none => .error .longNumber

/-- The entries of a value that has to be a mapping. -/
def mapping
    (place : Place) :
    Option Document → Except Refusal Entries
  | some (.map entries) => .ok entries
  | _ => refuse (.notMapping place)

/-- The text of a field that has to be there. -/
def field
    (place : Place)
    (entries : Entries)
    (name : String) :
    Except Refusal String :=
  match Document.field? entries name with
  | none | some .null => refuse (.missingField place name)
  | some (.text s) => .ok s
  | some (.int i) => written (Number.text? i)
  | some (.float x) => written (Document.float x).text?
  | some _ => refuse (.fieldNotText place name)

def keyText
    (place : Place) :
    Document → Except Refusal String
  | .text s => .ok s
  | .int i => written (Number.text? i)
  | d => do
    let shown ← written d.quoted?
    refuse (.badKey place shown)

/-- The number of a key that identifies a VLAN. -/
def vlanId
    (place : Place)
    (key : Document) :
    Except Refusal Int := do
  let number :=
    match key with
    | .bool _ => none
    | d => d.text?.bind fun s => Number.read? (Text.strip s)
  match number with
  | none =>
    let shown ← written key.quoted?
    refuse (.idNotNumber place shown)
  | some id => if id ≤ 0 then refuse (.idNotPositive place id) else return id

end Parts

section Vlans

def vlanName (id : Int) : Document → Except Refusal String
  | .null | .map _ | .list _ | .bool _ => refuse (.nameNotText id)
  | d => written d.text?

/-- Adds VLANs to those that are known. -/
def readVlans
    (known : Table Int String) :
    Entries → Except Refusal (Table Int String)
  | [] => .ok known
  | (key, value) :: rest => do
    let id ← vlanId .vlans key
    if known.contains id then
      refuse (.duplicateId id)
    else
      let name ← vlanName id value
      readVlans (known.put id name) rest

end Vlans

section Templates

/-- The word that marks a VLAN in a template. -/
def statusWord
    (place : Place)
    (id : Int)
    (value : Document) :
    Except Refusal String :=
  let other : Except Refusal String := do
    let shown ← written value.quoted?
    refuse (.badStatus place id shown)
  match value with
  | .text s => if s = "pvid" || s = "tagged" then .ok s else other
  | .set _ => other
  | d => if d.isKey then other else .error .incomparable

/-- Adds marks to a template. -/
def readMarks
    (place : Place)
    (known : Template) :
    Entries → Except Refusal Template
  | [] => .ok known
  | (key, value) :: rest => do
    let id ← vlanId place key
    let word ← statusWord place id value
    readMarks place (known.put id word) rest

def readTemplate (key value : Document) : Except Refusal (String × Template) := do
  let name ← keyText .templates key
  let entries ← mapping (.template name) (some value)
  let template ← readMarks (.template name) Table.empty entries
  return (name, template)

def readTemplates
    (known : Table String Template) :
    Entries → Except Refusal (Table String Template)
  | [] => .ok known
  | (key, value) :: rest => do
    let (name, template) ← readTemplate key value
    readTemplates (known.put name template) rest

end Templates

section Switches

/-- The ports of a switch, from a position on. -/
def readPorts
    (key : String)
    (index : Nat) :
    List Document → Except Refusal (List Port)
  | [] => .ok []
  | item :: rest => do
    let place := Place.port key index
    let entries ← mapping place (some item)
    let name ← field place entries "name"
    let template ← field place entries "template"
    let ports ← readPorts key (index + 1) rest
    return ⟨name, template⟩ :: ports

def readAuth
    (key : String)
    (value : Document) :
    Except Refusal Auth := do
  let place := Place.auth key
  let entries ← mapping place (some value)
  let type ← field place entries "type"
  if type = supportedAuth then
    let user ← field place entries "user"
    let password ← field place entries "pass"
    let response ← field place entries "resp"
    return ⟨type, user, password, response⟩
  else
    refuse (.badAuthType place type)

/-- The authentication of a switch that may have none. -/
def readAuth?
    (key : String)
    (value : Option Document) :
    Except Refusal (Option Auth) :=
  match value with
  | none => .ok none
  | some d => (readAuth key d).map some

def readSwitch
    (key : String)
    (value : Document) :
    Except Refusal Switch := do
  let place := Place.switch key
  let entries ← mapping place (some value)
  let items ←
    match Document.field? entries "ports" with
    | some (.list items) => pure items
    | _ => refuse (.portsNotList place)
  let ports ← readPorts key 0 items
  let name ← field place entries "name"
  let address ← field place entries "address"
  let auth ← readAuth? key (Document.field? entries "auth")
  return ⟨key, name, address, auth, ports⟩

def readSwitches
    (known : Table String Switch) :
    Entries → Except Refusal (Table String Switch)
  | [] => .ok known
  | (key, value) :: rest => do
    let name ← keyText .switches key
    let switch ← readSwitch name value
    readSwitches (known.put name switch) rest

end Switches

section Whole

/-- The configuration that a document describes. -/
def read (d : Document) : Except Refusal Config := do
  let root ← mapping .root (some d)
  let vlans ← mapping .vlans (Document.field? root "vlans")
  let vlans ← readVlans Table.empty vlans
  let templates ← mapping .templates (Document.field? root "templates")
  let templates ← readTemplates Table.empty templates
  let switches ← mapping .switches (Document.field? root "switches")
  let switches ← readSwitches Table.empty switches
  return ⟨vlans, templates, switches⟩

end Whole

section Remarks

/-- Integers between square brackets. -/
def listText (ids : List Int) : String :=
  "[" ++ ", ".intercalate (ids.map Number.text) ++ "]"

/-- The VLANs that a template marks as the VLAN of untagged frames. -/
def untagged (template : Template) : List Int :=
  (template.entries.filter fun e => e.2 = "pvid").map Prod.fst

/-- The warning about a template that marks several VLANs as the VLAN of untagged frames. -/
def templateRemarks
    (name : String)
    (template : Template) :
    List Record :=
  let ids := untagged template
  if 1 < ids.length then
    [⟨.warning, .config, (Place.template name).text ++ " marks VLANs " ++ listText ids ++
      " as pvid; only one will be applied per port"⟩]
  else
    []

/-- The warnings about templates, up to the first one that cannot be read. -/
def templatesRemarks : Entries → List Record
  | [] => []
  | (key, value) :: rest =>
    match readTemplate key value with
    | .error _ => []
    | .ok (name, template) => templateRemarks name template ++ templatesRemarks rest

def remarks (d : Document) : List Record :=
  let entries : Except Refusal Entries := do
    let root ← mapping .root (some d)
    let vlans ← mapping .vlans (Document.field? root "vlans")
    let _ ← readVlans Table.empty vlans
    mapping .templates (Document.field? root "templates")
  match entries with
  | .error _ => []
  | .ok entries => templatesRemarks entries

end Remarks

end Config
end ManagedSwitch

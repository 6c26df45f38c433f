import ManagedSwitch.Proofs.Config.Outcome
import ManagedSwitch.Proofs.Table

/-!
# The grammar of configurations

A document describes a configuration as `Describes` says, without any reading order: `Names`,
`Identifies`, `Titles` and `Marks` are about single scalars, the others put them together along the
mappings and lists of the document.  `read_eq_ok_iff` is the agreement with the reader: it gives a
configuration exactly for the documents that describe it.
-/

namespace ManagedSwitch

namespace Document

section Kinds

/-- A text or an integer, the kinds of keys that name something. -/
def isWord : Document → Bool
  | .text _ | .int _ => true
  | _ => false

/-- A text or a number, the kinds of values that fields have. -/
def isScalar : Document → Bool
  | .text _ | .int _ | .float _ => true
  | _ => false

/-- A truth value. -/
def isBool : Document → Bool
  | .bool _ => true
  | _ => false

/-- A value that can be the name of a VLAN. -/
def isTitle : Document → Bool
  | .null | .bool _ | .map _ | .list _ => false
  | _ => true

end Kinds

end Document

namespace Config

section Scalars

/-- The key gives the name. -/
def Names
    (key : Document)
    (name : String) :
    Prop :=
  key.isWord ∧ key.text? = some name

/-- The key gives the number of a VLAN. -/
def Identifies
    (key : Document)
    (id : Int) :
    Prop :=
  key.isBool = false ∧ (∃ s, key.text? = some s ∧ Number.read? (Text.strip s) = some id) ∧ 0 < id

/-- The value gives the name of a VLAN. -/
def Titles
    (value : Document)
    (name : String) :
    Prop :=
  value.isTitle ∧ value.text? = some name

/-- The value gives the word that marks a VLAN. -/
def Marks
    (value : Document)
    (word : String) :
    Prop :=
  value = .text word ∧ (word = "pvid" ∨ word = "tagged")

/-- The field is there and has the text. -/
def HasField
    (entries : Entries)
    (name s : String) :
    Prop :=
  ∃ d, Document.field? entries name = some d ∧ d.isScalar ∧ d.text? = some s

end Scalars

section Structures

/-- An entry of the VLANs gives a number and a name. -/
def IsVlan
    (e : Document × Document)
    (v : Int × String) :
    Prop :=
  Identifies e.1 v.1 ∧ Titles e.2 v.2

/-- An entry of a template gives a number and a mark. -/
def IsMark
    (e : Document × Document)
    (m : Int × String) :
    Prop :=
  Identifies e.1 m.1 ∧ Marks e.2 m.2

/-- The value gives a template. -/
def IsTemplate
    (value : Document)
    (template : Template) :
    Prop :=
  ∃ es ms, value = .map es ∧ List.Forall₂ IsMark es ms ∧ template = Table.ofList ms

/-- An entry of the templates gives a name and a template. -/
def IsNamedTemplate
    (e : Document × Document)
    (t : String × Template) :
    Prop :=
  Names e.1 t.1 ∧ IsTemplate e.2 t.2

/-- The value gives a port. -/
def IsPort
    (value : Document)
    (port : Port) :
    Prop :=
  ∃ es, value = .map es ∧ HasField es "name" port.name ∧ HasField es "template" port.template

/-- The value gives an authentication. -/
def IsAuth
    (value : Document)
    (auth : Auth) :
    Prop :=
  ∃ es, value = .map es ∧ HasField es "type" auth.type ∧ auth.type = supportedAuth ∧
    HasField es "user" auth.user ∧ HasField es "pass" auth.password ∧
      HasField es "resp" auth.response

/-- The field, where it is there, gives an authentication. -/
def MayAuth
    (field : Option Document)
    (auth : Option Auth) :
    Prop :=
  (field = none ∧ auth = none) ∨ ∃ d a, field = some d ∧ auth = some a ∧ IsAuth d a

/-- The value gives a switch. -/
def IsSwitch
    (value : Document)
    (switch : Switch) :
    Prop :=
  ∃ es items, value = .map es ∧ Document.field? es "ports" = some (.list items) ∧
    List.Forall₂ IsPort items switch.ports ∧ HasField es "name" switch.name ∧
      HasField es "address" switch.address ∧ MayAuth (Document.field? es "auth") switch.auth

/-- An entry of the switches gives a key and a switch that has this key. -/
def IsKeyedSwitch
    (e : Document × Document)
    (s : String × Switch) :
    Prop :=
  Names e.1 s.1 ∧ s.2.key = s.1 ∧ IsSwitch e.2 s.2

/-- The document gives the configuration. -/
def Describes
    (d : Document)
    (config : Config) :
    Prop :=
  ∃ root vlans templates switches, d = .map root ∧
    (Document.field? root "vlans" = some (.map vlans) ∧
      List.Forall₂ IsVlan vlans config.vlans.entries) ∧
    (Document.field? root "templates" = some (.map templates) ∧
      ∃ ts, List.Forall₂ IsNamedTemplate templates ts ∧ config.templates = Table.ofList ts) ∧
    Document.field? root "switches" = some (.map switches) ∧
      ∃ ss, List.Forall₂ IsKeyedSwitch switches ss ∧ config.switches = Table.ofList ss

end Structures

section Readers

theorem keyText_eq_ok_iff
    {place : Place}
    {key : Document}
    {name : String} :
    keyText place key = .ok name ↔ Names key name := by
  cases key <;> simp [keyText, Names, Document.isWord, Document.text?, Document.quoted?]

theorem field_eq_ok_iff
    {place : Place}
    {entries : Entries}
    {name s : String} :
    field place entries name = .ok s ↔ HasField entries name s := by
  rw [field, HasField]
  rcases Document.field? entries name with _ | d
  · simp
  · cases d <;> simp [Document.isScalar, Document.text?, Document.quoted?]

/-- The number that a key writes; truth values write none. -/
def number? : Document → Option Int
  | .bool _ => none
  | d => d.text?.bind fun s => Number.read? (Text.strip s)

theorem number?_eq_some_iff
    {key : Document}
    {id : Int} :
    number? key = some id ↔
      key.isBool = false ∧ ∃ s, key.text? = some s ∧ Number.read? (Text.strip s) = some id := by
  cases key <;> simp [number?, Document.isBool, Option.bind_eq_some_iff]

theorem vlanId_eq
    (place : Place)
    (key : Document) :
    vlanId place key =
      match number? key with
      | none => written key.quoted? >>= fun shown => refuse (.idNotNumber place shown)
      | some id => if id ≤ 0 then refuse (.idNotPositive place id) else .ok id :=
  rfl

theorem vlanId_eq_ok_iff
    {place : Place}
    {key : Document}
    {id : Int} :
    vlanId place key = .ok id ↔ Identifies key id := by
  rw [Identifies, ← and_assoc, ← number?_eq_some_iff]
  cases hnumber : number? key with
  | none =>
      simp [vlanId_eq, hnumber]
  | some n =>
      simp only [vlanId_eq, hnumber]
      split
      · next hn =>
          simp only [refuse_ne_ok, Option.some.injEq, false_iff]
          omega
      · next hn =>
          simp only [Except.ok.injEq, Option.some.injEq]
          omega

theorem vlanName_eq_ok_iff
    {id : Int}
    {value : Document}
    {name : String} :
    vlanName id value = .ok name ↔ Titles value name := by
  cases value <;> simp [vlanName, Titles, Document.isTitle]

theorem statusWord_eq_ok_iff
    {place : Place}
    {id : Int}
    {value : Document}
    {word : String} :
    statusWord place id value = .ok word ↔ Marks value word := by
  cases value with
  | text s =>
      simp only [statusWord, Marks, Bool.or_eq_true, decide_eq_true_eq]
      split
      · next hs =>
          rw [Except.ok.injEq, Document.text.injEq]
          refine ⟨?_, And.left⟩
          rintro rfl
          exact ⟨rfl, hs⟩
      · next hs =>
          simp only [bind_eq_ok_iff, refuse_ne_ok, and_false, exists_false, Document.text.injEq,
            false_iff]
          rintro ⟨rfl, hword⟩
          exact hs hword
  | pair a b =>
      simp only [statusWord]
      split <;> simp [Marks]
  | _ =>
      simp [statusWord, Marks, Document.isKey]

end Readers

section Collections

theorem readVlans_eq_ok_iff
    {known t : Table Int String}
    {es : Entries} :
    readVlans known es = .ok t ↔
      ∃ vs, List.Forall₂ IsVlan es vs ∧ t.entries = known.entries ++ vs := by
  induction es generalizing known with
  | nil =>
      rw [readVlans, Except.ok.injEq, ← Table.entries_inj]
      constructor
      · intro h
        exact ⟨[], .nil, by rw [h, List.append_nil]⟩
      · rintro ⟨vs, ⟨⟩, h⟩
        rw [h, List.append_nil]
  | cons e es ih =>
      simp only [readVlans, bind_eq_ok_iff, vlanId_eq_ok_iff]
      constructor
      · rintro ⟨id, hid, hrest⟩
        split at hrest
        · exact absurd hrest refuse_ne_ok
        · next hnew =>
            rw [Table.contains_iff] at hnew
            obtain ⟨name, hname, hrest⟩ := bind_eq_ok_iff.mp hrest
            obtain ⟨vs, hvs, ht⟩ := ih.mp hrest
            rw [Table.entries_put_of_not_mem hnew, List.append_assoc] at ht
            exact ⟨(id, name) :: vs, .cons ⟨hid, vlanName_eq_ok_iff.mp hname⟩ hvs, ht⟩
      · rintro ⟨vs, hvs, ht⟩
        cases hvs with
        | @cons _ v _ vs hv hvs =>
            have hnew : v.1 ∉ known.keys := by
              have hdistinct := t.distinct
              rw [ht, List.map_append, List.map_cons] at hdistinct
              exact fun hmem => (List.nodup_append.mp hdistinct).2.2 _ hmem _ List.mem_cons_self rfl
            refine ⟨v.1, hv.1, ?_⟩
            rw [if_neg (mt Table.contains_iff.mp hnew), bind_eq_ok_iff]
            refine ⟨v.2, vlanName_eq_ok_iff.mpr hv.2, ih.mpr ⟨vs, hvs, ?_⟩⟩
            rw [Table.entries_put_of_not_mem hnew, List.append_assoc, ht]
            rfl

/-- The mark of an entry. -/
def readMark
    (place : Place)
    (e : Document × Document) :
    Except Refusal (Int × String) := do
  let id ← vlanId place e.1
  let word ← statusWord place id e.2
  return (id, word)

theorem readMarks_cons
    (place : Place)
    (known : Template)
    (e : Document × Document)
    (es : Entries) :
    readMarks place known (e :: es) =
      readMark place e >>= fun m => readMarks place (known.put m.1 m.2) es := by
  simp only [readMarks, readMark, bind_assoc, pure_bind]

theorem readMark_eq_ok_iff
    {place : Place}
    {e : Document × Document}
    {m : Int × String} :
    readMark place e = .ok m ↔ IsMark e m := by
  obtain ⟨id, word⟩ := m
  simp only [readMark, bind_eq_ok_iff, vlanId_eq_ok_iff, statusWord_eq_ok_iff, IsMark]
  constructor
  · rintro ⟨_, hid, _, hword, heq⟩
    cases heq
    exact ⟨hid, hword⟩
  · rintro ⟨hid, hword⟩
    exact ⟨id, hid, word, hword, rfl⟩

theorem readMarks_eq_ok_iff
    {place : Place}
    {es : Entries}
    {template : Template} :
    readMarks place Table.empty es = .ok template ↔
      ∃ ms, List.Forall₂ IsMark es ms ∧ template = Table.ofList ms := by
  rw [readAll_eq_ok_iff (fun _ => rfl) (readMarks_cons place)]
  simp only [readMark_eq_ok_iff]
  rfl

theorem mapping_eq_ok_iff
    {place : Place}
    {value : Option Document}
    {es : Entries} :
    mapping place value = .ok es ↔ value = some (.map es) := by
  rw [mapping.eq_def]
  split
  · simp
  · next hmap =>
      simpa using hmap es

theorem readTemplate_eq_ok_iff
    {key value : Document}
    {t : String × Template} :
    readTemplate key value = .ok t ↔ IsNamedTemplate (key, value) t := by
  obtain ⟨name, template⟩ := t
  simp only [readTemplate, bind_eq_ok_iff, keyText_eq_ok_iff, mapping_eq_ok_iff,
    readMarks_eq_ok_iff, IsNamedTemplate, IsTemplate, Option.some.injEq]
  constructor
  · rintro ⟨_, hname, es, hes, _, ⟨ms, hms, rfl⟩, heq⟩
    cases heq
    exact ⟨hname, es, ms, hes, hms, rfl⟩
  · rintro ⟨hname, es, ms, hes, hms, rfl⟩
    exact ⟨name, hname, es, hes, _, ⟨ms, hms, rfl⟩, rfl⟩

theorem readTemplates_cons
    (known : Table String Template)
    (e : Document × Document)
    (es : Entries) :
    readTemplates known (e :: es) =
      readTemplate e.1 e.2 >>= fun t => readTemplates (known.put t.1 t.2) es :=
  rfl

theorem readTemplates_eq_ok_iff
    {es : Entries}
    {t : Table String Template} :
    readTemplates Table.empty es = .ok t ↔
      ∃ ts, List.Forall₂ IsNamedTemplate es ts ∧ t = Table.ofList ts := by
  rw [readAll_eq_ok_iff (fun _ => rfl) readTemplates_cons]
  simp only [readTemplate_eq_ok_iff]
  rfl

/-- A port at a place. -/
def readPort
    (place : Place)
    (item : Document) :
    Except Refusal Port := do
  let entries ← mapping place (some item)
  let name ← field place entries "name"
  let template ← field place entries "template"
  return ⟨name, template⟩

theorem readPorts_cons
    (key : String)
    (index : Nat)
    (item : Document)
    (items : List Document) :
    readPorts key index (item :: items) =
      readPort (.port key index) item >>= fun port =>
        readPorts key (index + 1) items >>= fun ports => .ok (port :: ports) := by
  simp only [readPorts, readPort, bind_assoc, pure_bind]
  rfl

theorem readPort_eq_ok_iff
    {place : Place}
    {item : Document}
    {port : Port} :
    readPort place item = .ok port ↔ IsPort item port := by
  simp only [readPort, bind_eq_ok_iff, mapping_eq_ok_iff, field_eq_ok_iff, Option.some.injEq]
  constructor
  · rintro ⟨es, hes, name, hname, template, htemplate, heq⟩
    cases heq
    exact ⟨es, hes, hname, htemplate⟩
  · rintro ⟨es, hes, hname, htemplate⟩
    exact ⟨es, hes, port.name, hname, port.template, htemplate, rfl⟩

theorem readPorts_eq_ok_iff
    {key : String}
    {index : Nat}
    {items : List Document}
    {ports : List Port} :
    readPorts key index items = .ok ports ↔ List.Forall₂ IsPort items ports := by
  induction items generalizing index ports with
  | nil =>
      rw [readPorts, Except.ok.injEq, List.forall₂_nil_left_iff, eq_comm]
  | cons item items ih =>
      simp only [readPorts_cons, bind_eq_ok_iff, readPort_eq_ok_iff, ih]
      constructor
      · rintro ⟨port, hport, rest, hrest, heq⟩
        cases heq
        exact .cons hport hrest
      · rintro (_ | ⟨hport, hrest⟩)
        exact ⟨_, hport, _, hrest, rfl⟩

theorem readAuth_eq_ok_iff
    {key : String}
    {value : Document}
    {auth : Auth} :
    readAuth key value = .ok auth ↔ IsAuth value auth := by
  simp only [readAuth, bind_eq_ok_iff, mapping_eq_ok_iff, field_eq_ok_iff, Option.some.injEq]
  constructor
  · rintro ⟨es, hes, type, htype, hrest⟩
    split at hrest
    · next hsupported =>
        simp only [bind_eq_ok_iff, field_eq_ok_iff] at hrest
        obtain ⟨user, huser, password, hpassword, response, hresponse, heq⟩ := hrest
        cases heq
        exact ⟨es, hes, htype, hsupported, huser, hpassword, hresponse⟩
    · exact absurd hrest refuse_ne_ok
  · rintro ⟨es, hes, htype, hsupported, huser, hpassword, hresponse⟩
    refine ⟨es, hes, auth.type, htype, ?_⟩
    simp only [if_pos hsupported, bind_eq_ok_iff, field_eq_ok_iff]
    exact ⟨_, huser, _, hpassword, _, hresponse, rfl⟩

theorem readAuth?_eq_ok_iff
    {key : String}
    {field : Option Document}
    {auth : Option Auth} :
    readAuth? key field = .ok auth ↔ MayAuth field auth := by
  cases field with
  | none =>
      simp [readAuth?, MayAuth, eq_comm]
  | some d =>
      simp only [readAuth?, map_eq_ok_iff, readAuth_eq_ok_iff, MayAuth]
      simp [eq_comm, and_comm]

/-- The ports in the field of a switch. -/
def portItems
    (key : String) :
    Option Document → Except Refusal (List Document)
  | some (.list items) => .ok items
  | _ => refuse (.portsNotList (.switch key))

theorem portItems_eq_ok_iff
    {key : String}
    {field : Option Document}
    {items : List Document} :
    portItems key field = .ok items ↔ field = some (.list items) := by
  rw [portItems.eq_def]
  split
  · simp
  · next hlist =>
      simpa using hlist items

/-- A switch is read in steps, the ports before the fields. -/
theorem readSwitch_eq
    (key : String)
    (value : Document) :
    readSwitch key value =
      mapping (.switch key) (some value) >>= fun es =>
        portItems key (Document.field? es "ports") >>= fun items =>
          readPorts key 0 items >>= fun ports =>
            field (.switch key) es "name" >>= fun name =>
              field (.switch key) es "address" >>= fun address =>
                readAuth? key (Document.field? es "auth") >>= fun auth =>
                  .ok ⟨key, name, address, auth, ports⟩ := by
  refine congrArg _ (funext fun es => ?_)
  dsimp only
  generalize Document.field? es "ports" = ports
  rcases ports with _ | d
  · rfl
  · cases d <;> rfl

theorem readSwitch_eq_ok_iff
    {key : String}
    {value : Document}
    {switch : Switch} :
    readSwitch key value = .ok switch ↔ switch.key = key ∧ IsSwitch value switch := by
  simp only [readSwitch_eq, bind_eq_ok_iff, mapping_eq_ok_iff, portItems_eq_ok_iff,
    readPorts_eq_ok_iff, field_eq_ok_iff, readAuth?_eq_ok_iff, Option.some.injEq]
  constructor
  · rintro ⟨es, hes, items, hitems, ports, hports, name, hname, address, haddress, auth, hauth, heq⟩
    cases heq
    exact ⟨rfl, es, items, hes, hitems, hports, hname, haddress, hauth⟩
  · rintro ⟨rfl, es, items, hes, hitems, hports, hname, haddress, hauth⟩
    exact ⟨es, hes, items, hitems, _, hports, _, hname, _, haddress, _, hauth, rfl⟩

/-- The switch of an entry, under its key. -/
def readKeyedSwitch (e : Document × Document) : Except Refusal (String × Switch) := do
  let key ← keyText .switches e.1
  let switch ← readSwitch key e.2
  return (key, switch)

theorem readSwitches_cons
    (known : Table String Switch)
    (e : Document × Document)
    (es : Entries) :
    readSwitches known (e :: es) =
      readKeyedSwitch e >>= fun s => readSwitches (known.put s.1 s.2) es := by
  simp only [readSwitches, readKeyedSwitch, bind_assoc, pure_bind]

theorem readKeyedSwitch_eq_ok_iff
    {e : Document × Document}
    {s : String × Switch} :
    readKeyedSwitch e = .ok s ↔ IsKeyedSwitch e s := by
  obtain ⟨key, switch⟩ := s
  simp only [readKeyedSwitch, bind_eq_ok_iff, keyText_eq_ok_iff, readSwitch_eq_ok_iff,
    IsKeyedSwitch]
  constructor
  · rintro ⟨_, hname, _, ⟨hkey, hswitch⟩, heq⟩
    cases heq
    exact ⟨hname, hkey, hswitch⟩
  · rintro ⟨hname, hkey, hswitch⟩
    exact ⟨key, hname, switch, ⟨hkey, hswitch⟩, rfl⟩

theorem readSwitches_eq_ok_iff
    {es : Entries}
    {t : Table String Switch} :
    readSwitches Table.empty es = .ok t ↔
      ∃ ss, List.Forall₂ IsKeyedSwitch es ss ∧ t = Table.ofList ss := by
  rw [readAll_eq_ok_iff (fun _ => rfl) readSwitches_cons]
  simp only [readKeyedSwitch_eq_ok_iff]
  rfl

end Collections

/-- A configuration is read exactly from the documents that describe it. -/
theorem read_eq_ok_iff
    {d : Document}
    {config : Config} :
    read d = .ok config ↔ Describes d config := by
  simp only [read, bind_eq_ok_iff, mapping_eq_ok_iff, readVlans_eq_ok_iff,
    readTemplates_eq_ok_iff, readSwitches_eq_ok_iff, Option.some.injEq, Describes]
  constructor
  · rintro ⟨root, hroot, vlans, hvlans, _, ⟨_, hvs, heq⟩, templates, htemplates, _, hts,
      switches, hswitches, _, hss, hconfig⟩
    cases hconfig
    rw [Table.empty, List.nil_append] at heq
    exact ⟨root, vlans, templates, switches, hroot, ⟨hvlans, heq ▸ hvs⟩, ⟨htemplates, hts⟩,
      hswitches, hss⟩
  · rintro ⟨root, vlans, templates, switches, hroot, ⟨hvlans, hvs⟩, ⟨htemplates, hts⟩,
      hswitches, hss⟩
    exact ⟨root, hroot, vlans, hvlans, _, ⟨_, hvs, rfl⟩, templates, htemplates, _, hts, switches,
      hswitches, _, hss, rfl⟩

end Config
end ManagedSwitch

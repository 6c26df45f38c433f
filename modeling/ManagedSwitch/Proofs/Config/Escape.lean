import ManagedSwitch.Proofs.Config.Grammar
import ManagedSwitch.Proofs.Document.Long

/-!
# Documents that get no answer

Reading is meant to end with a configuration or with a problem of the configuration.  `Stuck` has
the documents for which it does neither, told without the reader: the first thing that is wrong in
them is an integer with too many digits at a place where it has to be written, or a collection
where a template has the word for a VLAN.  What stands in front of it is in order, or else a problem
of that would have been reported.
-/

namespace ManagedSwitch

namespace Document

/-- A set. -/
def isSet : Document → Bool
  | .set _ => true
  | _ => false

end Document

namespace Config

section Definitions

/-- The field is a number with too many digits. -/
def LongField
    (entries : Entries)
    (name : String) :
    Prop :=
  ∃ d, Document.field? entries name = some d ∧ d.isScalar ∧ d.Long

/-- The first field that is wrong is a number with too many digits. -/
def StuckFields
    (entries : Entries)
    (names : List String) :
    Prop :=
  FirstAt (fun name => ∃ s, HasField entries name s) (LongField entries) names

/-- The value is a collection that is compared with nothing; sets are compared. -/
def Incomparable (value : Document) : Prop :=
  value.isKey = false ∧ value.isSet = false

/-- No problem can be reported for the entries of the VLANs. -/
def StuckVlans (es : Entries) : Prop :=
  ∃ before e after vs, es = before ++ e :: after ∧ List.Forall₂ IsVlan before vs ∧
    (vs.map Prod.fst).Nodup ∧
      (e.1.Long ∨
        ∃ id, Identifies e.1 id ∧ id ∉ vs.map Prod.fst ∧ e.2.isTitle ∧ e.2.Long)

/-- No problem can be reported for an entry of a template. -/
def StuckMark (e : Document × Document) : Prop :=
  e.1.Long ∨ (∃ id, Identifies e.1 id) ∧ (e.2.Long ∨ Incomparable e.2)

/-- No problem can be reported for an entry of the templates. -/
def StuckTemplate (e : Document × Document) : Prop :=
  e.1.Long ∨
    (∃ name, Names e.1 name) ∧ ∃ es, e.2 = .map es ∧ FirstAt (fun m => ∃ r, IsMark m r) StuckMark es

/-- No problem can be reported for a port. -/
def StuckPort (value : Document) : Prop :=
  ∃ es, value = .map es ∧ StuckFields es ["name", "template"]

/-- No problem can be reported for an authentication. -/
def StuckAuth (value : Document) : Prop :=
  ∃ es, value = .map es ∧
    (LongField es "type" ∨
      HasField es "type" supportedAuth ∧ StuckFields es ["user", "pass", "resp"])

/-- No problem can be reported for a switch. -/
def StuckSwitch (value : Document) : Prop :=
  ∃ es items, value = .map es ∧ Document.field? es "ports" = some (.list items) ∧
    (FirstAt (fun item => ∃ port, IsPort item port) StuckPort items ∨
      (∃ ports, List.Forall₂ IsPort items ports) ∧
        (StuckFields es ["name", "address"] ∨
          (∃ s, HasField es "name" s) ∧ (∃ s, HasField es "address" s) ∧
            ∃ d, Document.field? es "auth" = some d ∧ StuckAuth d))

/-- No problem can be reported for an entry of the switches. -/
def StuckKeyedSwitch (e : Document × Document) : Prop :=
  e.1.Long ∨ (∃ key, Names e.1 key) ∧ StuckSwitch e.2

/-- The document is no configuration, and no problem can be reported for it. -/
def Stuck (d : Document) : Prop :=
  ∃ root vlans, d = .map root ∧ Document.field? root "vlans" = some (.map vlans) ∧
    (StuckVlans vlans ∨
      (∃ vs, List.Forall₂ IsVlan vlans vs ∧ (vs.map Prod.fst).Nodup) ∧
        ∃ templates, Document.field? root "templates" = some (.map templates) ∧
          (FirstAt (fun e => ∃ t, IsNamedTemplate e t) StuckTemplate templates ∨
            (∃ ts, List.Forall₂ IsNamedTemplate templates ts) ∧
              ∃ switches, Document.field? root "switches" = some (.map switches) ∧
                FirstAt (fun e => ∃ s, IsKeyedSwitch e s) StuckKeyedSwitch switches))

end Definitions

section Scalars

@[simp] theorem not_escapes_mapping
    {place : Place}
    {value : Option Document} :
    ¬ Escapes (mapping place value) := by
  rw [mapping.eq_def]
  split <;> simp

theorem escapes_keyText_iff
    {place : Place}
    {key : Document} :
    Escapes (keyText place key) ↔ key.Long := by
  rw [← Document.quoted?_eq_none_iff]
  cases key <;> simp [keyText, Document.quoted?]

theorem escapes_field_iff
    {place : Place}
    {entries : Entries}
    {name : String} :
    Escapes (field place entries name) ↔ LongField entries name := by
  simp only [field, LongField, ← Document.text?_eq_none_iff]
  rcases Document.field? entries name with _ | d
  · simp
  · cases d <;> simp [Document.isScalar, Document.text?, Document.quoted?]

theorem escapes_vlanId_iff
    {place : Place}
    {key : Document} :
    Escapes (vlanId place key) ↔ key.Long := by
  cases hnumber : number? key with
  | none =>
      simp [vlanId_eq, hnumber, Document.quoted?_eq_none_iff]
  | some n =>
      have hshort : ¬ key.Long := by
        obtain ⟨-, s, hs, -⟩ := number?_eq_some_iff.mp hnumber
        rw [← Document.text?_eq_none_iff, hs]
        exact Option.some_ne_none s
      simp only [vlanId_eq, hnumber, hshort, iff_false]
      split <;> simp

theorem escapes_vlanName_iff
    {id : Int}
    {value : Document} :
    Escapes (vlanName id value) ↔ value.isTitle ∧ value.Long := by
  rw [← Document.text?_eq_none_iff]
  cases value <;> simp [vlanName, Document.isTitle]

theorem escapes_statusWord_iff
    {place : Place}
    {id : Int}
    {value : Document} :
    Escapes (statusWord place id value) ↔ value.Long ∨ Incomparable value := by
  rw [← Document.quoted?_eq_none_iff]
  cases value with
  | text s =>
      simp only [statusWord, Incomparable]
      split <;> simp [Document.quoted?, Document.isKey]
  | pair a b =>
      simp only [statusWord, Incomparable]
      split
      · next hkey =>
          simp [hkey]
      · next hkey =>
          simp [hkey, Document.isSet]
  | _ =>
      simp [statusWord, Incomparable, Document.isKey, Document.isSet]

end Scalars

section Collections

/-- The reader of VLANs is stuck at an entry, or behind an entry that is in order. -/
theorem escapes_readVlans_cons_iff
    {known : Table Int String}
    {e : Document × Document}
    {es : Entries} :
    Escapes (readVlans known (e :: es)) ↔
      (e.1.Long ∨ ∃ id, Identifies e.1 id ∧ id ∉ known.keys ∧ e.2.isTitle ∧ e.2.Long) ∨
        ∃ v, IsVlan e v ∧ v.1 ∉ known.keys ∧ Escapes (readVlans (known.put v.1 v.2) es) := by
  have hnew :
      ∀ id p (r : Except Refusal (Table Int String)),
        Escapes (if known.contains id then refuse p else r) ↔ id ∉ known.keys ∧ Escapes r := by
    intro id p r
    rw [← Table.contains_iff]
    split <;> simp [*]
  simp only [readVlans, escapes_bind, escapes_vlanId_iff, vlanId_eq_ok_iff, hnew,
    escapes_vlanName_iff, vlanName_eq_ok_iff]
  constructor
  · rintro (hlong | ⟨id, hid, hid', hvalue | ⟨name, hname, hrest⟩⟩)
    · exact Or.inl (Or.inl hlong)
    · exact Or.inl (Or.inr ⟨id, hid, hid', hvalue⟩)
    · exact Or.inr ⟨(id, name), ⟨hid, hname⟩, hid', hrest⟩
  · rintro ((hlong | ⟨id, hid, hid', hvalue⟩) | ⟨v, hv, hv', hrest⟩)
    · exact Or.inl hlong
    · exact Or.inr ⟨id, hid, hid', Or.inl hvalue⟩
    · exact Or.inr ⟨v.1, hv.1, hv', Or.inr ⟨v.2, hv.2, hrest⟩⟩

theorem escapes_readVlans_iff
    {known : Table Int String}
    {es : Entries} :
    Escapes (readVlans known es) ↔
      ∃ before e after vs, es = before ++ e :: after ∧ List.Forall₂ IsVlan before vs ∧
        (known.keys ++ vs.map Prod.fst).Nodup ∧
          (e.1.Long ∨
            ∃ id, Identifies e.1 id ∧ id ∉ known.keys ++ vs.map Prod.fst ∧
              e.2.isTitle ∧ e.2.Long) := by
  induction es generalizing known with
  | nil =>
      simp [readVlans]
  | cons e es ih =>
      rw [escapes_readVlans_cons_iff]
      constructor
      · rintro (hstuck | ⟨v, hv, hnew, hrest⟩)
        · refine ⟨[], e, es, [], rfl, .nil, ?_, ?_⟩
          · rw [List.map_nil, List.append_nil]
            exact known.distinct
          · simpa using hstuck
        · obtain ⟨before, f, after, vs, rfl, hvs, hnodup, hstuck⟩ := ih.mp hrest
          rw [Table.keys_put_of_not_mem _ _ hnew] at hnodup hstuck
          refine ⟨e :: before, f, after, v :: vs, rfl, .cons hv hvs, ?_, ?_⟩
          · simpa using hnodup
          · simpa using hstuck
      · rintro ⟨before, f, after, vs, heq, hvs, hnodup, hstuck⟩
        cases hvs with
        | nil =>
            obtain ⟨rfl, rfl⟩ := List.cons.inj heq
            exact Or.inl (by simpa using hstuck)
        | @cons _ v before vs hv hvs =>
            obtain ⟨rfl, rfl⟩ := List.cons.inj heq
            have hnew : v.1 ∉ known.keys := by
              intro hmem
              exact (List.nodup_append.mp hnodup).2.2 _ hmem _ List.mem_cons_self rfl
            refine Or.inr ⟨v, hv, hnew, ih.mpr ⟨before, f, after, vs, rfl, hvs, ?_, ?_⟩⟩
            · simpa [Table.keys_put_of_not_mem _ _ hnew] using hnodup
            · simpa [Table.keys_put_of_not_mem _ _ hnew] using hstuck

theorem escapes_readMark_iff
    {place : Place}
    {e : Document × Document} :
    Escapes (readMark place e) ↔ StuckMark e := by
  have hrest :
      ∀ id, Escapes (statusWord place id e.2 >>= fun word => pure (id, word)) ↔
        e.2.Long ∨ Incomparable e.2 := by
    intro id
    rw [escapes_bind_pure_iff, escapes_statusWord_iff]
  rw [readMark, escapes_bind_iff hrest, escapes_vlanId_iff]
  simp only [vlanId_eq_ok_iff, StuckMark]

theorem escapes_readMarks_iff
    {place : Place}
    {es : Entries} :
    Escapes (readMarks place Table.empty es) ↔ FirstAt (fun m => ∃ r, IsMark m r) StuckMark es := by
  rw [escapes_readAll_iff (fun _ => rfl) (readMarks_cons place)]
  simp only [readMark_eq_ok_iff, escapes_readMark_iff]

theorem escapes_mapping_bind_iff
    {α : Type}
    {place : Place}
    {value : Option Document}
    {f : Entries → Except Refusal α} :
    Escapes (mapping place value >>= f) ↔ ∃ es, value = some (.map es) ∧ Escapes (f es) := by
  simp only [escapes_bind, not_escapes_mapping, mapping_eq_ok_iff, false_or]

theorem escapes_readTemplate_iff
    {e : Document × Document} :
    Escapes (readTemplate e.1 e.2) ↔ StuckTemplate e := by
  have hrest :
      ∀ name,
        Escapes (mapping (.template name) (some e.2) >>= fun es =>
            readMarks (.template name) Table.empty es >>= fun template => pure (name, template)) ↔
          ∃ es, e.2 = .map es ∧ FirstAt (fun m => ∃ r, IsMark m r) StuckMark es := by
    intro name
    simp only [escapes_mapping_bind_iff, escapes_bind_pure_iff, escapes_readMarks_iff,
      Option.some.injEq]
  rw [readTemplate, escapes_bind_iff hrest, escapes_keyText_iff]
  simp only [keyText_eq_ok_iff, StuckTemplate]

theorem escapes_readTemplates_iff
    {es : Entries} :
    Escapes (readTemplates Table.empty es) ↔
      FirstAt (fun e => ∃ t, IsNamedTemplate e t) StuckTemplate es := by
  rw [escapes_readAll_iff (fun _ => rfl) readTemplates_cons]
  simp only [readTemplate_eq_ok_iff, escapes_readTemplate_iff]

@[simp] theorem not_stuckFields_nil
    {entries : Entries} :
    ¬ StuckFields entries [] :=
  not_firstAt_nil

theorem stuckFields_cons
    {entries : Entries}
    {name : String}
    {names : List String} :
    StuckFields entries (name :: names) ↔
      LongField entries name ∨ (∃ s, HasField entries name s) ∧ StuckFields entries names :=
  firstAt_cons

/-- Reading fields one after the other escapes at the first field that is wrong. -/
theorem escapes_field_bind_iff
    {α : Type}
    {place : Place}
    {entries : Entries}
    {name : String}
    {names : List String}
    {rest : String → Except Refusal α}
    (hrest : ∀ s, Escapes (rest s) ↔ StuckFields entries names) :
    Escapes (field place entries name >>= rest) ↔ StuckFields entries (name :: names) := by
  rw [escapes_bind_iff hrest, escapes_field_iff, stuckFields_cons]
  simp only [field_eq_ok_iff]

theorem escapes_readPort_iff
    {place : Place}
    {item : Document} :
    Escapes (readPort place item) ↔ StuckPort item := by
  simp only [readPort, escapes_mapping_bind_iff, Option.some.injEq, StuckPort]
  refine exists_congr fun es => and_congr_right fun _ => ?_
  refine escapes_field_bind_iff fun name => ?_
  refine escapes_field_bind_iff fun template => ?_
  simp

theorem escapes_readPorts_iff
    {key : String}
    {index : Nat}
    {items : List Document} :
    Escapes (readPorts key index items) ↔
      FirstAt (fun item => ∃ port, IsPort item port) StuckPort items := by
  induction items generalizing index with
  | nil =>
      simp [readPorts]
  | cons item items ih =>
      have hrest :
          ∀ port,
            Escapes (readPorts key (index + 1) items >>= fun ports => .ok (port :: ports)) ↔
              FirstAt (fun item => ∃ port, IsPort item port) StuckPort items := by
        simp [ih]
      rw [readPorts_cons, escapes_bind_iff hrest, escapes_readPort_iff, firstAt_cons]
      simp only [readPort_eq_ok_iff]

theorem escapes_readAuth_iff
    {key : String}
    {value : Document} :
    Escapes (readAuth key value) ↔ StuckAuth value := by
  simp only [readAuth, escapes_mapping_bind_iff, Option.some.injEq, StuckAuth]
  refine exists_congr fun es => and_congr_right fun _ => ?_
  rw [escapes_bind, escapes_field_iff]
  refine or_congr_right ?_
  have hfields :
      Escapes
          (field (.auth key) es "user" >>= fun user =>
            field (.auth key) es "pass" >>= fun password =>
              field (.auth key) es "resp" >>= fun response =>
                pure (Auth.mk supportedAuth user password response)) ↔
        StuckFields es ["user", "pass", "resp"] := by
    refine escapes_field_bind_iff fun user => ?_
    refine escapes_field_bind_iff fun password => ?_
    refine escapes_field_bind_iff fun response => ?_
    simp
  constructor
  · rintro ⟨type, htype, hrest⟩
    split at hrest
    · next hsupported =>
        subst hsupported
        exact ⟨field_eq_ok_iff.mp htype, hfields.mp hrest⟩
    · exact absurd hrest not_escapes_refuse
  · rintro ⟨htype, hstuck⟩
    refine ⟨supportedAuth, field_eq_ok_iff.mpr htype, ?_⟩
    rw [if_pos rfl]
    exact hfields.mpr hstuck

theorem escapes_readAuth?_iff
    {key : String}
    {field : Option Document} :
    Escapes (readAuth? key field) ↔ ∃ d, field = some d ∧ StuckAuth d := by
  cases field with
  | none =>
      simp [readAuth?]
  | some d =>
      simp [readAuth?, escapes_readAuth_iff]

theorem not_escapes_portItems
    {key : String}
    {field : Option Document} :
    ¬ Escapes (portItems key field) := by
  rw [portItems.eq_def]
  split <;> simp

theorem escapes_readSwitch_iff
    {key : String}
    {value : Document} :
    Escapes (readSwitch key value) ↔ StuckSwitch value := by
  rw [readSwitch_eq, escapes_mapping_bind_iff, StuckSwitch]
  refine exists_congr fun es => ?_
  have hauth :
      ∀ f : Option Auth → Switch,
        Escapes (readAuth? key (Document.field? es "auth") >>= fun auth => .ok (f auth)) ↔
          ∃ d, Document.field? es "auth" = some d ∧ StuckAuth d :=
    fun f => escapes_bind_pure_iff.trans escapes_readAuth?_iff
  simp only [escapes_bind, not_escapes_portItems, portItems_eq_ok_iff, escapes_readPorts_iff,
    readPorts_eq_ok_iff, escapes_field_iff, field_eq_ok_iff, hauth, stuckFields_cons,
    not_stuckFields_nil, false_or, and_false, or_false, exists_and_right, exists_and_left,
    Option.some.injEq]
  -- The two sides differ in how they group the fields and the authentication behind them.
  simp only [and_or_left, or_assoc]

theorem escapes_readSwitches_iff
    {es : Entries} :
    Escapes (readSwitches Table.empty es) ↔
      FirstAt (fun e => ∃ s, IsKeyedSwitch e s) StuckKeyedSwitch es := by
  have hreader : ∀ e, Escapes (readKeyedSwitch e) ↔ StuckKeyedSwitch e := by
    intro e
    have hrest :
        ∀ key, Escapes (readSwitch key e.2 >>= fun switch => pure (key, switch)) ↔
          StuckSwitch e.2 :=
      fun key => escapes_bind_pure_iff.trans escapes_readSwitch_iff
    rw [readKeyedSwitch, escapes_bind_iff hrest, escapes_keyText_iff]
    simp only [keyText_eq_ok_iff, StuckKeyedSwitch]
  rw [escapes_readAll_iff (fun _ => rfl) readSwitches_cons]
  simp only [readKeyedSwitch_eq_ok_iff, hreader]

end Collections

section Whole

/-- The entries give VLANs with distinct numbers exactly if a table of VLANs is read from them. -/
theorem exists_readVlans_iff
    {es : Entries} :
    (∃ t, readVlans Table.empty es = .ok t) ↔
      ∃ vs, List.Forall₂ IsVlan es vs ∧ (vs.map Prod.fst).Nodup := by
  constructor
  · rintro ⟨t, ht⟩
    obtain ⟨vs, hvs, heq⟩ := readVlans_eq_ok_iff.mp ht
    rw [Table.empty, List.nil_append] at heq
    exact ⟨vs, hvs, heq ▸ t.distinct⟩
  · rintro ⟨vs, hvs, hnodup⟩
    exact ⟨⟨vs, hnodup⟩, readVlans_eq_ok_iff.mpr ⟨vs, hvs, rfl⟩⟩

/-- A document is read to its end, or up to a problem, unless the reader is stuck in it. -/
theorem escapes_read_iff
    {d : Document} :
    Escapes (read d) ↔ Stuck d := by
  have hvlans : ∀ es, Escapes (readVlans Table.empty es) ↔ StuckVlans es := by
    intro es
    rw [escapes_readVlans_iff]
    rfl
  have htemplates :
      ∀ es, (∃ t, readTemplates Table.empty es = .ok t) ↔
        ∃ ts, List.Forall₂ IsNamedTemplate es ts := by
    simp [readTemplates_eq_ok_iff]
  simp only [read, escapes_bind, not_escapes_mapping, mapping_eq_ok_iff, hvlans,
    escapes_readTemplates_iff, escapes_readSwitches_iff, not_escapes_pure, exists_and_right,
    exists_readVlans_iff, htemplates, and_false, exists_false, or_false, false_or,
    Option.some.injEq]
  simp only [Stuck, exists_and_left]

end Whole

end Config
end ManagedSwitch

import Mathlib.Data.List.Nodup
import ManagedSwitch.Proofs.Config.Escape

/-!
# Which documents are accepted

`Grammatical` has the documents that are accepted, told by the kinds of values at their places and
without what is read from them.  `read_iff_grammatical` says that reading agrees: it gives a
configuration for these documents and a problem for all others, as long as all integers can be
written and templates have no collections where a word is compared.

Under these conditions the reader is never stuck (`Stuck.long_or_comparesCollection`), and every
scalar has a text, so that the values in `Describes` exist as soon as the kinds are right.
-/

namespace ManagedSwitch
namespace Config

section Shapes

/-- The fields are there, and they are texts or numbers. -/
def HasScalars
    (entries : Entries)
    (names : List String) :
    Prop :=
  ∀ name ∈ names, ∃ d, Document.field? entries name = some d ∧ d.isScalar

/-- A mapping from numbers of VLANs to the words that mark them. -/
def TemplateShape (value : Document) : Prop :=
  ∃ es, value = .map es ∧
    ∀ e ∈ es, (∃ id, Identifies e.1 id) ∧ (e.2 = .text "pvid" ∨ e.2 = .text "tagged")

/-- A mapping with the fields of a port. -/
def PortShape (value : Document) : Prop :=
  ∃ es, value = .map es ∧ HasScalars es ["name", "template"]

/-- A mapping with the fields of an authentication of the supported type. -/
def AuthShape (value : Document) : Prop :=
  ∃ es, value = .map es ∧ HasField es "type" supportedAuth ∧ HasScalars es ["user", "pass", "resp"]

/-- A mapping with the fields of a switch, a list of ports and, where there is one, an
authentication. -/
def SwitchShape (value : Document) : Prop :=
  ∃ es items, value = .map es ∧ HasScalars es ["name", "address"] ∧
    (Document.field? es "ports" = some (.list items) ∧ ∀ item ∈ items, PortShape item) ∧
      ∀ auth ∈ Document.field? es "auth", AuthShape auth

/-- A mapping with VLANs of distinct numbers, named templates and switches with keys. -/
def Grammatical (d : Document) : Prop :=
  ∃ root vlans templates switches, d = .map root ∧
    (Document.field? root "vlans" = some (.map vlans) ∧
      (∀ e ∈ vlans, (∃ id, Identifies e.1 id) ∧ e.2.isTitle) ∧
        (vlans.map fun e => number? e.1).Nodup) ∧
    (Document.field? root "templates" = some (.map templates) ∧
      ∀ e ∈ templates, e.1.isWord ∧ TemplateShape e.2) ∧
    Document.field? root "switches" = some (.map switches) ∧
      ∀ e ∈ switches, e.1.isWord ∧ SwitchShape e.2

/-- A template has a collection where it should have the word for a VLAN. -/
def ComparesCollection (d : Document) : Prop :=
  ∃ root templates t es m, d = .map root ∧
    Document.field? root "templates" = some (.map templates) ∧ t ∈ templates ∧ t.2 = .map es ∧
      m ∈ es ∧ Incomparable m.2

end Shapes

section Stuck

theorem LongField.long
    {es : Entries}
    {name : String}
    (h : LongField es name) :
    (Document.map es).Long := by
  obtain ⟨d, hd, -, hlong⟩ := h
  exact hlong.field hd

theorem StuckFields.long
    {es : Entries}
    {names : List String}
    (h : StuckFields es names) :
    (Document.map es).Long := by
  obtain ⟨_, _, _, -, -, hlong⟩ := h
  exact hlong.long

theorem StuckPort.long
    {value : Document}
    (h : StuckPort value) :
    value.Long := by
  obtain ⟨es, rfl, hfields⟩ := h
  exact hfields.long

theorem StuckAuth.long
    {value : Document}
    (h : StuckAuth value) :
    value.Long := by
  obtain ⟨es, rfl, htype | ⟨-, hfields⟩⟩ := h
  · exact htype.long
  · exact hfields.long

theorem StuckSwitch.long
    {value : Document}
    (h : StuckSwitch value) :
    value.Long := by
  obtain ⟨es, items, rfl, hports, hstuck⟩ := h
  rcases hstuck with ⟨before, item, after, rfl, -, hitem⟩ | ⟨-, hfields | ⟨-, -, d, hd, hauth⟩⟩
  · have hmem : item ∈ before ++ item :: after := List.mem_append_right _ List.mem_cons_self
    exact (Document.Long.item hmem hitem.long).field hports
  · exact hfields.long
  · exact hauth.long.field hd

theorem StuckVlans.long
    {es : Entries}
    (h : StuckVlans es) :
    (Document.map es).Long := by
  obtain ⟨before, e, after, _, rfl, -, -, hlong⟩ := h
  have hmem : e ∈ before ++ e :: after := List.mem_append_right _ List.mem_cons_self
  rcases hlong with hkey | ⟨_, _, _, _, hvalue⟩
  · exact .key hmem hkey
  · exact .value hmem hvalue

/-- A template that cannot be complained about is too long or has a collection for a word. -/
theorem StuckTemplate.long_or_incomparable
    {e : Document × Document}
    (h : StuckTemplate e) :
    (e.1.Long ∨ e.2.Long) ∨ ∃ es m, e.2 = .map es ∧ m ∈ es ∧ Incomparable m.2 := by
  rcases h with hkey | ⟨-, es, hes, before, m, after, rfl, -, hm⟩
  · exact Or.inl (Or.inl hkey)
  · have hmem : m ∈ before ++ m :: after := List.mem_append_right _ List.mem_cons_self
    rcases hm with hkey | ⟨-, hvalue | hincomparable⟩
    · exact Or.inl (Or.inr (hes ▸ .key hmem hkey))
    · exact Or.inl (Or.inr (hes ▸ .value hmem hvalue))
    · exact Or.inr ⟨_, m, hes, hmem, hincomparable⟩

/-- The reader is stuck only in documents with integers that are too long or with collections that
are compared. -/
theorem Stuck.long_or_comparesCollection
    {d : Document}
    (h : Stuck d) :
    d.Long ∨ ComparesCollection d := by
  obtain ⟨root, vlans, rfl, hvlans, hstuck | ⟨-, templates, htemplates, hstuck⟩⟩ := h
  · exact Or.inl (hstuck.long.field hvlans)
  rcases hstuck with ⟨before, t, after, rfl, -, ht⟩ | ⟨-, switches, hswitches, hstuck⟩
  · have hmem : t ∈ before ++ t :: after := List.mem_append_right _ List.mem_cons_self
    rcases ht.long_or_incomparable with hlong | ⟨es, m, hes, hm, hincomparable⟩
    · exact Or.inl ((Document.long_map_iff.mpr ⟨t, hmem, hlong⟩).field htemplates)
    · exact Or.inr ⟨root, _, t, es, m, rfl, htemplates, hmem, hes, hm, hincomparable⟩
  · obtain ⟨before, e, after, rfl, -, he⟩ := hstuck
    have hmem : e ∈ before ++ e :: after := List.mem_append_right _ List.mem_cons_self
    have hlong : e.1.Long ∨ e.2.Long := by
      rcases he with hkey | ⟨-, hvalue⟩
      · exact Or.inl hkey
      · exact Or.inr hvalue.long
    exact Or.inl ((Document.long_map_iff.mpr ⟨e, hmem, hlong⟩).field hswitches)

end Stuck

section Parts

theorem exists_forall₂_iff
    {α β : Type}
    {R : α → β → Prop}
    {as : List α} :
    (∃ bs, List.Forall₂ R as bs) ↔ ∀ a ∈ as, ∃ b, R a b := by
  induction as with
  | nil =>
      exact iff_of_true ⟨[], .nil⟩ (List.forall_mem_nil _)
  | cons a as ih =>
      rw [List.forall_mem_cons, ← ih]
      constructor
      · rintro ⟨_, _ | ⟨hb, hbs⟩⟩
        exact ⟨⟨_, hb⟩, _, hbs⟩
      · rintro ⟨⟨b, hb⟩, bs, hbs⟩
        exact ⟨b :: bs, .cons hb hbs⟩

/-- Without integers that are too long there is a text. -/
theorem exists_text
    {d : Document}
    (hshort : ¬d.Long) :
    ∃ s, d.text? = some s := by
  rw [← Option.ne_none_iff_exists', Ne, Document.text?_eq_none_iff]
  exact hshort

theorem exists_names_iff
    {key : Document}
    (hshort : ¬key.Long) :
    (∃ name, Names key name) ↔ key.isWord := by
  simp only [Names, exists_and_left, exists_text hshort, and_true]

theorem exists_titles_iff
    {value : Document}
    (hshort : ¬value.Long) :
    (∃ name, Titles value name) ↔ value.isTitle := by
  simp only [Titles, exists_and_left, exists_text hshort, and_true]

theorem exists_hasField_iff
    {es : Entries}
    (hshort : ¬(Document.map es).Long)
    {name : String} :
    (∃ s, HasField es name s) ↔ ∃ d, Document.field? es name = some d ∧ d.isScalar := by
  constructor
  · rintro ⟨s, d, hd, hscalar, -⟩
    exact ⟨d, hd, hscalar⟩
  · rintro ⟨d, hd, hscalar⟩
    obtain ⟨s, hs⟩ := exists_text fun hlong => hshort (hlong.field hd)
    exact ⟨s, d, hd, hscalar, hs⟩

theorem hasScalars_nil
    {es : Entries} :
    HasScalars es [] :=
  List.forall_mem_nil _

theorem hasScalars_cons
    {es : Entries}
    (hshort : ¬(Document.map es).Long)
    {name : String}
    {names : List String} :
    HasScalars es (name :: names) ↔ (∃ s, HasField es name s) ∧ HasScalars es names := by
  rw [HasScalars, List.forall_mem_cons, exists_hasField_iff hshort]
  rfl

end Parts

section Structures

/-- The keys that are read are those that the entries mean. -/
theorem nodup_map_key_iff
    {κ α : Type}
    {R : Document × Document → κ × α → Prop}
    {key : Document → Option κ}
    (hkey : ∀ e p, R e p → key e.1 = some p.1)
    {es : Entries}
    {ps : List (κ × α)}
    (h : List.Forall₂ R es ps) :
    (es.map fun e => key e.1).Nodup ↔ (ps.map Prod.fst).Nodup := by
  have hkeys : (es.map fun e => key e.1) = (ps.map Prod.fst).map some := by
    induction h with
    | nil =>
        rfl
    | cons hp _ ih =>
        rw [List.map_cons, List.map_cons, List.map_cons, hkey _ _ hp, ih]
  rw [hkeys, List.nodup_map_iff fun _ _ => Option.some.inj]

theorem number?_of_isVlan
    (e : Document × Document)
    (v : Int × String)
    (h : IsVlan e v) :
    number? e.1 = some v.1 :=
  number?_eq_some_iff.mpr ⟨h.1.1, h.1.2.1⟩

/-- Entries give VLANs with distinct numbers if their keys write distinct numbers and their values
are names. -/
theorem exists_vlans_iff
    {es : Entries}
    (hshort : ¬(Document.map es).Long) :
    (∃ vs, List.Forall₂ IsVlan es vs ∧ (vs.map Prod.fst).Nodup) ↔
      (∀ e ∈ es, (∃ id, Identifies e.1 id) ∧ e.2.isTitle) ∧
        (es.map fun e => number? e.1).Nodup := by
  have hvlan :
      ∀ e ∈ es, (∃ v, IsVlan e v) ↔ (∃ id, Identifies e.1 id) ∧ e.2.isTitle := by
    intro e he
    rw [← exists_titles_iff fun hlong => hshort (.value he hlong)]
    exact ⟨fun ⟨v, hid, hname⟩ => ⟨⟨v.1, hid⟩, v.2, hname⟩,
      fun ⟨⟨id, hid⟩, name, hname⟩ => ⟨(id, name), hid, hname⟩⟩
  have hnumbers :
      ∀ vs, List.Forall₂ IsVlan es vs →
        ((es.map fun e => number? e.1).Nodup ↔ (vs.map Prod.fst).Nodup) :=
    fun _ hvs => nodup_map_key_iff number?_of_isVlan hvs
  rw [← forall₂_congr hvlan, ← exists_forall₂_iff]
  constructor
  · rintro ⟨vs, hvs, hnodup⟩
    exact ⟨⟨vs, hvs⟩, (hnumbers vs hvs).mpr hnodup⟩
  · rintro ⟨⟨vs, hvs⟩, hnodup⟩
    exact ⟨vs, hvs, (hnumbers vs hvs).mp hnodup⟩

theorem exists_isMark_iff
    {e : Document × Document} :
    (∃ m, IsMark e m) ↔
      (∃ id, Identifies e.1 id) ∧ (e.2 = .text "pvid" ∨ e.2 = .text "tagged") := by
  constructor
  · rintro ⟨m, hid, hvalue, hword⟩
    rw [hvalue, Document.text.injEq, Document.text.injEq]
    exact ⟨⟨m.1, hid⟩, hword⟩
  · rintro ⟨⟨id, hid⟩, hvalue | hvalue⟩
    · exact ⟨(id, "pvid"), hid, hvalue, Or.inl rfl⟩
    · exact ⟨(id, "tagged"), hid, hvalue, Or.inr rfl⟩

theorem exists_isTemplate_iff
    {value : Document} :
    (∃ t, IsTemplate value t) ↔ TemplateShape value := by
  simp only [IsTemplate, TemplateShape, ← exists_isMark_iff, ← exists_forall₂_iff]
  constructor
  · rintro ⟨_, es, ms, hes, hms, -⟩
    exact ⟨es, hes, ms, hms⟩
  · rintro ⟨es, hes, ms, hms⟩
    exact ⟨_, es, ms, hes, hms, rfl⟩

theorem exists_isNamedTemplate_iff
    {e : Document × Document}
    (hshort : ¬e.1.Long) :
    (∃ t, IsNamedTemplate e t) ↔ e.1.isWord ∧ TemplateShape e.2 := by
  rw [← exists_names_iff hshort, ← exists_isTemplate_iff]
  exact ⟨fun ⟨t, hname, ht⟩ => ⟨⟨t.1, hname⟩, t.2, ht⟩,
    fun ⟨⟨name, hname⟩, t, ht⟩ => ⟨(name, t), hname, ht⟩⟩

theorem exists_isPort_iff
    {value : Document}
    (hshort : ¬value.Long) :
    (∃ port, IsPort value port) ↔ PortShape value := by
  constructor
  · rintro ⟨port, es, rfl, hname, htemplate⟩
    simp only [PortShape, Document.map.injEq, exists_eq_left', hasScalars_cons hshort]
    exact ⟨⟨_, hname⟩, ⟨_, htemplate⟩, hasScalars_nil⟩
  · rintro ⟨es, rfl, hfields⟩
    simp only [hasScalars_cons hshort] at hfields
    obtain ⟨⟨name, hname⟩, ⟨template, htemplate⟩, -⟩ := hfields
    exact ⟨⟨name, template⟩, es, rfl, hname, htemplate⟩

theorem exists_isAuth_iff
    {value : Document}
    (hshort : ¬value.Long) :
    (∃ auth, IsAuth value auth) ↔ AuthShape value := by
  constructor
  · rintro ⟨⟨_, _, _, _⟩, es, rfl, htype, rfl, huser, hpassword, hresponse⟩
    refine ⟨es, rfl, htype, ?_⟩
    simp only [hasScalars_cons hshort]
    exact ⟨⟨_, huser⟩, ⟨_, hpassword⟩, ⟨_, hresponse⟩, hasScalars_nil⟩
  · rintro ⟨es, rfl, htype, hfields⟩
    simp only [hasScalars_cons hshort] at hfields
    obtain ⟨⟨user, huser⟩, ⟨password, hpassword⟩, ⟨response, hresponse⟩, -⟩ := hfields
    exact ⟨⟨supportedAuth, user, password, response⟩, es, rfl, htype, rfl, huser, hpassword,
      hresponse⟩

theorem exists_mayAuth_iff
    {field : Option Document}
    (hshort : ∀ d ∈ field, ¬d.Long) :
    (∃ auth, MayAuth field auth) ↔ ∀ d ∈ field, AuthShape d := by
  cases field with
  | none =>
      exact iff_of_true ⟨none, Or.inl ⟨rfl, rfl⟩⟩ nofun
  | some d =>
      simp only [Option.mem_some_iff, forall_eq'] at hshort ⊢
      rw [← exists_isAuth_iff hshort]
      constructor
      · rintro ⟨_, ⟨⟨⟩, -⟩ | ⟨_, auth, ⟨⟩, -, hauth⟩⟩
        exact ⟨auth, hauth⟩
      · rintro ⟨auth, hauth⟩
        exact ⟨some auth, Or.inr ⟨d, auth, rfl, rfl, hauth⟩⟩

theorem exists_isSwitch_iff
    {value : Document}
    (hshort : ¬value.Long) :
    (∃ switch, IsSwitch value switch) ↔ SwitchShape value := by
  have hports :
      ∀ es items, value = .map es → Document.field? es "ports" = some (.list items) →
        ((∃ ports, List.Forall₂ IsPort items ports) ↔ ∀ item ∈ items, PortShape item) := by
    rintro es items rfl hitems
    rw [exists_forall₂_iff]
    refine forall₂_congr fun item hitem => exists_isPort_iff fun hlong => hshort ?_
    exact (Document.Long.item hitem hlong).field hitems
  have hauth :
      ∀ es, value = .map es →
        ((∃ auth, MayAuth (Document.field? es "auth") auth) ↔
          ∀ auth ∈ Document.field? es "auth", AuthShape auth) := by
    rintro es rfl
    exact exists_mayAuth_iff fun d hd hlong => hshort (hlong.field hd)
  constructor
  · rintro ⟨switch, es, items, hes, hitems, hforall, hname, haddress, hmay⟩
    refine ⟨es, items, hes, ?_, ⟨hitems, (hports es items hes hitems).mp ⟨_, hforall⟩⟩,
      (hauth es hes).mp ⟨_, hmay⟩⟩
    rw [hes] at hshort
    simp only [hasScalars_cons hshort]
    exact ⟨⟨_, hname⟩, ⟨_, haddress⟩, hasScalars_nil⟩
  · rintro ⟨es, items, hes, hfields, ⟨hitems, hshapes⟩, hmay⟩
    obtain ⟨ports, hforall⟩ := (hports es items hes hitems).mpr hshapes
    obtain ⟨auth, hmay⟩ := (hauth es hes).mpr hmay
    rw [hes] at hshort
    simp only [hasScalars_cons hshort] at hfields
    obtain ⟨⟨name, hname⟩, ⟨address, haddress⟩, -⟩ := hfields
    exact ⟨⟨"", name, address, auth, ports⟩, es, items, hes, hitems, hforall, hname, haddress, hmay⟩

theorem exists_isKeyedSwitch_iff
    {e : Document × Document}
    (hkey : ¬e.1.Long)
    (hvalue : ¬e.2.Long) :
    (∃ s, IsKeyedSwitch e s) ↔ e.1.isWord ∧ SwitchShape e.2 := by
  rw [← exists_names_iff hkey, ← exists_isSwitch_iff hvalue]
  exact ⟨fun ⟨s, hname, _, hswitch⟩ => ⟨⟨s.1, hname⟩, s.2, hswitch⟩,
    fun ⟨⟨name, hname⟩, switch, hswitch⟩ =>
      ⟨(name, { switch with key := name }), hname, rfl, hswitch⟩⟩

end Structures

section Whole

/-- If all integers can be written, a document describes a configuration exactly if its values are
of the right kinds. -/
theorem exists_describes_iff
    {d : Document}
    (hshort : ¬d.Long) :
    (∃ config, Describes d config) ↔ Grammatical d := by
  have hfield :
      ∀ root name es, d = .map root → Document.field? root name = some (.map es) →
        ¬(Document.map es).Long := by
    rintro root name es rfl hes hlong
    exact hshort (hlong.field hes)
  have htemplates :
      ∀ es, ¬(Document.map es).Long →
        ((∃ ts, List.Forall₂ IsNamedTemplate es ts) ↔
          ∀ e ∈ es, e.1.isWord ∧ TemplateShape e.2) := by
    intro es hes
    rw [exists_forall₂_iff]
    exact forall₂_congr fun e he => exists_isNamedTemplate_iff fun hlong => hes (.key he hlong)
  have hswitches :
      ∀ es, ¬(Document.map es).Long →
        ((∃ ss, List.Forall₂ IsKeyedSwitch es ss) ↔
          ∀ e ∈ es, e.1.isWord ∧ SwitchShape e.2) := by
    intro es hes
    rw [exists_forall₂_iff]
    refine forall₂_congr fun e he => exists_isKeyedSwitch_iff ?_ ?_
    · exact fun hlong => hes (.key he hlong)
    · exact fun hlong => hes (.value he hlong)
  constructor
  · rintro ⟨config, root, vlans, templates, switches, hd, ⟨hvlans, hvs⟩, ⟨htemps, ts, hts, -⟩,
      hswis, ss, hss, -⟩
    refine ⟨root, vlans, templates, switches, hd, ⟨hvlans, ?_⟩, ⟨htemps, ?_⟩, hswis, ?_⟩
    · exact (exists_vlans_iff (hfield _ _ _ hd hvlans)).mp ⟨_, hvs, config.vlans.distinct⟩
    · exact (htemplates _ (hfield _ _ _ hd htemps)).mp ⟨ts, hts⟩
    · exact (hswitches _ (hfield _ _ _ hd hswis)).mp ⟨ss, hss⟩
  · rintro ⟨root, vlans, templates, switches, hd, ⟨hvlans, hvs⟩, ⟨htemps, hts⟩, hswis, hss⟩
    obtain ⟨vs, hvs, hnodup⟩ := (exists_vlans_iff (hfield _ _ _ hd hvlans)).mpr hvs
    obtain ⟨ts, hts⟩ := (htemplates _ (hfield _ _ _ hd htemps)).mpr hts
    obtain ⟨ss, hss⟩ := (hswitches _ (hfield _ _ _ hd hswis)).mpr hss
    exact ⟨⟨⟨vs, hnodup⟩, Table.ofList ts, Table.ofList ss⟩, root, vlans, templates, switches, hd,
      ⟨hvlans, hvs⟩, ⟨htemps, ts, hts, rfl⟩, hswis, ss, hss, rfl⟩

/-- Without integers that are too long, and without collections where templates have the words for
VLANs, exactly the grammatical documents give a configuration, and all others a problem. -/
theorem read_iff_grammatical
    {d : Document}
    (hshort : ¬d.Long)
    (hwords : ¬ComparesCollection d) :
    ((∃ config, read d = .ok config) ↔ Grammatical d) ∧
      (¬Grammatical d → ∃ p, read d = .error (.problem p)) := by
  have haccept : (∃ config, read d = .ok config) ↔ Grammatical d := by
    simp only [read_eq_ok_iff, exists_describes_iff hshort]
  have hanswer : (∃ config, read d = .ok config) ∨ ∃ p, read d = .error (.problem p) := by
    rw [ok_or_problem_iff, escapes_read_iff]
    exact fun hstuck => hstuck.long_or_comparesCollection.elim hshort hwords
  refine ⟨haccept, fun hnot => hanswer.resolve_left ?_⟩
  rwa [haccept]

/-- A document with a number as text, numbers as names, a template without marks and a switch
without ports and authentication. -/
def sparseDocument : Document :=
  .map [
    (.text "vlans", .map [(.text " +1_0 ", .int 7)]),
    (.text "templates", .map [
      (.int 1, .map []),
      (.text "access", .map [(.int 10, .text "pvid")])]),
    (.text "switches", .map [
      (.int 1, .map [
        (.text "name", .int 1), (.text "address", .text "10.0.0.1"), (.text "ports", .list [])])])]

theorem exists_read_sparseDocument :
    ¬sparseDocument.Long ∧ ¬ComparesCollection sparseDocument ∧
      ∃ config, read sparseDocument = .ok config := by
  have hshort : ¬sparseDocument.Long := by
    rw [← Document.text?_eq_none_iff]
    decide +kernel
  have hten : Identifies (.int 10) 10 :=
    ⟨rfl, ⟨"10", by decide +kernel, by decide +kernel⟩, by decide⟩
  have htext : Identifies (.text " +1_0 ") 10 :=
    ⟨rfl, ⟨" +1_0 ", rfl, by decide +kernel⟩, by decide⟩
  have hwords : ¬ComparesCollection sparseDocument := by
    rintro ⟨root, templates, t, es, m, hroot, htemplates, ht, hes, hm, hincomparable⟩
    cases hroot
    cases htemplates
    rcases List.mem_pair.mp ht with rfl | rfl
    · cases hes
      exact absurd hm List.not_mem_nil
    · cases hes
      cases List.mem_singleton.mp hm
      exact nomatch hincomparable.1
  have hfields :
      HasScalars [
        (.text "name", .int 1), (.text "address", .text "10.0.0.1"), (.text "ports", .list [])]
        ["name", "address"] :=
    List.forall_mem_cons.mpr ⟨⟨_, rfl, rfl⟩, List.forall_mem_singleton.mpr ⟨_, rfl, rfl⟩⟩
  have haccess : TemplateShape (.map [(.int 10, .text "pvid")]) :=
    ⟨_, rfl, List.forall_mem_singleton.mpr ⟨⟨10, hten⟩, Or.inl rfl⟩⟩
  have hempty : TemplateShape (.map []) :=
    ⟨[], rfl, List.forall_mem_nil _⟩
  refine ⟨hshort, hwords, (read_iff_grammatical hshort hwords).1.mpr ?_⟩
  refine ⟨_, _, _, _, rfl, ⟨rfl, ?_, List.nodup_singleton _⟩, ⟨rfl, ?_⟩, rfl, ?_⟩
  · exact List.forall_mem_singleton.mpr ⟨⟨10, htext⟩, rfl⟩
  · exact List.forall_mem_cons.mpr ⟨⟨rfl, hempty⟩, List.forall_mem_singleton.mpr ⟨rfl, haccess⟩⟩
  · refine List.forall_mem_singleton.mpr ⟨rfl, _, [], rfl, hfields, ⟨rfl, ?_⟩, nofun⟩
    exact List.forall_mem_nil _

end Whole

end Config
end ManagedSwitch

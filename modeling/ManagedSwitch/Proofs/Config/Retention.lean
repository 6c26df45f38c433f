import ManagedSwitch.Proofs.Config.Acceptance

/-!
# What is kept of a document

The keys of a document are distinct, but what they mean need not be: the number `1` and the text `1`
are one name, and they are one VLAN.  Reading refuses VLANs whose numbers meet in this way.  The
templates, the marks of a template and the switches are gathered instead: a name stands where it
first arrives, and its last entry counts (`Gathers`).

So every VLAN of a document is kept, and everything is kept exactly if no two names of templates or
switches and no two numbers in a template meet (`keeps_iff_of_read`).
-/

namespace ManagedSwitch

namespace Document

section Parts

/-- The entries of a mapping; other values have none. -/
def entries : Document → List (Document × Document)
  | .map es => es
  | _ => []

/-- The entries of the mapping in a field. -/
def part
    (d : Document)
    (name : String) :
    List (Document × Document) :=
  ((field? d.entries name).map entries).getD []

theorem part_eq
    {root es : List (Document × Document)}
    {name : String}
    (h : field? root name = some (.map es)) :
    (Document.map root).part name = es := by
  rw [part, entries, h]
  rfl

end Parts

end Document

namespace Config

section Definitions

/-- The name that a key gives. -/
def name? (key : Document) : Option String :=
  if key.isWord then key.text? else none

theorem name?_eq_some_iff
    {key : Document}
    {name : String} :
    name? key = some name ↔ Names key name := by
  rw [name?, Names]
  split
  · next hword =>
      simp [hword]
  · next hword =>
      simp [hword]

/-- A table has what entries give: each key where it first arrives, with the value of its last
entry. -/
def Collects
    {κ α : Type}
    [DecidableEq κ]
    (R : Document × Document → κ × α → Prop)
    (es : Entries)
    (t : Table κ α) :
    Prop :=
  ∃ ps, List.Forall₂ R es ps ∧ t.keys = (ps.map Prod.fst).eraseDups ∧
    ∀ p ∈ t.entries, Table.IsLast ps p

/-- The VLANs of the configuration are those of the document one by one; of templates, marks and
switches that have the same key the last is there, in the place of the first. -/
structure Gathers
    (d : Document)
    (config : Config) :
    Prop where
  vlans : List.Forall₂ IsVlan (d.part "vlans") config.vlans.entries
  templates :
    Collects (fun e t => Names e.1 t.1 ∧ Collects IsMark e.2.entries t.2) (d.part "templates")
      config.templates
  switches : Collects IsKeyedSwitch (d.part "switches") config.switches

/-- Every entry of the document has an entry of the configuration, in the same order. -/
structure Keeps
    (d : Document)
    (config : Config) :
    Prop where
  vlans : List.Forall₂ IsVlan (d.part "vlans") config.vlans.entries
  templates :
    List.Forall₂ (fun e t => Names e.1 t.1 ∧ List.Forall₂ IsMark e.2.entries t.2.entries)
      (d.part "templates") config.templates.entries
  switches : List.Forall₂ IsKeyedSwitch (d.part "switches") config.switches.entries

/-- The numbers of the VLANs are distinct. -/
def DistinctVlans (d : Document) : Prop :=
  ((d.part "vlans").map fun e => number? e.1).Nodup

/-- The numbers in a template are distinct. -/
def DistinctMarks (value : Document) : Prop :=
  (value.entries.map fun m => number? m.1).Nodup

/-- The names of templates, the numbers in each template and the names of switches are distinct. -/
structure DistinctNames (d : Document) : Prop where
  templates : ((d.part "templates").map fun e => name? e.1).Nodup
  marks : ∀ e ∈ d.part "templates", DistinctMarks e.2
  switches : ((d.part "switches").map fun e => name? e.1).Nodup

end Definitions

section Gathering

variable {κ α : Type}
variable {R : Document × Document → κ × α → Prop}
variable {es : Entries}
variable {ps : List (κ × α)}

variable [DecidableEq κ]

theorem collects_ofList
    (h : List.Forall₂ R es ps) :
    Collects R es (Table.ofList ps) :=
  ⟨ps, h, Table.keys_ofList ps, fun _ => Table.mem_entries_ofList_iff.mp⟩

/-- A table made from what entries give has all of it exactly if the keys mean distinct things. -/
theorem forall₂_entries_iff
    {key : Document → Option κ}
    (hkey : ∀ e p, R e p → key e.1 = some p.1)
    (h : List.Forall₂ R es ps) :
    List.Forall₂ R es (Table.ofList ps).entries ↔ (es.map fun e => key e.1).Nodup := by
  rw [nodup_map_key_iff hkey h]
  constructor
  · intro hall
    rw [← Table.length_entries_ofList_iff, ← hall.length_eq, h.length_eq]
  · intro hnodup
    rwa [Table.entries_ofList hnodup]

end Gathering

section Templates

theorem number?_of_isMark
    (e : Document × Document)
    (m : Int × String)
    (h : IsMark e m) :
    number? e.1 = some m.1 :=
  number?_eq_some_iff.mpr ⟨h.1.1, h.1.2.1⟩

theorem IsTemplate.collects
    {value : Document}
    {template : Template}
    (h : IsTemplate value template) :
    Collects IsMark value.entries template := by
  obtain ⟨es, ms, rfl, hms, rfl⟩ := h
  exact collects_ofList hms

/-- A template has a mark for every entry exactly if the numbers are distinct. -/
theorem IsTemplate.forall₂_iff
    {value : Document}
    {template : Template}
    (h : IsTemplate value template) :
    List.Forall₂ IsMark value.entries template.entries ↔ DistinctMarks value := by
  obtain ⟨es, ms, rfl, hms, rfl⟩ := h
  exact forall₂_entries_iff number?_of_isMark hms

/-- The marks of all templates are kept exactly if their numbers are distinct in each template. -/
theorem forall₂_marks_iff
    {es : Entries}
    {ts : List (String × Template)}
    (h : List.Forall₂ IsNamedTemplate es ts) :
    List.Forall₂ (fun e t => Names e.1 t.1 ∧ List.Forall₂ IsMark e.2.entries t.2.entries) es ts ↔
      ∀ e ∈ es, DistinctMarks e.2 := by
  induction h with
  | nil =>
      exact iff_of_true .nil (List.forall_mem_nil _)
  | cons ht _ ih =>
      rw [List.forall₂_cons, List.forall_mem_cons, and_iff_right ht.1, ht.2.forall₂_iff, ih]

/-- The templates and their marks are kept exactly if the names of templates and the numbers in each
template are distinct. -/
theorem forall₂_templates_iff
    {es : Entries}
    {ts : List (String × Template)}
    (h : List.Forall₂ IsNamedTemplate es ts) :
    List.Forall₂ (fun e t => Names e.1 t.1 ∧ List.Forall₂ IsMark e.2.entries t.2.entries) es
        (Table.ofList ts).entries ↔
      (es.map fun e => name? e.1).Nodup ∧ ∀ e ∈ es, DistinctMarks e.2 := by
  have hnames := forall₂_entries_iff (fun _ _ ht => name?_eq_some_iff.mpr ht.1) h
  constructor
  · intro hkept
    have hnodup : (es.map fun e => name? e.1).Nodup := by
      rw [nodup_map_key_iff (fun _ _ ht => name?_eq_some_iff.mpr ht.1) hkept]
      exact (Table.ofList ts).distinct
    exact ⟨hnodup, (forall₂_marks_iff (hnames.mpr hnodup)).mp hkept⟩
  · rintro ⟨hnodup, hmarks⟩
    exact (forall₂_marks_iff (hnames.mpr hnodup)).mpr hmarks

end Templates

section Reading

variable {d : Document}
variable {config : Config}

/-- What is described is gathered. -/
theorem Describes.gathers
    (h : Describes d config) :
    Gathers d config := by
  obtain ⟨root, vlans, templates, switches, rfl, ⟨hvlans, hvs⟩, ⟨htemplates, ts, hts, hconfig⟩,
    hswitches, ss, hss, hconfig'⟩ := h
  constructor
  case vlans =>
    rwa [Document.part_eq hvlans]
  case templates =>
    rw [Document.part_eq htemplates, hconfig]
    refine collects_ofList (hts.imp fun e t ht => ⟨ht.1, ?_⟩)
    exact ht.2.collects
  case switches =>
    rw [Document.part_eq hswitches, hconfig']
    exact collects_ofList hss

/-- What is described is kept exactly if names and numbers are distinct. -/
theorem Describes.keeps_iff
    (h : Describes d config) :
    Keeps d config ↔ DistinctNames d := by
  have hvlans := h.gathers.vlans
  obtain ⟨root, vlans, templates, switches, rfl, -, ⟨htemplates, ts, hts, hconfig⟩, hswitches, ss,
    hss, hconfig'⟩ := h
  have hmarks := forall₂_templates_iff hts
  have hkeys := forall₂_entries_iff (fun _ _ hs => name?_eq_some_iff.mpr hs.1) hss
  rw [← hconfig, ← Document.part_eq htemplates] at hmarks
  rw [← hconfig', ← Document.part_eq hswitches] at hkeys
  constructor
  · intro hkeeps
    obtain ⟨hnodup, hdistinct⟩ := hmarks.mp hkeeps.templates
    exact ⟨hnodup, hdistinct, hkeys.mp hkeeps.switches⟩
  · intro hdistinct
    exact ⟨hvlans, hmarks.mpr ⟨hdistinct.templates, hdistinct.marks⟩,
      hkeys.mpr hdistinct.switches⟩

/-- VLANs with numbers that meet are not described. -/
theorem Describes.distinctVlans
    (h : Describes d config) :
    DistinctVlans d := by
  have hvlans := h.gathers.vlans
  rw [DistinctVlans, nodup_map_key_iff number?_of_isVlan hvlans]
  exact config.vlans.distinct

/-- A configuration has what its document has, one VLAN for each, and templates, marks and switches
gathered by name; everything is kept exactly if no names or numbers meet there.  Where numbers of
VLANs meet, there is a problem instead of a configuration. -/
theorem keeps_iff_of_read
    (d : Document) :
    (∀ config, read d = .ok config →
      Gathers d config ∧ (Keeps d config ↔ DistinctNames d)) ∧
      (¬DistinctVlans d → ¬Stuck d → ∃ p, read d = .error (.problem p)) := by
  constructor
  · intro config hread
    have hdescribes := read_eq_ok_iff.mp hread
    exact ⟨hdescribes.gathers, hdescribes.keeps_iff⟩
  · intro hmeet hstuck
    rw [← escapes_read_iff, ← ok_or_problem_iff] at hstuck
    refine hstuck.resolve_left ?_
    rintro ⟨config, hread⟩
    exact hmeet (read_eq_ok_iff.mp hread).distinctVlans

/-- A document in which the number one and the text `1` name two templates, two marks of a template
and two switches. -/
def meetingDocument : Document :=
  .map [
    (.text "vlans", .map [(.int 1, .text "data")]),
    (.text "templates", .map [
      (.int 1, .map [(.int 1, .text "tagged"), (.text "1", .text "pvid")]),
      (.text "1", .map [])]),
    (.text "switches", .map [
      (.int 1, .map [
        (.text "name", .text "A"), (.text "address", .text "10.0.0.1"), (.text "ports", .list [])]),
      (.text "1", .map [
        (.text "name", .text "B"), (.text "address", .text "10.0.0.2"),
        (.text "ports", .list [])])])]

/-- What `meetingDocument` gives: one template without marks and the second of the switches. -/
def metConfig : Config where
  vlans := ⟨[(1, "data")], by simp⟩
  templates := ⟨[("1", Table.empty)], by simp⟩
  switches := ⟨[("1", ⟨"1", "B", "10.0.0.2", none, []⟩)], by simp⟩

theorem read_meetingDocument :
    read meetingDocument = .ok metConfig := by
  have hone : (Document.int 1).text? = some "1" := by
    decide +kernel
  have hread : Number.read? (Text.strip "1") = some 1 := by
    decide +kernel
  have hint : Identifies (.int 1) 1 :=
    ⟨rfl, ⟨"1", hone, hread⟩, by decide⟩
  have htext : Identifies (.text "1") 1 :=
    ⟨rfl, ⟨"1", rfl, hread⟩, by decide⟩
  have hmarks :
      List.Forall₂ IsMark [(.int 1, .text "tagged"), (.text "1", .text "pvid")]
        [(1, "tagged"), (1, "pvid")] :=
    .cons ⟨hint, rfl, Or.inr rfl⟩ (.cons ⟨htext, rfl, Or.inl rfl⟩ .nil)
  have hswitch :
      ∀ name address,
        IsSwitch
          (.map [
            (.text "name", .text name), (.text "address", .text address),
            (.text "ports", .list [])])
          ⟨"1", name, address, none, []⟩ :=
    fun name address =>
      ⟨_, _, rfl, rfl, .nil, ⟨_, rfl, rfl, rfl⟩, ⟨_, rfl, rfl, rfl⟩, Or.inl ⟨rfl, rfl⟩⟩
  have htemplates :
      List.Forall₂ IsNamedTemplate
        [(.int 1, .map [(.int 1, .text "tagged"), (.text "1", .text "pvid")]),
          (.text "1", .map [])]
        [("1", Table.ofList [(1, "tagged"), (1, "pvid")]), ("1", Table.empty)] :=
    .cons ⟨⟨rfl, hone⟩, _, _, rfl, hmarks, rfl⟩ (.cons ⟨⟨rfl, rfl⟩, [], [], rfl, .nil, rfl⟩ .nil)
  rw [read_eq_ok_iff]
  refine ⟨_, _, _, _, rfl, ⟨rfl, .cons ⟨hint, rfl, rfl⟩ .nil⟩, ⟨rfl, _, htemplates, rfl⟩, rfl, ?_⟩
  refine ⟨[("1", ⟨"1", "A", "10.0.0.1", none, []⟩), ("1", ⟨"1", "B", "10.0.0.2", none, []⟩)], ?_,
    rfl⟩
  exact .cons ⟨⟨rfl, hone⟩, rfl, hswitch _ _⟩ (.cons ⟨⟨rfl, rfl⟩, rfl, hswitch _ _⟩ .nil)

/-- Without any problem, two templates became one and two switches became one. -/
theorem not_keeps_meetingDocument :
    read meetingDocument = .ok metConfig ∧ ¬Keeps meetingDocument metConfig := by
  refine ⟨read_meetingDocument, fun hkeeps => ?_⟩
  exact absurd hkeeps.switches.length_eq (by decide)

/-- A document in which the number ten and the text `10` are one VLAN. -/
def meetingVlans : Document :=
  .map [
    (.text "vlans", .map [(.int 10, .text "data"), (.text "10", .text "voice")]),
    (.text "templates", .map []),
    (.text "switches", .map [])]

theorem keeps_iff_meetingDocument :
    (read meetingDocument = .ok metConfig ∧ Gathers meetingDocument metConfig ∧
      (Keeps meetingDocument metConfig ↔ DistinctNames meetingDocument)) ∧
      ¬DistinctVlans meetingVlans ∧ ¬Stuck meetingVlans ∧
        ∃ p, read meetingVlans = .error (.problem p) := by
  have hmeet : ¬DistinctVlans meetingVlans := by
    rw [DistinctVlans]
    decide +kernel
  have hshort : ¬meetingVlans.Long := by
    rw [← Document.text?_eq_none_iff]
    decide +kernel
  have hstuck : ¬Stuck meetingVlans := by
    refine fun h => h.long_or_comparesCollection.elim hshort ?_
    rintro ⟨root, templates, t, es, m, hroot, htemplates, ht, -⟩
    cases hroot
    cases htemplates
    exact absurd ht List.not_mem_nil
  exact ⟨⟨read_meetingDocument, (keeps_iff_of_read meetingDocument).1 _ read_meetingDocument⟩,
    hmeet, hstuck, (keeps_iff_of_read meetingVlans).2 hmeet hstuck⟩

end Reading

end Config
end ManagedSwitch

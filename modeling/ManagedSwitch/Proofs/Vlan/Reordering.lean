import ManagedSwitch.Proofs.Vlan.Narrowing
import ManagedSwitch.Proofs.Vlan.Saying

/-!
# The order of templates and VLANs

Templates and their marks are only looked up, so that their order makes no difference to the batches
and the view of a configuration.  The VLANs are gone through twice, for their own commands and to
find the first marked one for every port.  If they are put into another order, each of them takes
its command along, and the ports for which at most one VLAN is marked keep theirs: `Reorders` has
what is the same in the two batches of a switch.  `compile_reordered` is the result for both kinds
of order.
-/

namespace ManagedSwitch

section Commands

/-- The port of which a command sets the VLAN of untagged frames. -/
def Command.port? (c : Command) : Option Nat :=
  match c.setting? with
  | some (.untagged form) => some form.port
  | _ => none

/-- The commands of a batch for a port. -/
def Batch.forPort
    (b : Batch)
    (i : Nat) :
    List Command :=
  b.commands.filter fun c => c.port? = some i

/-- The commands of a batch that are of a kind. -/
def Batch.ofKind
    (b : Batch)
    (kind : CommandKind) :
    List Command :=
  b.commands.filter fun c => c.kind = kind

end Commands

namespace Config

section Definitions

/-- The same templates in another order, each with the same marks in another order. -/
def Rearranged (templates templates' : Table String Template) : Prop :=
  ∃ es, templates.entries.Perm es ∧
    List.Forall₂ (fun e f => e.1 = f.1 ∧ e.2.entries.Perm f.2.entries) es templates'.entries

/-- What becomes of the batch of a switch when the VLANs are put into another order. -/
structure Reorders
    (config other : Config)
    (switch : Switch)
    (before after : Batch) :
    Prop where
  sameSwitch :
    before.switchKey = switch.key ∧ after.switchKey = switch.key ∧ after.address = before.address
  /-- There is a command for each VLAN. -/
  lengths :
    (before.ofKind .membership).length = config.vlans.size ∧
      (after.ofKind .membership).length = other.vlans.size
  /-- The VLANs take their commands along. -/
  moved :
    (config.vlans.entries.zip (before.ofKind .membership)).Perm
      (other.vlans.entries.zip (after.ofKind .membership))
  /-- A port of which at most one VLAN is marked has the same command, or none again. -/
  unmoved :
    ∀ i port, switch.ports[i]? = some port → config.MarksOne port →
      after.forPort i = before.forPort i
  /-- No port gets a command that had none, or loses it. -/
  present_iff : ∀ i, after.forPort i = [] ↔ before.forPort i = []
  /-- If no port has several marked VLANs, all commands for ports are the same, in order. -/
  unchanged :
    (∀ port ∈ switch.ports, config.MarksOne port) →
      after.ofKind .untagged = before.ofKind .untagged

end Definitions

section Templates

variable {templates templates' : Table String Template}

/-- What is found in tables whose entries correspond in order corresponds as well. -/
theorem rel_lookup
    {κ α β : Type}
    [DecidableEq κ]
    {R : α → β → Prop}
    {es : List (κ × α)}
    {fs : List (κ × β)}
    (h : List.Forall₂ (fun e f => e.1 = f.1 ∧ R e.2 f.2) es fs)
    (k : κ) :
    Option.Rel R (es.lookup k) (fs.lookup k) := by
  induction h with
  | nil =>
      exact .none
  | cons hef _ ih =>
      rw [List.lookup_cons, List.lookup_cons, hef.1]
      split
      · exact .some hef.2
      · exact ih

/-- Under every name there is the same template, with its marks in another order. -/
theorem Rearranged.rel_get?
    (h : Rearranged templates templates')
    (name : String) :
    Option.Rel (fun t t' => t.entries.Perm t'.entries) (templates.get? name)
      (templates'.get? name) := by
  obtain ⟨es, hperm, hes⟩ := h
  have hdistinct : (es.map Prod.fst).Nodup :=
    (hperm.map Prod.fst).nodup_iff.mp templates.distinct
  have hsame : templates.get? name = es.lookup name :=
    Table.get?_eq_of_perm (u := ⟨es, hdistinct⟩) hperm name
  rw [hsame]
  exact rel_lookup hes name

theorem Rearranged.isNone_get?
    (h : Rearranged templates templates')
    (name : String) :
    (templates'.get? name).isNone = (templates.get? name).isNone := by
  have hrel := h.rel_get? name
  generalize templates.get? name = t at hrel ⊢
  generalize templates'.get? name = t' at hrel ⊢
  cases hrel <;> rfl

/-- The same ports are without a template. -/
theorem Rearranged.unresolved_eq
    {config : Config}
    (h : Rearranged config.templates templates')
    (switch : Switch) :
    { config with templates := templates' }.unresolved switch = config.unresolved switch := by
  simp only [unresolved, h.isNone_get?]

/-- Templates in another order have the same words. -/
theorem Rearranged.word?_eq
    {config : Config}
    (h : Rearranged config.templates templates')
    (port : Port) :
    { config with templates := templates' }.word? port = config.word? port := by
  funext id
  have hrel := h.rel_get? port.template
  simp only [word?]
  generalize config.templates.get? port.template = t at hrel ⊢
  generalize templates'.get? port.template = t' at hrel ⊢
  cases hrel with
  | none =>
      rfl
  | some hperm =>
      exact (Table.get?_eq_of_perm hperm id).symm

theorem Rearranged.alike
    {config : Config}
    (h : Rearranged config.templates templates')
    (s : Switch) :
    Alike config { config with templates := templates' } s s where
  key := rfl
  name := rfl
  address := rfl
  auth := rfl
  saying := by
    simp only [saying, h.word?_eq]

end Templates

section Vlans

variable {config : Config} {vlans : Table Int String} {port : Port}

/-- If at most one VLAN is marked for a port, any marked VLAN is the first one. -/
theorem MarksOne.firstMarked?_eq_some_iff
    (hone : config.MarksOne port)
    {id : Int} :
    config.firstMarked? port = some id ↔ id ∈ config.vlans.keys ∧ config.portCode id port = 0 := by
  rw [firstMarked?_eq_find?]
  constructor
  · intro hfirst
    exact ⟨List.mem_of_find?_eq_some hfirst, by simpa using List.find?_some hfirst⟩
  · rintro ⟨hid, hcode⟩
    have hfound : (config.vlans.keys.find? fun id => config.portCode id port = 0).isSome :=
      List.find?_isSome.mpr ⟨id, hid, decide_eq_true hcode⟩
    obtain ⟨first, hfirst⟩ := Option.isSome_iff_exists.mp hfound
    have hcode' : config.portCode first port = 0 := by
      simpa using List.find?_some hfirst
    rw [hfirst, hone.eq_of_portCode (List.mem_of_find?_eq_some hfirst) hid hcode' hcode]

variable (hperm : config.vlans.entries.Perm vlans.entries)
include hperm

theorem mem_keys_iff_of_perm
    (id : Int) :
    id ∈ vlans.keys ↔ id ∈ config.vlans.keys :=
  (hperm.map Prod.fst).mem_iff.symm

/-- The order of the VLANs makes no difference to the one that is marked for a port. -/
theorem MarksOne.firstMarked?_eq
    (hone : config.MarksOne port) :
    { config with vlans := vlans }.firstMarked? port = config.firstMarked? port := by
  have hone' : { config with vlans := vlans }.MarksOne port := by
    intro template htemplate id hid other hother
    exact hone template htemplate id ((mem_keys_iff_of_perm hperm id).mp hid) other
      ((mem_keys_iff_of_perm hperm other).mp hother)
  refine Option.ext fun id => ?_
  rw [hone'.firstMarked?_eq_some_iff, hone.firstMarked?_eq_some_iff]
  exact and_congr_left' (mem_keys_iff_of_perm hperm id)

/-- Whether some VLAN is marked for a port does not depend on the order of the VLANs. -/
theorem firstMarked?_eq_none_iff_of_perm :
    { config with vlans := vlans }.firstMarked? port = none ↔ config.firstMarked? port = none := by
  rw [firstMarked?_eq_none_iff, firstMarked?_eq_none_iff]
  simp only [mem_keys_iff_of_perm hperm]

end Vlans

section Batches

variable (config : Config) (switch : Switch)

@[simp] theorem port?_membership
    (target : Target)
    (v : Int × String) :
    (target.membership v.1 v.2 (config.codes switch v.1)).port? = none := by
  rw [Command.port?, setting?_membership]

@[simp] theorem port?_untagged
    (target : Target)
    (w : Nat × Int) :
    (target.untagged w.1 w.2).port? = some w.1 := by
  rw [Command.port?, setting?_untagged]
  rfl

/-- A batch has a command for a port if a VLAN is marked for it, namely for the first one. -/
theorem forPort_batch
    (cookie : String)
    (i : Nat) :
    (config.batch switch cookie).forPort i =
      (switch.ports[i]?.bind config.firstMarked?).toList.map fun id =>
        Target.untagged ⟨switch.key, switch.address, cookie⟩ i id := by
  have hmemberships :
      ∀ c ∈ config.membershipCommands switch ⟨switch.key, switch.address, cookie⟩,
        ¬decide (c.port? = some i) = true := by
    intro c hc
    obtain ⟨v, -, rfl⟩ := List.mem_map.mp hc
    simp
  have hlookup := lookup_positioned config.firstMarked? 0 switch.ports i
  rw [Nat.zero_add] at hlookup
  have hwrites :
      ((config.untaggedWrites switch).filter fun w => w.1 = i) =
        (switch.ports[i]?.bind config.firstMarked?).toList.map fun id => (i, id) := by
    rw [← hlookup]
    exact filter_fst_eq (positioned_nodup config.firstMarked? 0 switch.ports) i
  rw [Batch.forPort, batch, List.filter_append, List.filter_eq_nil_iff.mpr hmemberships,
    List.nil_append, untaggedCommands_eq, List.filter_map]
  simp only [Function.comp_def, port?_untagged, Option.some.injEq]
  rw [hwrites, List.map_map]
  rfl

variable {config switch} {vlans : Table Int String}

/-- The commands for the VLANs go with them. -/
theorem membershipCommands_of_vlans
    (target : Target) :
    { config with vlans := vlans }.membershipCommands switch target =
      vlans.entries.map fun v => target.membership v.1 v.2 (config.codes switch v.1) :=
  rfl

variable (hperm : config.vlans.entries.Perm vlans.entries)
include hperm

/-- The batch of a switch for the VLANs in another order. -/
theorem reorders_batch
    (cookie : String) :
    config.Reorders { config with vlans := vlans } switch (config.batch switch cookie)
      ({ config with vlans := vlans }.batch switch cookie) := by
  constructor
  case sameSwitch =>
    exact ⟨rfl, rfl, rfl⟩
  case lengths =>
    rw [Batch.ofKind, Batch.ofKind, filter_membership_batch, filter_membership_batch]
    exact ⟨List.length_map _, List.length_map _⟩
  case moved =>
    rw [Batch.ofKind, Batch.ofKind, filter_membership_batch, filter_membership_batch,
      membershipCommands_of_vlans, membershipCommands, ← List.map_prod_left_eq_zip,
      ← List.map_prod_left_eq_zip]
    exact hperm.map _
  case unmoved =>
    intro i port hport hone
    rw [forPort_batch, forPort_batch, hport, Option.bind_some, Option.bind_some,
      hone.firstMarked?_eq hperm]
  case present_iff =>
    intro i
    rw [forPort_batch, forPort_batch, List.map_eq_nil_iff, List.map_eq_nil_iff,
      Option.toList_eq_nil_iff, Option.toList_eq_nil_iff]
    cases switch.ports[i]? with
    | none =>
        exact Iff.rfl
    | some port =>
        exact firstMarked?_eq_none_iff_of_perm hperm
  case unchanged =>
    intro hone
    rw [Batch.ofKind, Batch.ofKind, filter_untagged_batch, filter_untagged_batch,
      untaggedCommands_eq, untaggedCommands_eq, untaggedWrites, untaggedWrites,
      positioned_congr fun port hport => (hone port hport).firstMarked?_eq hperm]

end Batches

section Configurations

/-- Templates in another order, with their marks in other orders, are compiled and viewed as before;
VLANs in another order take their commands along, and leave the command of every port as it is for
which at most one of them is marked. -/
theorem compile_reordered
    (config : Config)
    (credentials : Credentials) :
    (∀ templates, Rearranged config.templates templates →
      { config with templates := templates }.compile credentials = config.compile credentials ∧
        { config with templates := templates }.view = config.view) ∧
      ∀ vlans, config.vlans.entries.Perm vlans.entries →
        ({ config with vlans := vlans }.compile credentials).unresolved =
            (config.compile credentials).unresolved ∧
          (config.compile credentials).batches.length = config.switches.size ∧
          ({ config with vlans := vlans }.compile credentials).batches.length =
            config.switches.size ∧
          List.Forall₂
            (fun s pair => config.Reorders { config with vlans := vlans } s pair.1 pair.2)
            config.switches.values
            ((config.compile credentials).batches.zip
              ({ config with vlans := vlans }.compile credentials).batches) := by
  constructor
  · intro templates htemplates
    have hvlans : { config with templates := templates }.vlans = config.vlans := rfl
    have halike :
        List.Forall₂ (Alike config { config with templates := templates })
          config.switches.values config.switches.values :=
      List.forall₂_same.mpr fun s _ => htemplates.alike s
    have hunresolved :
        ({ config with templates := templates }.compile credentials).unresolved =
          (config.compile credentials).unresolved :=
      congrArg (List.flatMap · _) (funext htemplates.unresolved_eq)
    refine ⟨?_, view_eq_of_alike hvlans halike⟩
    exact (Compiled.mk.injEq ..).mpr
      ⟨batches_eq_of_alike hvlans halike credentials, hunresolved⟩
  · intro vlans hperm
    refine ⟨rfl, ?_, ?_, ?_⟩
    · simp [compile, Table.values, Table.size]
    · simp [compile, Table.values, Table.size]
    · rw [compile, compile, List.zip_map', List.forall₂_map_right_iff, List.forall₂_same]
      exact fun s _ => reorders_batch hperm _

/-- A configuration with a template that marks one VLAN and a template that marks two. -/
def twoTemplates : Config where
  vlans := ⟨[(10, "data"), (30, "voice")], by simp⟩
  templates :=
    ⟨[("one", ⟨[(30, "tagged"), (10, "pvid")], by simp⟩),
      ("both", ⟨[(10, "pvid"), (30, "pvid")], by simp⟩)], by simp⟩
  switches :=
    ⟨[("s", ⟨"s", "S", "10.0.0.1", none, [⟨"1", "one"⟩, ⟨"2", "both"⟩, ⟨"3", "none"⟩]⟩)], by simp⟩

/-- The templates of `twoTemplates` in the other order, each with its marks in the other order. -/
def swappedTemplates : Table String Template :=
  ⟨[("both", ⟨[(30, "pvid"), (10, "pvid")], by simp⟩),
    ("one", ⟨[(10, "pvid"), (30, "tagged")], by simp⟩)], by simp⟩

/-- The VLANs of `twoTemplates` in the other order. -/
def swappedVlans : Table Int String :=
  ⟨[(30, "voice"), (10, "data")], by simp⟩

theorem compile_reordered_twoTemplates :
    Rearranged twoTemplates.templates swappedTemplates ∧
      twoTemplates.vlans.entries.Perm swappedVlans.entries ∧
      ({ twoTemplates with templates := swappedTemplates }.compile Table.empty =
          twoTemplates.compile Table.empty ∧
        { twoTemplates with templates := swappedTemplates }.view = twoTemplates.view) ∧
      ({ twoTemplates with vlans := swappedVlans }.compile Table.empty).unresolved =
          (twoTemplates.compile Table.empty).unresolved ∧
        (twoTemplates.compile Table.empty).batches.length = twoTemplates.switches.size ∧
        ({ twoTemplates with vlans := swappedVlans }.compile Table.empty).batches.length =
          twoTemplates.switches.size ∧
        List.Forall₂
          (fun s pair =>
            twoTemplates.Reorders { twoTemplates with vlans := swappedVlans } s pair.1 pair.2)
          twoTemplates.switches.values
          ((twoTemplates.compile Table.empty).batches.zip
            ({ twoTemplates with vlans := swappedVlans }.compile Table.empty).batches) := by
  have htemplates : Rearranged twoTemplates.templates swappedTemplates :=
    ⟨_, .swap _ _ _, .cons ⟨rfl, .swap _ _ _⟩ (.cons ⟨rfl, .swap _ _ _⟩ .nil)⟩
  have hvlans : twoTemplates.vlans.entries.Perm swappedVlans.entries :=
    .swap _ _ _
  obtain ⟨hsame, hmoved⟩ := compile_reordered twoTemplates Table.empty
  exact ⟨htemplates, hvlans, hsame swappedTemplates htemplates, hmoved swappedVlans hvlans⟩

/-- A port for which two VLANs are marked goes with the order of the VLANs. -/
example :
    twoTemplates.firstMarked? ⟨"2", "both"⟩ = some 10 ∧
      { twoTemplates with vlans := swappedVlans }.firstMarked? ⟨"2", "both"⟩ = some 30 := by
  decide

end Configurations

end Config
end ManagedSwitch

import Mathlib.Data.List.Forall2
import ManagedSwitch.Proofs.Vlan.Firmware

/-!
# What the commands of a batch set

Read back from their bodies, the commands of a compiled batch are forms for VLANs and, behind them,
forms for ports.  `Settles` says how the two blocks agree: a port has a form of its own exactly if
the form for some VLAN has the code of an untagged member for it, and its form names the first such
VLAN.  So the firmware knows a port as a member of a VLAN before it is told to put the port's
untagged frames there.  `compile_settles` is the result for all batches of a configuration.

The heart of it is `mem_untaggedWrites_iff`.  The VLAN of a port is looked up in its template, with
a port that has no template left out, and the codes are computed for every VLAN and every port; both
come down to the same search through the VLANs.
-/

namespace ManagedSwitch

section Reading

/-- What a command sets: a VLAN for all ports, or the VLAN of untagged frames of one port. -/
inductive VlanSetting
  | membership (form : Form.MembershipForm)
  | untagged (form : Form.UntaggedForm)

/-- What a command sets, by its kind and its body. -/
def Command.setting? (c : Command) : Option VlanSetting :=
  match c.kind with
  | .membership => (Form.membershipForm? c.request.body).map .membership
  | .untagged => (Form.untaggedForm? c.request.body).map .untagged
  | .save => none

end Reading

section Agreement

namespace Config

/-- The commands of a batch read as forms for VLANs and forms for ports that agree. -/
structure Settles
    (config : Config)
    (switch : Switch)
    (batch : Batch)
    (forms : List Form.MembershipForm)
    (ports : List Form.UntaggedForm) :
    Prop where
  /-- The batch is for the switch. -/
  switchKey : batch.switchKey = switch.key
  /-- The forms for VLANs come first, those for ports behind them. -/
  blocks :
    List.Forall₂ (fun c s => c.setting? = some s) batch.commands
      (forms.map .membership ++ ports.map .untagged)
  /-- Every VLAN has one form, in the order of the VLANs. -/
  vlans : forms.map (fun f => (f.id, f.name)) = config.vlans.entries
  /-- The form for a VLAN has one code for each port. -/
  codes : ∀ f ∈ forms, f.codes.map Prod.fst = List.range switch.ports.length
  /-- No port has two forms, and they are in the order of the ports. -/
  increasing : (ports.map Form.UntaggedForm.port).Pairwise (· < ·)
  /-- A port has a form if it is an untagged member of some VLAN, and only then. -/
  present_iff : ∀ i, (∃ p ∈ ports, p.port = i) ↔ ∃ f ∈ forms, f.codes.lookup i = some 0
  /-- The form for a port names the first VLAN that it is an untagged member of. -/
  first :
    ∀ p ∈ ports, ∃ before f after, forms = before ++ f :: after ∧
      f.id = p.id ∧ f.codes.lookup p.port = some 0 ∧ ∀ g ∈ before, g.codes.lookup p.port ≠ some 0
  /-- The command that makes the port a member of this VLAN stands in front of its own one. -/
  preceded :
    ∀ (k : Nat) p, batch.commands[k]?.bind Command.setting? = some (.untagged p) →
      ∃ j < k, ∃ f, batch.commands[j]?.bind Command.setting? = some (.membership f) ∧
        f.id = p.id ∧ f.codes.lookup p.port = some 0

end Config

end Agreement

section Forms

namespace Config

variable (config : Config) (switch : Switch) (target : Target)

/-- The form that a configuration wants for a VLAN. -/
def vlanForm (v : Int × String) : Form.MembershipForm :=
  ⟨v.1, v.2, (switch.ports.map (config.portCode v.1)).zipIdx.map Prod.swap⟩

/-- The form that a configuration wants for a port. -/
def portForm (w : Nat × Int) : Form.UntaggedForm :=
  ⟨w.1, w.2⟩

@[simp] theorem setting?_membership
    (v : Int × String) :
    (target.membership v.1 v.2 (config.codes switch v.1)).setting? =
      some (.membership (config.vlanForm switch v)) := by
  simp only [Command.setting?, Target.membership, Target.post, Form.post, membershipForm?_codes,
    Option.map_some]
  rfl

@[simp] theorem setting?_untagged
    (w : Nat × Int) :
    (target.untagged w.1 w.2).setting? = some (.untagged (portForm w)) := by
  simp only [Command.setting?, Target.untagged, Target.post, Form.post,
    Form.untaggedForm?_untagged, Option.map_some]
  rfl

/-- Commands are read back as the forms that were written into them. -/
theorem forall₂_setting?_batch
    (cookie : String) :
    List.Forall₂ (fun c s => c.setting? = some s) (config.batch switch cookie).commands
      ((config.vlans.entries.map (config.vlanForm switch)).map VlanSetting.membership ++
        ((config.untaggedWrites switch).map portForm).map VlanSetting.untagged) := by
  simp only [batch, membershipCommands, untaggedCommands_eq, List.map_map]
  refine List.rel_append ?_ ?_
  · rw [List.forall₂_map_left_iff, List.forall₂_map_right_iff, List.forall₂_same]
    exact fun v _ => config.setting?_membership switch _ v
  · rw [List.forall₂_map_left_iff, List.forall₂_map_right_iff, List.forall₂_same]
    exact fun w _ => setting?_untagged _ w

/-- The code that the form for a VLAN has for a port. -/
theorem lookup_vlanForm
    (v : Int × String)
    (i : Nat) :
    (config.vlanForm switch v).codes.lookup i = switch.ports[i]?.map (config.portCode v.1) := by
  rw [vlanForm, lookup_zipIdx_swap, List.getElem?_map]

theorem codes_vlanForm
    (v : Int × String) :
    (config.vlanForm switch v).codes.map Prod.fst = List.range switch.ports.length := by
  have hswap : Prod.fst ∘ Prod.swap = (Prod.snd : Nat × Nat → Nat) := rfl
  rw [vlanForm, List.map_map, hswap, List.zipIdx_map_snd, List.length_map,
    List.range_eq_range']

end Config

end Forms

section Kinds

namespace Config

variable (config : Config) (switch : Switch) (target : Target)

theorem kind_of_mem_membershipCommands
    {c : Command}
    (hc : c ∈ config.membershipCommands switch target) :
    c.kind = .membership := by
  obtain ⟨v, -, rfl⟩ := List.mem_map.mp hc
  rfl

theorem kind_of_mem_untaggedCommands
    {c : Command}
    (hc : c ∈ config.untaggedCommands switch target) :
    c.kind = .untagged := by
  rw [untaggedCommands_eq] at hc
  obtain ⟨w, -, rfl⟩ := List.mem_map.mp hc
  rfl

/-- The commands of a batch that set VLANs are its first block. -/
theorem filter_membership_batch
    (cookie : String) :
    ((config.batch switch cookie).commands.filter fun c => c.kind = .membership) =
      config.membershipCommands switch ⟨switch.key, switch.address, cookie⟩ := by
  rw [batch, List.filter_append, List.filter_eq_self.mpr, List.filter_eq_nil_iff.mpr,
    List.append_nil]
  · intro c hc
    simp [config.kind_of_mem_untaggedCommands switch _ hc]
  · intro c hc
    simp [config.kind_of_mem_membershipCommands switch _ hc]

/-- The commands of a batch that set ports are its second block. -/
theorem filter_untagged_batch
    (cookie : String) :
    ((config.batch switch cookie).commands.filter fun c => c.kind = .untagged) =
      config.untaggedCommands switch ⟨switch.key, switch.address, cookie⟩ := by
  rw [batch, List.filter_append, List.filter_eq_nil_iff.mpr, List.filter_eq_self.mpr,
    List.nil_append]
  · intro c hc
    simp [config.kind_of_mem_untaggedCommands switch _ hc]
  · intro c hc
    simp [config.kind_of_mem_membershipCommands switch _ hc]

end Config

end Kinds

section Search

namespace Config

variable {config : Config} {switch : Switch}

/-- A port has the code of an untagged member where its template has the word for it. -/
theorem portCode_eq_zero_iff
    {id : Int}
    {port : Port} :
    config.portCode id port = 0 ↔
      ((config.templates.get? port.template).bind fun t => t.get? id) = some "pvid" := by
  rw [portCode]
  split
  · next hword =>
      simp [hword]
  · next hword =>
      simp only [hword, iff_false]
      split <;> decide

/-- The first marked VLAN of a port is the first one with the code of an untagged member. -/
theorem firstMarked?_eq_find?
    (port : Port) :
    config.firstMarked? port = config.vlans.keys.find? fun id => config.portCode id port = 0 := by
  simp only [portCode_eq_zero_iff, firstMarked?]
  cases config.templates.get? port.template with
  | none =>
      simp [eq_comm (a := none), List.find?_eq_none]
  | some t =>
      rfl

/-- A port gets the VLAN of the first form that has the code of an untagged member for it. -/
theorem mem_untaggedWrites_iff
    {w : Nat × Int} :
    w ∈ config.untaggedWrites switch ↔
      ((config.vlans.entries.map (config.vlanForm switch)).find? fun f =>
        f.codes.lookup w.1 = some 0).map Form.MembershipForm.id = some w.2 := by
  rw [untaggedWrites, mem_positioned_iff, List.find?_map, Option.map_map]
  cases hport : switch.ports[w.1]? with
  | none =>
      have hnone :
          (config.vlans.entries.find? fun v =>
            (config.vlanForm switch v).codes.lookup w.1 = some 0) = none := by
        simp [List.find?_eq_none, lookup_vlanForm, hport]
      simp [Function.comp_def, hnone]
  | some port =>
      rw [Option.bind_some, firstMarked?_eq_find?, Table.keys, List.find?_map]
      simp only [Function.comp_def, lookup_vlanForm, hport, Option.map_some, Option.some.injEq]
      rfl

end Config

end Search

section Batches

namespace Config

variable (config : Config) (switch : Switch)

/-- The settings of commands stand where the commands stand. -/
theorem getElem?_bind_setting?
    {commands : List Command}
    {settings : List VlanSetting}
    (h : List.Forall₂ (fun c s => c.setting? = some s) commands settings)
    (k : Nat) :
    commands[k]?.bind Command.setting? = settings[k]? := by
  induction h generalizing k with
  | nil =>
      rfl
  | cons hc _ ih =>
      cases k with
      | zero =>
          exact hc
      | succ k =>
          exact ih k

/-- A form for a port stands behind the forms for VLANs. -/
theorem mem_of_getElem?_settings
    {forms : List Form.MembershipForm}
    {ports : List Form.UntaggedForm}
    {k : Nat}
    {p : Form.UntaggedForm}
    (hk :
      (forms.map VlanSetting.membership ++ ports.map VlanSetting.untagged)[k]? =
        some (.untagged p)) :
    p ∈ ports ∧ forms.length ≤ k := by
  rw [List.getElem?_append, List.length_map] at hk
  split at hk
  · simp at hk
  · next hge =>
      rw [List.getElem?_map, Option.map_eq_some_iff] at hk
      obtain ⟨q, hq, heq⟩ := hk
      cases heq
      exact ⟨List.mem_of_getElem? hq, Nat.le_of_not_lt hge⟩

/-- What a batch sets agrees. -/
theorem settles_batch
    (cookie : String) :
    config.Settles switch (config.batch switch cookie)
      (config.vlans.entries.map (config.vlanForm switch))
      ((config.untaggedWrites switch).map portForm) := by
  have hblocks := config.forall₂_setting?_batch switch cookie
  have hfirst :
      ∀ p ∈ (config.untaggedWrites switch).map portForm, ∃ before f after,
        config.vlans.entries.map (config.vlanForm switch) = before ++ f :: after ∧
          f.id = p.id ∧ f.codes.lookup p.port = some 0 ∧
            ∀ g ∈ before, g.codes.lookup p.port ≠ some 0 := by
    intro p hp
    obtain ⟨w, hw, rfl⟩ := List.mem_map.mp hp
    rw [mem_untaggedWrites_iff, Option.map_eq_some_iff] at hw
    obtain ⟨f, hf, hid⟩ := hw
    obtain ⟨hcode, before, after, hforms, hbefore⟩ := List.find?_eq_some_iff_append.mp hf
    refine ⟨before, f, after, hforms, hid, of_decide_eq_true hcode, ?_⟩
    intro g hg
    simpa [portForm] using hbefore g hg
  constructor
  case switchKey =>
    rfl
  case blocks =>
    exact hblocks
  case vlans =>
    rw [List.map_map]
    exact List.map_id _
  case codes =>
    intro f hf
    obtain ⟨v, -, rfl⟩ := List.mem_map.mp hf
    exact config.codes_vlanForm switch v
  case increasing =>
    rw [List.map_map]
    exact positioned_pairwise_lt _ _ _
  case present_iff =>
    intro i
    constructor
    · rintro ⟨p, hp, rfl⟩
      obtain ⟨before, f, after, hforms, -, hcode, -⟩ := hfirst p hp
      exact ⟨f, by simp [hforms], hcode⟩
    · rintro ⟨f, hf, hcode⟩
      have hsome :
          (((config.vlans.entries.map (config.vlanForm switch)).find? fun f =>
            f.codes.lookup i = some 0).map Form.MembershipForm.id).isSome := by
        rw [Option.isSome_map, List.find?_isSome]
        exact ⟨f, hf, decide_eq_true hcode⟩
      obtain ⟨id, hid⟩ := Option.isSome_iff_exists.mp hsome
      have hmem : (i, id) ∈ config.untaggedWrites switch := mem_untaggedWrites_iff.mpr hid
      exact ⟨portForm (i, id), List.mem_map_of_mem hmem, rfl⟩
  case first =>
    exact hfirst
  case preceded =>
    intro k p hk
    rw [getElem?_bind_setting? hblocks] at hk
    -- The forms for VLANs are no forms for ports, so position `k` is behind all of them.
    obtain ⟨hmem, hbehind⟩ := mem_of_getElem?_settings hk
    obtain ⟨before, f, after, hforms, hid, hcode, -⟩ := hfirst p hmem
    have hlt : before.length < (config.vlans.entries.map (config.vlanForm switch)).length := by
      simp [hforms]
    refine ⟨before.length, by omega, f, ?_, hid, hcode⟩
    rw [getElem?_bind_setting? hblocks, hforms]
    simp

/-- Every switch has one batch, and in each of them the commands for ports agree with the commands
for VLANs in front of them. -/
theorem compile_settles
    (config : Config)
    (credentials : Credentials) :
    List.Forall₂ (fun switch batch => ∃ forms ports, config.Settles switch batch forms ports)
      config.switches.values (config.compile credentials).batches := by
  rw [compile, List.forall₂_map_right_iff, List.forall₂_same]
  exact fun switch _ => ⟨_, _, config.settles_batch switch _⟩

end Config

end Batches

end ManagedSwitch

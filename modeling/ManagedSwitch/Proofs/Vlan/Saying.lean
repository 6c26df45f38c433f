import ManagedSwitch.Proofs.Vlan.View

/-!
# What is said about the ports of a switch

Of the template of a port, compiling and viewing need only the words with which it marks VLANs.
`saying` has these words for every port, under the name of the port.  The batch of a switch and its
view are made from the VLANs and from what is said about its ports (`codes_eq_map_saying`,
`untaggedWrites_eq_saying`, `portStatuses_eq_map_saying`), so that configurations which say the same
about their switches are compiled to the same batches and are viewed alike (`batches_eq_of_alike`,
`view_eq_of_alike`).
-/

namespace ManagedSwitch
namespace Config

section Definitions

/-- The word with which the template of a port marks a VLAN; there is none if the port has no
template, or if its template does not mark the VLAN. -/
def word?
    (config : Config)
    (port : Port)
    (id : Int) :
    Option String :=
  (config.templates.get? port.template).bind fun t => t.get? id

/-- The ports of a switch by their names, with the words that mark the VLANs for each of them. -/
def saying
    (config : Config)
    (switch : Switch) :
    List (String × (Int → Option String)) :=
  switch.ports.map fun p => (p.name, config.word? p)

/-- A switch of one configuration and a switch of another one are the same, and the same is said
about their ports. -/
structure Alike
    (config other : Config)
    (s t : Switch) :
    Prop where
  key : t.key = s.key
  name : t.name = s.name
  address : t.address = s.address
  auth : t.auth = s.auth
  saying : other.saying t = config.saying s

end Definitions

section Words

variable (config : Config) (switch : Switch)

theorem status_eq_ofWord
    (port : Port)
    (id : Int) :
    Template.status (config.templates.get? port.template) id =
      Status.ofWord (config.word? port id) := by
  rw [word?]
  cases config.templates.get? port.template <;> rfl

/-- The codes for a VLAN are those of the words for it. -/
theorem codes_eq_map_saying
    (id : Int) :
    config.codes switch id =
      (config.saying switch).map fun p => (Status.ofWord (p.2 id)).code := by
  rw [codes, portTemplates, saying, List.map_map, List.map_map]
  refine List.map_congr_left fun port _ => ?_
  rw [Function.comp_apply, Function.comp_apply, status_eq_ofWord]

/-- The statuses for a VLAN are those of the words for it. -/
theorem portStatuses_eq_map_saying
    (id : Int) :
    config.portStatuses switch id =
      (config.saying switch).map fun p => (p.1, (Status.ofWord (p.2 id)).text) := by
  rw [portStatuses, saying, List.map_map]
  refine List.map_congr_left fun port _ => ?_
  rw [Function.comp_apply, status_eq_ofWord]

/-- The first marked VLAN of a port is the first one with the word for untagged frames. -/
theorem firstMarked?_eq_find?_word?
    (port : Port) :
    config.firstMarked? port =
      config.vlans.keys.find? fun id => config.word? port id = some "pvid" := by
  simp only [firstMarked?_eq_find?, portCode_eq_zero_iff]
  rfl

/-- The VLANs of the ports are found by the words for them. -/
theorem untaggedWrites_eq_saying :
    config.untaggedWrites switch =
      positioned (fun p => config.vlans.keys.find? fun id => p.2 id = some "pvid") 0
        (config.saying switch) := by
  rw [untaggedWrites, saying, positioned_map]
  exact positioned_congr (fun port _ => config.firstMarked?_eq_find?_word? port) 0

end Words

section Switches

variable {config other : Config} {s t : Switch}

/-- The cookie of a switch does not depend on its ports. -/
theorem Alike.cookieFor_eq
    (h : Alike config other s t)
    (credentials : Credentials) :
    cookieFor credentials t = cookieFor credentials s := by
  simp only [cookieFor, Switch.cookie, h.key, h.auth]

theorem Alike.batch_eq
    (h : Alike config other s t)
    (hvlans : other.vlans = config.vlans)
    (cookie : String) :
    other.batch t cookie = config.batch s cookie := by
  simp only [batch, membershipCommands, untaggedCommands_eq, codes_eq_map_saying,
    untaggedWrites_eq_saying, h.key, h.address, h.saying, hvlans]

theorem Alike.viewSwitch_eq
    (h : Alike config other s t)
    (hvlans : other.vlans = config.vlans) :
    other.viewSwitch t = config.viewSwitch s := by
  simp only [viewSwitch, portStatuses_eq_map_saying, h.key, h.name, h.address, h.saying, hvlans]

end Switches

section Configurations

variable {config other : Config}

/-- What is made of switches one by one is equal if it is equal for each pair of them. -/
theorem map_eq_map_of_forall₂
    {α β γ : Type}
    {R : α → β → Prop}
    {f : α → γ}
    {g : β → γ}
    {xs : List α}
    {ys : List β}
    (h : List.Forall₂ R xs ys)
    (hR : ∀ x y, R x y → g y = f x) :
    ys.map g = xs.map f := by
  induction h with
  | nil =>
      rfl
  | cons hxy _ ih =>
      rw [List.map_cons, List.map_cons, hR _ _ hxy, ih]

/-- Configurations that say the same about their switches are compiled to the same batches. -/
theorem batches_eq_of_alike
    (hvlans : other.vlans = config.vlans)
    (h : List.Forall₂ (Alike config other) config.switches.values other.switches.values)
    (credentials : Credentials) :
    (other.compile credentials).batches = (config.compile credentials).batches := by
  refine map_eq_map_of_forall₂ h fun s t hst => ?_
  rw [hst.cookieFor_eq, hst.batch_eq hvlans]

/-- Configurations that say the same about their switches are viewed alike. -/
theorem view_eq_of_alike
    (hvlans : other.vlans = config.vlans)
    (h : List.Forall₂ (Alike config other) config.switches.values other.switches.values) :
    other.view = config.view :=
  map_eq_map_of_forall₂ h fun _ _ hst => hst.viewSwitch_eq hvlans

end Configurations

end Config
end ManagedSwitch

import ManagedSwitch.Proofs.Config.Origin
import ManagedSwitch.Proofs.Provision.Application

/-!
# Configurations and their authentication

What the parts behind the reader rely on holds for every configuration that is read and for every
selection of it: it is admitted, and authenticating its switches divides their keys into credentials
and failures, the failures being those of the switches without authentication in the document.
-/

namespace ManagedSwitch
namespace Config

section Division

/-- An authentication divides the keys of the switches, and the failures are exactly for the
switches whose entry in the document has no authentication. -/
structure Divides
    (d : Document)
    (config : Config)
    (a : Authentication) :
    Prop where
  keys : (a.credentials.keys ++ a.failures.keys).Perm config.switches.keys
  failures :
    ∀ s ∈ config.switches.values, ∃ e, Origin d s e ∧
      ((∃ failure, s.cookie = .error failure) ↔ Document.field? e.2.entries "auth" = none) ∧
      (s.key ∈ a.failures.keys ↔ Document.field? e.2.entries "auth" = none)

/-- In a well-formed configuration, a switch has no cookie exactly if it has no authentication. -/
theorem WellFormed.cookie_error_iff
    {config : Config}
    (h : config.WellFormed)
    {s : Switch}
    (hs : s ∈ config.switches.values) :
    (∃ failure, s.cookie = .error failure) ↔ s.auth = none := by
  have hcookie := h.cookie hs
  rw [← Option.map_eq_none_iff, ← hcookie]
  cases s.cookie <;> simp [Except.toOption]

/-- The authentication of an admitted configuration divides its switches. -/
theorem Admitted.divides
    {d : Document}
    {config : Config}
    (h : Admitted d config) :
    Divides d config (authentication config.switches.values) := by
  constructor
  case keys =>
    rw [← h.map_key]
    exact keys_authentication_perm h.named
  case failures =>
    intro s hs
    obtain ⟨e, he⟩ := h.originating s hs
    have hfailure := (h.cookie_error_iff hs).trans he.auth_eq_none_iff
    exact ⟨e, he, hfailure, (mem_keys_failures_iff h.named hs).trans hfailure⟩

end Division

section Whole

/-- Every configuration that is read has all VLANs of its document in order; it is admitted, as is
every selection of it, and authenticating divides the switches of both into those with and those
without authentication in the document. -/
theorem admitted_of_read
    {d : Document}
    {config : Config}
    (hread : read d = .ok config)
    (switches : List String)
    {vlans : List String}
    (hshort : ∀ s ∈ vlans, ShortSelector s) :
    List.Forall₂ IsVlan (d.part "vlans") config.vlans.entries ∧
      ∃ kept, config.select? switches vlans = some kept ∧
        ∀ c ∈ [config, kept], Admitted d c ∧
          ∀ {τ : Type} (verbose : Bool) (w : World τ),
            Divides d c ((authenticate c.switches.values verbose).run w).1 := by
  have hdescribes := read_eq_ok_iff.mp hread
  have hauthenticate :
      ∀ {c : Config}, Admitted d c → ∀ {τ : Type} (verbose : Bool) (w : World τ),
        Divides d c ((authenticate c.switches.values verbose).run w).1 := by
    intro c hc τ verbose w
    rw [fst_run_authenticate]
    exact hc.divides
  obtain ⟨kept, hselect⟩ := exists_select? config switches hshort
  refine ⟨hdescribes.gathers.vlans, kept, hselect, ?_⟩
  rw [List.forall_mem_cons, List.forall_mem_singleton]
  have hadmitted := hdescribes.admitted
  exact ⟨⟨hadmitted, hauthenticate hadmitted⟩, hadmitted.select hselect,
    hauthenticate (hadmitted.select hselect)⟩

theorem admitted_twoSwitches :
    (∀ s ∈ ["10"], ShortSelector s) ∧
      List.Forall₂ IsVlan (twoSwitches.part "vlans") twoSwitchesConfig.vlans.entries ∧
      ∃ kept, twoSwitchesConfig.select? ["b"] ["10"] = some kept ∧
        ∀ c ∈ [twoSwitchesConfig, kept], Admitted twoSwitches c ∧
          ∀ {τ : Type} (verbose : Bool) (w : World τ),
            Divides twoSwitches c ((authenticate c.switches.values verbose).run w).1 := by
  have hshort : ∀ s ∈ ["10"], ShortSelector s := by
    rw [List.forall_mem_singleton]
    exact fun _ => by decide +kernel
  exact ⟨hshort, admitted_of_read read_twoSwitches ["b"] hshort⟩

end Whole

end Config
end ManagedSwitch

import Mathlib.Data.List.Nodup
import Mathlib.Data.List.Perm.Basic
import ManagedSwitch.Proofs.Table
import ManagedSwitch.Provision.Authentication

/-!
# What authenticating gives

Switches with distinct keys get exactly the cookies and the failures that they have of their own, in
the order of the switches.  Each key gets one of the two.
-/

namespace ManagedSwitch

section Entries

variable {β : Type}

/-- The keys of entries that some of the switches have. -/
theorem map_fst_filterMap
    {pair? : Switch → Option (String × β)}
    (hkey : ∀ s e, pair? s = some e → e.1 = s.key)
    (switches : List Switch) :
    (switches.filterMap pair?).map Prod.fst =
      (switches.filter fun s => (pair? s).isSome).map Switch.key := by
  induction switches with
  | nil =>
      rfl
  | cons s switches ih =>
      rw [List.filterMap_cons, List.filter_cons]
      cases hpair : pair? s with
      | none =>
          exact ih
      | some e =>
          rw [List.map_cons, ih, hkey s e hpair]
          rfl

/-- A table of entries that switches with distinct keys have. -/
theorem entries_ofList_filterMap
    {pair? : Switch → Option (String × β)}
    (hkey : ∀ s e, pair? s = some e → e.1 = s.key)
    {switches : List Switch}
    (hdistinct : (switches.map Switch.key).Nodup) :
    (Table.ofList (switches.filterMap pair?)).entries = switches.filterMap pair? := by
  refine Table.entries_ofList ?_
  rw [map_fst_filterMap hkey]
  exact hdistinct.sublist (List.filter_sublist.map Switch.key)

end Entries

section Results

namespace Authentication

/-- The cookie of a switch under its key, if it has one. -/
def cookiePair? (s : Switch) : Option (String × String) :=
  s.cookie.toOption.map fun cookie => (s.key, cookie)

/-- The failure of a switch under its key, if it has no cookie. -/
def failurePair? (s : Switch) : Option (String × AuthFailure) :=
  match s.cookie with
  | .ok _ => none
  | .error failure => some (s.key, failure)

theorem fst_of_cookiePair?
    (s : Switch)
    (e : String × String)
    (h : cookiePair? s = some e) :
    e.1 = s.key := by
  obtain ⟨cookie, -, rfl⟩ := Option.map_eq_some_iff.mp h
  rfl

theorem fst_of_failurePair?
    (s : Switch)
    (e : String × AuthFailure)
    (h : failurePair? s = some e) :
    e.1 = s.key := by
  rw [failurePair?] at h
  split at h
  · exact nomatch h
  · cases h
    rfl

/-- A switch has a failure exactly if it has no cookie. -/
theorem isSome_failurePair?
    (s : Switch) :
    (failurePair? s).isSome = !(cookiePair? s).isSome := by
  rw [failurePair?, cookiePair?]
  cases s.cookie <;> rfl

theorem add_of_ok
    (a : Authentication)
    {s : Switch}
    {cookie : String}
    (hcookie : s.cookie = .ok cookie) :
    a.add s = { a with credentials := a.credentials.put s.key cookie } := by
  rw [add, hcookie]

theorem add_of_error
    (a : Authentication)
    {s : Switch}
    {failure : AuthFailure}
    (hcookie : s.cookie = .error failure) :
    a.add s = { a with failures := a.failures.put s.key failure } := by
  rw [add, hcookie]

/-- Switches add their cookies and their failures in order. -/
theorem foldl_add
    (switches : List Switch)
    (a : Authentication) :
    switches.foldl add a =
      ⟨(switches.filterMap cookiePair?).foldl (fun t e => t.put e.1 e.2) a.credentials,
        (switches.filterMap failurePair?).foldl (fun t e => t.put e.1 e.2) a.failures⟩ := by
  induction switches generalizing a with
  | nil =>
      rfl
  | cons s switches ih =>
      rw [List.foldl_cons, ih, List.filterMap_cons, List.filterMap_cons, cookiePair?,
        failurePair?]
      cases hcookie : s.cookie with
      | error failure =>
          rw [add_of_error a hcookie]
          rfl
      | ok cookie =>
          rw [add_of_ok a hcookie]
          rfl

end Authentication

theorem authentication_eq
    (switches : List Switch) :
    authentication switches =
      ⟨Table.ofList (switches.filterMap Authentication.cookiePair?),
        Table.ofList (switches.filterMap Authentication.failurePair?)⟩ :=
  Authentication.foldl_add switches .empty

variable {switches : List Switch}

/-- The credentials are the cookies of the switches. -/
theorem entries_credentials
    (hdistinct : (switches.map Switch.key).Nodup) :
    (authentication switches).credentials.entries =
      switches.filterMap Authentication.cookiePair? := by
  rw [authentication_eq]
  exact entries_ofList_filterMap Authentication.fst_of_cookiePair? hdistinct

theorem entries_failures
    (hdistinct : (switches.map Switch.key).Nodup) :
    (authentication switches).failures.entries =
      switches.filterMap Authentication.failurePair? := by
  rw [authentication_eq]
  exact entries_ofList_filterMap Authentication.fst_of_failurePair? hdistinct

theorem keys_failures
    (hdistinct : (switches.map Switch.key).Nodup) :
    (authentication switches).failures.keys =
      (switches.filter fun s => (Authentication.failurePair? s).isSome).map Switch.key := by
  rw [Table.keys, entries_failures hdistinct]
  exact map_fst_filterMap Authentication.fst_of_failurePair? switches

/-- Each key of the switches gets a cookie or a failure, and not both. -/
theorem keys_authentication_perm
    (hdistinct : (switches.map Switch.key).Nodup) :
    ((authentication switches).credentials.keys ++ (authentication switches).failures.keys).Perm
      (switches.map Switch.key) := by
  rw [keys_failures hdistinct, Table.keys, entries_credentials hdistinct,
    map_fst_filterMap Authentication.fst_of_cookiePair?, ← List.map_append]
  simp only [Authentication.isSome_failurePair?]
  exact (List.filter_append_perm _ switches).map Switch.key

/-- The credential under the key of a switch is the cookie of this switch. -/
theorem get?_credentials
    (hdistinct : (switches.map Switch.key).Nodup)
    {s : Switch}
    (hs : s ∈ switches) :
    (authentication switches).credentials.get? s.key = s.cookie.toOption := by
  have hentries := entries_credentials hdistinct
  cases hcookie : s.cookie with
  | ok cookie =>
      refine Table.get?_eq_some_of_mem ?_
      rw [hentries, List.mem_filterMap]
      exact ⟨s, hs, by rw [Authentication.cookiePair?, hcookie]; rfl⟩
  | error failure =>
      refine Table.get?_eq_none_of_not_mem fun hmem => ?_
      obtain ⟨e, he, hkey⟩ := List.mem_map.mp hmem
      rw [hentries, List.mem_filterMap] at he
      obtain ⟨s', hs', hpair⟩ := he
      obtain ⟨cookie, hcookie', rfl⟩ := Option.map_eq_some_iff.mp hpair
      have hsame : s' = s := List.inj_on_of_nodup_map hdistinct hs' hs hkey
      rw [hsame, hcookie] at hcookie'
      exact nomatch hcookie'

/-- Authenticating always gives the cookies and failures of the switches. -/
theorem fst_run_authenticate
    {τ : Type}
    (switches : List Switch)
    (verbose : Bool)
    (w : World τ) :
    ((authenticate switches verbose).run w).1 = authentication switches :=
  rfl

/-- A key is among the failures exactly if the switch with this key has no cookie. -/
theorem mem_keys_failures_iff
    (hdistinct : (switches.map Switch.key).Nodup)
    {s : Switch}
    (hs : s ∈ switches) :
    s.key ∈ (authentication switches).failures.keys ↔ ∃ failure, s.cookie = .error failure := by
  have hpair : (Authentication.failurePair? s).isSome ↔ ∃ failure, s.cookie = .error failure := by
    rw [Authentication.failurePair?]
    cases s.cookie <;> simp
  rw [keys_failures hdistinct, List.mem_map, ← hpair]
  constructor
  · rintro ⟨s', hs', hkey⟩
    obtain ⟨hs', hfailure⟩ := List.mem_filter.mp hs'
    rwa [List.inj_on_of_nodup_map hdistinct hs' hs hkey] at hfailure
  · exact fun hfailure => ⟨s, List.mem_filter.mpr ⟨hs, hfailure⟩, rfl⟩

end Results

end ManagedSwitch

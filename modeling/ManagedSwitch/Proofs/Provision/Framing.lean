import ManagedSwitch.Proofs.Http.Framing
import ManagedSwitch.Proofs.Provision.Application

/-!
# Requests for a switch on the wire

The fields of a configuration may be any texts.  The names of VLANs are escaped in the body of a
request; the address of a switch, its user and its response go into the head as they are.  So the
requests for a switch are framed exactly if these three have no line end in them.
-/

namespace ManagedSwitch
namespace Config

section Requests

variable {config : Config}

/-- The texts of a switch that stand in the head of its requests have no line end in them. -/
structure Plain
    (s : Switch)
    (auth : Auth) :
    Prop where
  address : Text.OneLine s.address
  user : Text.OneLine auth.user
  response : Text.OneLine auth.response

/-- The commands for a switch post forms to fixed targets. -/
theorem exists_post_of_mem_batch
    {s : Switch}
    {cookie : String}
    {c : Command}
    (hc : c ∈ (config.batch s cookie).commands) :
    ∃ path body, '\r' ∉ path.toList ∧ c.request = Form.post path s.address cookie body := by
  obtain ⟨id, name, codes, rfl⟩ | ⟨port, id, rfl⟩ := command_of_mem_batch hc
  · exact ⟨_, _, by decide, rfl⟩
  · exact ⟨_, _, by decide, rfl⟩

/-- In a well-formed configuration, the commands that are shown for a switch with authentication
post forms with its address and its cookie. -/
theorem WellFormed.exists_post
    (h : config.WellFormed)
    {s : Switch}
    (hs : s ∈ config.switches.values)
    {auth : Auth}
    (hauth : s.auth = some auth)
    {c : Command}
    (hc : c ∈ config.dryCommands ++ config.drySaves)
    (hkey : c.switchKey = s.key) :
    ∃ path body, '\r' ∉ path.toList ∧
      c.request = Form.post path s.address (auth.user ++ "=" ++ auth.response) body := by
  have hsame : ∀ s' ∈ config.switches.values, s'.key = s.key → s' = s :=
    fun _ hs' hkeys => List.inj_on_of_nodup_map h.nodup_map_key hs' hs hkeys
  rcases List.mem_append.mp hc with hc | hc
  · obtain ⟨b, hb, hc⟩ := List.mem_flatMap.mp hc
    obtain ⟨s', hs', rfl⟩ := List.mem_map.mp (List.mem_filter.mp hb).1
    have hcookie : cookieFor Table.empty s = auth.user ++ "=" ++ auth.response := by
      have hown : cookieFor Table.empty s = s.cookie.toOption.getD "" := rfl
      rw [hown, h.cookie hs, hauth, Option.map_some, Option.getD_some]
    cases hsame s' hs' ((switchKey_of_mem_batch hc).symm.trans hkey)
    rw [← hcookie]
    exact exists_post_of_mem_batch hc
  · obtain ⟨s', hs', hsave⟩ := List.mem_filterMap.mp hc
    obtain ⟨auth', hauth', rfl⟩ := Option.map_eq_some_iff.mp hsave
    cases hsame s' hs' hkey
    rw [hauth] at hauth'
    cases hauth'
    exact ⟨_, _, by decide, rfl⟩

/-- The equality sign keeps the parts of a cookie from meeting in a line end. -/
theorem oneLine_cookie_iff
    (auth : Auth) :
    Text.OneLine (auth.user ++ "=" ++ auth.response) ↔
      Text.OneLine auth.user ∧ Text.OneLine auth.response := by
  have hsign : Text.OneLine "=" :=
    Text.oneLine_of_not_mem (by decide)
  have hfirst : '\n' ∉ "=".toList.head? := by
    decide
  have hlast : '\r' ∉ (auth.user ++ "=").toList.getLast? := by
    simp
  rw [Text.oneLine_append_iff fun h => absurd h hlast, Text.oneLine_append_iff fun _ => hfirst,
    and_iff_left hsign]

/-- The requests for a switch with authentication have the headers of forms with the number of bytes
that their body has.  They are framed exactly if the address, the user and the response of the
switch have no line end in them. -/
theorem framed_iff_of_read
    {d : Document}
    (hread : read d = .ok config)
    {s : Switch}
    (hs : s ∈ config.switches.values)
    {auth : Auth}
    (hauth : s.auth = some auth)
    {c : Command}
    (hc : c ∈ config.dryCommands ++ config.drySaves)
    (hkey : c.switchKey = s.key) :
    c.request.headers =
        Form.headers s.address (auth.user ++ "=" ++ auth.response) c.request.body ∧
      ("Content-Length", Number.natText (Text.Utf8.encode c.request.body).length) ∈
        c.request.headers ∧
      (c.request.Framed ↔ Plain s auth) := by
  obtain ⟨path, body, hpath, hrequest⟩ := (wellFormed_of_read hread).exists_post hs hauth hc hkey
  rw [hrequest, Form.framed_post_iff hpath, oneLine_cookie_iff]
  refine ⟨rfl, by simp [Form.post, Form.headers, Text.Utf8.size], ?_⟩
  exact ⟨fun h => ⟨h.1, h.2.1, h.2.2⟩, fun h => ⟨h.address, h.user, h.response⟩⟩

/-- The command that saves the configuration of the first switch. -/
def firstSave : Command :=
  (Target.mk "a" "10.0.0.1" "admin=0123").save

theorem framed_iff_twoSwitches :
    firstSwitch ∈ twoSwitchesConfig.switches.values ∧
      firstSave ∈ twoSwitchesConfig.dryCommands ++ twoSwitchesConfig.drySaves ∧
      firstSave.request.headers =
        Form.headers "10.0.0.1" ("admin" ++ "=" ++ "0123") firstSave.request.body ∧
      ("Content-Length", Number.natText (Text.Utf8.encode firstSave.request.body).length) ∈
        firstSave.request.headers ∧
      (firstSave.request.Framed ↔ Plain firstSwitch ⟨"xike", "admin", "secret", "0123"⟩) := by
  have hs : firstSwitch ∈ twoSwitchesConfig.switches.values :=
    List.mem_cons_self
  have hc : firstSave ∈ twoSwitchesConfig.dryCommands ++ twoSwitchesConfig.drySaves :=
    List.mem_append_right _ List.mem_cons_self
  exact ⟨hs, hc, framed_iff_of_read read_twoSwitches hs rfl hc rfl⟩

/-- A document with a line end and a line of a head in the response of its switch. -/
def injectingDocument : Document :=
  .map [
    (.text "vlans", .map [(.int 10, .text "data")]),
    (.text "templates", .map []),
    (.text "switches", .map [
      (.text "a", .map [
        (.text "name", .text "A"), (.text "address", .text "10.0.0.1"), (.text "ports", .list []),
        (.text "auth", .map [
          (.text "type", .text "xike"), (.text "user", .text "admin"),
          (.text "pass", .text "secret"),
          (.text "resp", .text "0123\r\nX-Injected: 1")])])])]

/-- The authentication of the switch in `injectingDocument`. -/
def injectingAuth : Auth :=
  ⟨"xike", "admin", "secret", "0123\r\nX-Injected: 1"⟩

/-- The configuration of `injectingDocument`. -/
def injectingConfig : Config where
  vlans := twoSwitchesConfig.vlans
  templates := Table.empty
  switches := ⟨[("a", ⟨"a", "A", "10.0.0.1", some injectingAuth, []⟩)], by decide⟩

theorem read_injectingDocument :
    read injectingDocument = .ok injectingConfig := by
  have hten : Identifies (.int 10) 10 :=
    ⟨rfl, ⟨"10", by decide +kernel, by decide +kernel⟩, by decide⟩
  have hvlans : List.Forall₂ IsVlan [(.int 10, .text "data")] [(10, "data")] :=
    .cons ⟨hten, rfl, rfl⟩ .nil
  rw [read_eq_ok_iff]
  refine ⟨_, _, _, _, rfl, ⟨rfl, hvlans⟩, ⟨rfl, [], .nil, rfl⟩, rfl,
    injectingConfig.switches.entries, .cons ⟨⟨rfl, rfl⟩, rfl, ?_⟩ .nil, rfl⟩
  refine ⟨_, _, rfl, rfl, .nil, ⟨_, rfl, rfl, rfl⟩, ⟨_, rfl, rfl, rfl⟩, Or.inr ?_⟩
  exact ⟨_, _, rfl, rfl, _, rfl, ⟨_, rfl, rfl, rfl⟩, rfl, ⟨_, rfl, rfl, rfl⟩, ⟨_, rfl, rfl, rfl⟩,
    ⟨_, rfl, rfl, rfl⟩⟩

/-- The command for the VLAN of this accepted configuration is not framed. -/
theorem not_framed_injectingDocument :
    read injectingDocument = .ok injectingConfig ∧
      ∃ s ∈ injectingConfig.switches.values, s.auth = some injectingAuth ∧
        ∃ c ∈ injectingConfig.dryCommands, c.switchKey = s.key ∧ ¬c.request.Framed := by
  refine ⟨read_injectingDocument, _, List.mem_singleton_self _, rfl, _, List.mem_singleton_self _,
    rfl, fun hframed => ?_⟩
  have hcookie : Text.OneLine "admin=0123\r\nX-Injected: 1" :=
    ((Form.framed_post_iff (by decide)).mp hframed).2
  exact hcookie ⟨"admin=0123".toList, "X-Injected: 1".toList, rfl⟩

end Requests

end Config
end ManagedSwitch

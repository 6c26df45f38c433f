import ManagedSwitch.Proofs.Net.Stillness
import ManagedSwitch.Proofs.Provision.Application

/-!
# Switches do not affect each other

Applying a configuration goes through its switches one after the other, with one client and one
table of credentials.  A switch that has its address for itself still gets what it would get alone:
`Config.portion` computes, from the switch and from the exchanges that its address has ahead, the
requests that it is sent and its entries in both reports, and `WellFormed.shows_portion` says that
this is what a whole run shows of the switch, provided that no step of an exchange consumes time.
Time is the one thing that the switches have in common.

The entries of a switch are found among all entries in two steps: the answers of its address are
found among all answers (`Tells.filter`), and answered by its own exchanges (`answers_of_still`).
-/

namespace ManagedSwitch

section Extraction

variable {τ : Type} {credentials : Credentials} {host key : String} {bs own : List Batch}

/-- The commands of the batches with the key go to the host, and no others do. -/
def Separates
    (host key : String)
    (bs : List Batch) :
    Prop :=
  ∀ b ∈ bs, ∀ c ∈ b.commands, c.address = host ↔ b.switchKey = key

/-- Of the batches, those with the key are the given ones, and the host is theirs. -/
structure Owns
    (host key : String)
    (bs own : List Batch) :
    Prop where
  separates : Separates host key bs
  filter_eq : (bs.filter fun b => b.switchKey == key) = own

/-- The calls depend on the cookies only as to which batches there are cookies for. -/
theorem authenticatedCalls_congr
    (timeout : τ)
    {credentials credentials' : Credentials}
    (hcontains : ∀ b ∈ bs, credentials.contains b.switchKey = credentials'.contains b.switchKey) :
    authenticatedCalls timeout credentials bs = authenticatedCalls timeout credentials' bs := by
  rw [authenticatedCalls, authenticatedCalls, List.filter_congr hcontains]

/-- The calls for a batch go to the host exactly if the batch has the key. -/
theorem Separates.host_iff
    {b : Batch}
    (hseparates : Separates host key (b :: bs))
    {timeout : τ}
    {c : Call τ}
    (hc : c ∈ callsFor timeout b.commands) :
    c.host = host ↔ b.switchKey = key := by
  obtain ⟨d, hd, rfl⟩ := List.mem_map.mp hc
  exact hseparates b List.mem_cons_self d hd

theorem Separates.tail
    {b : Batch}
    (hseparates : Separates host key (b :: bs)) :
    Separates host key bs :=
  fun b' hb' => hseparates b' (List.mem_cons_of_mem b hb')

theorem timeout_of_mem_authenticatedCalls
    {timeout : τ}
    {c : Call τ}
    (hc : c ∈ authenticatedCalls timeout credentials bs) :
    c.timeout = timeout := by
  obtain ⟨d, -, rfl⟩ := List.mem_map.mp hc
  rfl

/-- The calls to a host are those for the batches with its key. -/
theorem Separates.filter_authenticatedCalls
    (hseparates : Separates host key bs)
    (timeout : τ)
    (credentials : Credentials) :
    ((authenticatedCalls timeout credentials bs).filter fun c => c.host == host) =
      authenticatedCalls timeout credentials (bs.filter fun b => b.switchKey == key) := by
  induction bs with
  | nil =>
      rfl
  | cons b bs ih =>
      have hrest := ih hseparates.tail
      rw [List.filter_cons]
      by_cases hcookie : credentials.contains b.switchKey
      · rw [authenticatedCalls_cons_of_contains timeout hcookie, List.filter_append, hrest]
        by_cases hkey : b.switchKey = key
        · rw [if_pos (beq_iff_eq.mpr hkey), authenticatedCalls_cons_of_contains timeout hcookie,
            List.filter_eq_self.mpr]
          exact fun c hc => beq_iff_eq.mpr ((hseparates.host_iff hc).mpr hkey)
        · rw [if_neg (by rwa [beq_iff_eq]), List.filter_eq_nil_iff.mpr, List.nil_append]
          exact fun c hc heq => hkey ((hseparates.host_iff hc).mp (beq_iff_eq.mp heq))
      · rw [authenticatedCalls_cons_of_not_contains timeout hcookie, hrest]
        split
        · rw [authenticatedCalls_cons_of_not_contains timeout hcookie]
        · rfl

theorem Owns.filter_authenticatedCalls
    (howns : Owns host key bs own)
    (timeout : τ)
    (credentials : Credentials) :
    ((authenticatedCalls timeout credentials bs).filter fun c => c.host == host) =
      authenticatedCalls timeout credentials own := by
  rw [howns.separates.filter_authenticatedCalls, howns.filter_eq]

variable [Seconds τ]

/-- The entries with a key tell of the batches with the key, by the answers of their host. -/
theorem Tells.filter
    {answers : List (Answer τ)}
    {rs : List SwitchReport}
    (h : Tells credentials bs answers rs)
    (hseparates : Separates host key bs)
    (timeout : τ) :
    Tells credentials (bs.filter fun b => b.switchKey == key)
      (Client.heardFrom host (authenticatedCalls timeout credentials bs) answers)
      (rs.filter fun r => r.switchKey == key) := by
  induction h with
  | nil =>
      exact .nil
  | @executed b heard outcomes bs answers rs hcookie htold _ ih =>
      have hrest := ih hseparates.tail
      have hlength : heard.length = (callsFor timeout b.commands).length := by
        rw [htold.length_eq, callsFor, List.length_map]
      rw [authenticatedCalls_cons_of_contains timeout hcookie,
        Client.heardFrom_append host hlength, List.filter_cons, List.filter_cons]
      by_cases hkey : b.switchKey = key
      · rw [if_pos (beq_iff_eq.mpr hkey), if_pos (beq_iff_eq.mpr hkey),
          Client.heardFrom_of_forall_eq hlength fun c hc => (hseparates.host_iff hc).mpr hkey]
        exact .executed hcookie htold hrest
      · rw [if_neg (by rwa [beq_iff_eq]), if_neg (by rwa [beq_iff_eq]),
          Client.heardFrom_of_forall_ne fun c hc heq => hkey ((hseparates.host_iff hc).mp heq),
          List.nil_append]
        exact hrest
  | @skipped b bs answers rs hcookie _ ih =>
      have hrest := ih hseparates.tail
      have hkeys :
          ((SwitchReport.unauthenticated b.switchKey b.address).switchKey == key) =
            (b.switchKey == key) :=
        rfl
      rw [authenticatedCalls_cons_of_not_contains timeout hcookie, List.filter_cons,
        List.filter_cons, hkeys]
      by_cases hkey : b.switchKey = key
      · rw [if_pos (beq_iff_eq.mpr hkey), if_pos (beq_iff_eq.mpr hkey)]
        exact .skipped hcookie hrest
      · rw [if_neg (by rwa [beq_iff_eq]), if_neg (by rwa [beq_iff_eq])]
        exact hrest

theorem Tells.filter_of_owns
    {answers : List (Answer τ)}
    {rs : List SwitchReport}
    (h : Tells credentials bs answers rs)
    (howns : Owns host key bs own)
    (timeout : τ) :
    Tells credentials own
      (Client.heardFrom host (authenticatedCalls timeout credentials bs) answers)
      (rs.filter fun r => r.switchKey == key) := by
  rw [← howns.filter_eq]
  exact h.filter howns.separates timeout

/-- Where all calls to a host are replied to by the exchanges that it has ahead, the entries with
its key tell of its batches by these replies: first those of one list of batches, then those of a
second one. -/
theorem Tells.replied
    {bs' own' : List Batch}
    {heard later : List (Answer τ)}
    {rs rs' : List SwitchReport}
    {timeout : τ}
    {late : Bool}
    {ahead : List (Exchange τ)}
    (h : Tells credentials bs heard rs)
    (h' : Tells credentials bs' later rs')
    (howns : Owns host key bs own)
    (howns' : Owns host key bs' own')
    (hreplies :
      Client.heardFrom host
          (authenticatedCalls timeout credentials bs ++ authenticatedCalls timeout credentials bs')
          (heard ++ later) =
        (Client.replies late
          ((authenticatedCalls timeout credentials bs ++
            authenticatedCalls timeout credentials bs').filter fun c => c.host == host)
          ahead).answers) :
    let first := Client.replies late (authenticatedCalls timeout credentials own) ahead
    let second := Client.replies late (authenticatedCalls timeout credentials own') first.ahead
    Tells credentials own first.answers (rs.filter fun r => r.switchKey == key) ∧
      Tells credentials own' second.answers (rs'.filter fun r => r.switchKey == key) := by
  obtain ⟨hfirst, hsecond⟩ := Client.heardFrom_eq_of_append (h.length_eq timeout) hreplies
  rw [howns.filter_authenticatedCalls] at hfirst
  rw [howns.filter_authenticatedCalls, howns'.filter_authenticatedCalls] at hsecond
  intro first second
  rw [← hfirst, ← hsecond]
  exact ⟨h.filter_of_owns howns timeout, h'.filter_of_owns howns' timeout⟩

/-- The entry that answers give for a batch. -/
def Batch.told
    (credentials : Credentials)
    (b : Batch)
    (heard : List (Answer τ)) :
    SwitchReport :=
  if credentials.contains b.switchKey then
    ⟨b.switchKey, b.address, List.zipWith Outcome.ofAnswer (b.commands.zipIdx 1) heard⟩
  else
    .unauthenticated b.switchKey b.address

/-- There is one entry for one batch. -/
theorem Tells.eq_told
    {b : Batch}
    {heard : List (Answer τ)}
    {rs : List SwitchReport}
    (h : Tells credentials [b] heard rs) :
    rs = [b.told credentials heard] := by
  cases h with
  | executed hcookie htold hrest =>
      cases hrest with
      | nil =>
          rw [List.append_nil, Batch.told, if_pos hcookie, htold.outcomes_eq]
  | skipped hcookie hrest =>
      cases hrest with
      | nil =>
          rw [Batch.told, if_neg hcookie]

end Extraction

namespace Config

section Portions

variable {τ : Type} [Seconds τ]

/-- What applying a configuration has to do with one switch: the requests that are sent to it, and
its entries in the reports. -/
structure Portion where
  sent : List Bytes
  execution : SwitchReport
  saved : Option SwitchReport

/-- The portion of a switch, given the exchanges that its address has ahead.  No step takes time;
`late` says that the deadline of every call passes at once. -/
def portion
    (config : Config)
    (options : ApplyOptions τ)
    (credentials : Credentials)
    (s : Switch)
    (late : Bool)
    (ahead : List (Exchange τ)) :
    Portion :=
  let batch := config.batch s (cookieFor credentials s)
  let saves := savedBatches options credentials [s]
  let first :=
    Client.replies late (authenticatedCalls options.timeout credentials [batch]) ahead
  let second :=
    Client.replies late (authenticatedCalls options.timeout credentials saves) first.ahead
  { sent := first.sent ++ second.sent
    execution := batch.told credentials first.answers
    saved :=
      if options.save then some ((saveBatch credentials s).told credentials second.answers)
      else none }

/-- A run of applying a configuration comes to an end, and shows the portion of a switch: it sends
the requests to the address of the switch, and its reports have the entries under the key of the
switch and no others. -/
def Shows
    (config : Config)
    (options : ApplyOptions τ)
    (w : World τ)
    (s : Switch)
    (portion : Portion) :
    Prop :=
  ∃ application, ((config.apply options).run w).1 = .ok application ∧
    sentTo s.address false ((config.apply options).run w).2.journal =
      sentTo s.address false w.journal ++ portion.sent ∧
    (application.execution.switches.filter fun r => r.switchKey == s.key) = [portion.execution] ∧
    (application.save.map fun report => report.switches.filter fun r => r.switchKey == s.key) =
      portion.saved.map fun r => [r]

end Portions

section Owning

variable {τ : Type}

/-- The switch is in the configuration, and no other switch has its address. -/
structure HasAlone
    (config : Config)
    (s : Switch) :
    Prop where
  mem : s ∈ config.switches.values
  alone : ∀ s' ∈ config.switches.values, s'.address = s.address → s' = s

variable {config : Config} {s : Switch}

/-- Where every switch has a batch with commands that go to it, a switch with an address of its own
owns its batch. -/
theorem WellFormed.owns_map
    (h : config.WellFormed)
    (hs : config.HasAlone s)
    {batchFor : Switch → Batch}
    (hkey : ∀ s', (batchFor s').switchKey = s'.key)
    (haddress : ∀ s', ∀ c ∈ (batchFor s').commands, c.address = s'.address) :
    Owns s.address s.key (config.switches.values.map batchFor) [batchFor s] := by
  constructor
  case separates =>
    intro b hb c hc
    obtain ⟨s', hs', rfl⟩ := List.mem_map.mp hb
    rw [haddress s' c hc, hkey]
    constructor
    · exact fun heq => congrArg Switch.key (hs.alone s' hs' heq)
    · intro heq
      rw [List.inj_on_of_nodup_map h.nodup_map_key hs' hs.mem heq]
  case filter_eq =>
    have hkeys : Batch.switchKey ∘ batchFor = Switch.key := funext hkey
    have hnodup : ((config.switches.values.map batchFor).map Batch.switchKey).Nodup := by
      rw [List.map_map, hkeys]
      exact h.nodup_map_key
    rw [← hkey s]
    exact filter_key_eq hnodup (List.mem_map_of_mem hs.mem)

theorem WellFormed.owns_compile
    (h : config.WellFormed)
    (hs : config.HasAlone s)
    (credentials : Credentials) :
    Owns s.address s.key (config.compile credentials).batches
      [config.batch s (cookieFor credentials s)] :=
  h.owns_map hs (fun _ => rfl) fun _ _ hc => address_of_mem_batch hc

theorem WellFormed.owns_savedBatches
    (h : config.WellFormed)
    (hs : config.HasAlone s)
    (options : ApplyOptions τ)
    (credentials : Credentials) :
    Owns s.address s.key (savedBatches options credentials config.switches.values)
      (savedBatches options credentials [s]) := by
  rw [savedBatches, savedBatches]
  split
  · exact h.owns_map hs (fun _ => rfl) fun _ _ hc => List.mem_singleton.mp hc ▸ rfl
  · exact ⟨fun _ hb => absurd hb List.not_mem_nil, rfl⟩

end Owning

section Showing

variable {τ : Type} [Seconds τ] {config : Config} {s : Switch}

/-- Applying a well-formed configuration shows of a switch with an address of its own what comes of
its own commands and exchanges. -/
theorem WellFormed.shows_portion
    (h : config.WellFormed)
    (hs : config.HasAlone s)
    {options : ApplyOptions τ}
    (hworkers : ∀ n ∈ options.workers, 0 ≤ n)
    {w : World τ}
    (hstill : w.Still) :
    config.Shows options w s
      (config.portion options (authentication config.switches.values).credentials s
        (Client.isLate w.clock options.timeout) (w.network.ahead s.address)) := by
  obtain ⟨credentials, hcredentials⟩ :
      ∃ credentials, credentials = (authentication config.switches.values).credentials :=
    ⟨_, rfl⟩
  rw [← hcredentials]
  obtain ⟨-, ⟨application, heard, later, reports, hresult, hanswers, htells, hsaved, htold⟩,
    hcourse⟩ := hears_apply config options hworkers hcredentials w
  have hbatches : ((config.compile credentials).batches.map Batch.switchKey).Nodup := by
    rw [compile, List.map_map]
    exact h.nodup_map_key
  have hexecuted := h.owns_compile hs credentials
  have hsaves := h.owns_savedBatches hs options credentials
  have hlate :
      ∀ c ∈ authenticatedCalls options.timeout credentials (config.compile credentials).batches ++
          authenticatedCalls options.timeout credentials
            (savedBatches options credentials config.switches.values),
        Client.isLate w.clock options.timeout = Client.isLate w.clock c.timeout := by
    intro c hc
    rw [← authenticatedCalls_append] at hc
    rw [timeout_of_mem_authenticatedCalls hc]
  -- The run is compared with the bare calls, and these are answered by one host as if alone.
  obtain ⟨hheard, es, hes, hsent⟩ := Client.answers_of_still hstill hlate s.address
  rw [hanswers] at hheard
  obtain ⟨hentry, hentries⟩ := (htells hbatches).replied htold hexecuted hsaves hheard
  refine ⟨application, hresult, ?_, hentry.eq_told, ?_⟩
  · rw [List.filter_append, hexecuted.filter_authenticatedCalls, hsaves.filter_authenticatedCalls,
      Client.replies_append] at hsent
    obtain ⟨talking, htalking⟩ := exists_sentTo_append s.address false w.journal
    have hwire := congrArg (fun course => course.2.2) hcourse
    simp only [World.course] at hwire
    -- What is printed and recorded between the calls sends nothing.
    rw [← sentTo_wire, hwire, sentTo_wire, hes, htalking, hsent]
    rfl
  · rw [hsaved, portion]
    by_cases hsave : options.save
    · have hbatch : savedBatches options credentials [s] = [saveBatch credentials s] :=
        if_pos hsave
      rw [hbatch] at hentries
      rw [if_pos hsave, if_pos hsave, hbatch]
      exact congrArg some hentries.eq_told
    · rw [if_neg hsave, if_neg hsave]
      rfl

theorem batch_congr
    {config₁ config₂ : Config}
    (hvlans : config₁.vlans = config₂.vlans)
    (htemplates : config₁.templates = config₂.templates)
    (s : Switch)
    (cookie : String) :
    config₁.batch s cookie = config₂.batch s cookie := by
  obtain ⟨vlans, templates, switches⟩ := config₁
  obtain ⟨vlans', templates', switches'⟩ := config₂
  cases hvlans
  cases htemplates
  rfl

/-- The portion of a switch depends on the VLANs, the templates and the cookie of the switch; the
other switches and their cookies make no difference. -/
theorem portion_congr
    {config₁ config₂ : Config}
    (hvlans : config₁.vlans = config₂.vlans)
    (htemplates : config₁.templates = config₂.templates)
    {options₁ options₂ : ApplyOptions τ}
    (htimeout : options₁.timeout = options₂.timeout)
    (hsave : options₁.save = options₂.save)
    {credentials₁ credentials₂ : Credentials}
    (hcookie : credentials₁.get? s.key = credentials₂.get? s.key)
    (late : Bool)
    (ahead : List (Exchange τ)) :
    config₁.portion options₁ credentials₁ s late ahead =
      config₂.portion options₂ credentials₂ s late ahead := by
  have hcontains :
      ∀ b : Batch, b.switchKey = s.key →
        credentials₁.contains b.switchKey = credentials₂.contains b.switchKey := by
    intro b hb
    rw [hb, Table.contains_eq_isSome_get?, Table.contains_eq_isSome_get?, hcookie]
  have hbatch :
      config₁.batch s (cookieFor credentials₁ s) = config₂.batch s (cookieFor credentials₂ s) := by
    rw [cookieFor, cookieFor, hcookie]
    exact batch_congr hvlans htemplates s _
  have hsaveBatch : saveBatch credentials₁ s = saveBatch credentials₂ s := by
    rw [saveBatch, saveBatch, hcookie]
  have hsaved :
      savedBatches options₁ credentials₁ [s] = savedBatches options₂ credentials₂ [s] := by
    rw [savedBatches, savedBatches, hsave, List.map_singleton, List.map_singleton, hsaveBatch]
  have hkeys : ∀ b ∈ savedBatches options₂ credentials₂ [s], b.switchKey = s.key := by
    intro b hb
    rw [savedBatches] at hb
    split at hb
    · cases List.mem_singleton.mp hb
      rfl
    · exact absurd hb List.not_mem_nil
  have hown : ∀ b ∈ [config₂.batch s (cookieFor credentials₂ s)], b.switchKey = s.key :=
    List.forall_mem_singleton.mpr rfl
  have hexecuting :=
    authenticatedCalls_congr options₂.timeout fun b hb => hcontains b (hown b hb)
  have hsaving :=
    authenticatedCalls_congr options₂.timeout fun b hb => hcontains b (hkeys b hb)
  simp only [portion, hbatch, hsaveBatch, hsaved, htimeout, hsave, hexecuting, hsaving, Batch.told,
    hcontains _ (show (config₂.batch s _).switchKey = s.key from rfl),
    hcontains _ (show (saveBatch credentials₂ s).switchKey = s.key from rfl)]

end Showing

section Applying

variable {τ : Type} [Seconds τ]

/-- Switches do not affect each other.  Two configurations that are read have VLANs and templates in
common and a switch with an address of its own; they are applied with one timeout, in worlds in
which no step consumes time and this address has the same exchanges ahead.  Then both runs show the
same requests to the address and the same entries of the switch, whatever the other switches and
their exchanges are.

The timeout is added to the clock and the clock taken off again, which may leave nothing on doubles;
the two clocks have to agree on that. -/
theorem apply_shows_same
    {d₁ d₂ : Document}
    {config₁ config₂ : Config}
    (hread₁ : read d₁ = .ok config₁)
    (hread₂ : read d₂ = .ok config₂)
    (hvlans : config₁.vlans = config₂.vlans)
    (htemplates : config₁.templates = config₂.templates)
    {s : Switch}
    (hs₁ : config₁.HasAlone s)
    (hs₂ : config₂.HasAlone s)
    {options₁ options₂ : ApplyOptions τ}
    (htimeout : options₁.timeout = options₂.timeout)
    (hsave : options₁.save = options₂.save)
    (hworkers₁ : ∀ n ∈ options₁.workers, 0 ≤ n)
    (hworkers₂ : ∀ n ∈ options₂.workers, 0 ≤ n)
    {v w : World τ}
    (hv : v.Still)
    (hw : w.Still)
    (hlate : Client.isLate v.clock options₁.timeout = Client.isLate w.clock options₂.timeout)
    (hahead : v.network.ahead s.address = w.network.ahead s.address) :
    ∃ portion, config₁.Shows options₁ v s portion ∧ config₂.Shows options₂ w s portion := by
  have hshows := (wellFormed_of_read hread₁).shows_portion hs₁ hworkers₁ hv
  have hcookie :
      (authentication config₁.switches.values).credentials.get? s.key =
        (authentication config₂.switches.values).credentials.get? s.key := by
    rw [ManagedSwitch.get?_credentials (wellFormed_of_read hread₁).nodup_map_key hs₁.mem,
      ManagedSwitch.get?_credentials (wellFormed_of_read hread₂).nodup_map_key hs₂.mem]
  rw [portion_congr hvlans htemplates htimeout hsave hcookie, hlate, hahead] at hshows
  exact ⟨_, hshows, (wellFormed_of_read hread₂).shows_portion hs₂ hworkers₂ hw⟩

/-- A document with the first switch of `twoSwitches` behind another one. -/
def lateDocument : Document :=
  .map [
    (.text "vlans", .map [(.int 10, .text "data")]),
    (.text "templates", .map [(.text "access", .map [(.int 10, .text "pvid")])]),
    (.text "switches", .map [
      (.text "c", .map [
        (.text "name", .text "C"), (.text "address", .text "10.0.0.3"), (.text "ports", .list []),
        (.text "auth", .map [
          (.text "type", .text "xike"), (.text "user", .text "root"),
          (.text "pass", .text "secret"), (.text "resp", .text "4567")])]),
      (.text "a", .map [
        (.text "name", .text "A"), (.text "address", .text "10.0.0.1"),
        (.text "ports", .list [.map [(.text "name", .int 1), (.text "template", .text "access")]]),
        (.text "auth", .map [
          (.text "type", .text "xike"), (.text "user", .text "admin"),
          (.text "pass", .text "secret"), (.text "resp", .text "0123")])])])]

/-- The configuration of `lateDocument`. -/
def lateConfig : Config :=
  { twoSwitchesConfig with
    switches := Table.ofList [
      ("c", ⟨"c", "C", "10.0.0.3", some ⟨"xike", "root", "secret", "4567"⟩, []⟩),
      ("a", firstSwitch)] }

theorem read_lateDocument :
    read lateDocument = .ok lateConfig := by
  refine read_of_switches (.cons ⟨⟨rfl, rfl⟩, rfl, ?_⟩ (.cons isKeyedSwitch_firstSwitch .nil))
  refine ⟨_, _, rfl, rfl, .nil, ⟨_, rfl, rfl, rfl⟩, ⟨_, rfl, rfl, rfl⟩, Or.inr ?_⟩
  exact ⟨_, _, rfl, rfl, _, rfl, ⟨_, rfl, rfl, rfl⟩, rfl, ⟨_, rfl, rfl, rfl⟩, ⟨_, rfl, rfl, rfl⟩,
    ⟨_, rfl, rfl, rfl⟩⟩

/-- An exchange without delay, in which connecting may fail and a text arrives. -/
def promptExchange
    (trouble : Option Trouble)
    (answer : String) :
    Exchange Float :=
  ⟨none, [⟨0, trouble⟩], ⟨0, none⟩, [.bytes (Text.Utf8.encode answer)]⟩

theorem promptExchange_instant
    {now : Float}
    (hnow : now + 0 = now)
    (trouble : Option Trouble)
    (answer : String) :
    (promptExchange trouble answer).Instant now where
  connecting := List.forall_mem_singleton.mpr (Step.instant_of_took_eq_zero hnow rfl)
  sending := Step.instant_of_took_eq_zero hnow rfl
  waiting := fun _ hs => nomatch List.mem_singleton.mp hs

/-- A world in which the address of the first switch answers. -/
def answeringWorld : World Float :=
  ⟨0, ⟨[("10.0.0.1", [promptExchange none "HTTP/1.1 200 OK\r\n\r\n"])], by decide⟩, []⟩

/-- A world in which another address does not answer. -/
def troubledWorld : World Float :=
  ⟨1000, ⟨[("10.0.0.3", [promptExchange (some .timeout) ""]),
    ("10.0.0.1", [promptExchange none "HTTP/1.1 200 OK\r\n\r\n"])], by decide⟩, []⟩

theorem apply_shows_same_lateConfig :
    twoSwitchesConfig.HasAlone firstSwitch ∧ lateConfig.HasAlone firstSwitch ∧
      answeringWorld.Still ∧ troubledWorld.Still ∧
      ∃ portion, twoSwitchesConfig.Shows savingOptions answeringWorld firstSwitch portion ∧
        lateConfig.Shows savingOptions troubledWorld firstSwitch portion := by
  have hs₁ : twoSwitchesConfig.HasAlone firstSwitch := by
    refine ⟨List.mem_cons_self, ?_⟩
    decide
  have hs₂ : lateConfig.HasAlone firstSwitch := by
    refine ⟨List.mem_cons_of_mem _ List.mem_cons_self, ?_⟩
    decide
  have hv : answeringWorld.Still := by
    refine World.still_of_forall (List.forall_mem_singleton.mpr (List.forall_mem_singleton.mpr ?_))
    exact promptExchange_instant (by decide) _ _
  have hw : troubledWorld.Still := by
    refine World.still_of_forall (List.forall_mem_cons.mpr ⟨List.forall_mem_singleton.mpr ?_,
      List.forall_mem_singleton.mpr (List.forall_mem_singleton.mpr ?_)⟩)
    · exact promptExchange_instant (by decide) _ _
    · exact promptExchange_instant (by decide) _ _
  have hworkers : ∀ n ∈ savingOptions.workers, 0 ≤ n :=
    nofun
  have hlate :
      Client.isLate answeringWorld.clock savingOptions.timeout =
        Client.isLate troubledWorld.clock savingOptions.timeout := by
    decide
  exact ⟨hs₁, hs₂, hv, hw, apply_shows_same read_twoSwitches read_lateDocument rfl rfl hs₁ hs₂ rfl
    rfl hworkers hworkers hv hw hlate rfl⟩

end Applying

end Config

end ManagedSwitch

import ManagedSwitch.Proofs.Config.Outcome
import ManagedSwitch.Proofs.Net.Troubles
import ManagedSwitch.Proofs.Provision.Isolation
import ManagedSwitch.Proofs.Stats.Scraping
import ManagedSwitch.Proofs.Text.FeedFree

/-!
# Line feeds in metrics

The metrics are one text with a line feed behind each line.  What a switch sends gets into a line
only as a number, quoted or normalized, and none of these has a line feed; but nothing is done about
line feeds in keys, addresses and port names.  So the lines can be told apart again exactly if the
configured texts that are shown have no line feed (`splitOn_collect_iff`).
-/

namespace ManagedSwitch

open Text (FeedFree feedFree_append feedFree_ofList feedFree_quote feedFree_quoteBytes)

section Messages

/-- The trouble is a timeout, or its reason has no line feed. -/
def Trouble.FeedFree : Trouble → Prop
  | .timeout => True
  | .failure reason => Text.FeedFree reason

theorem HostName.Fault.feedFree_message
    (fault : HostName.Fault) :
    FeedFree fault.message := by
  cases fault <;> exact .ofChars (by decide)

theorem Response.Fault.feedFree_message
    (fault : Response.Fault) :
    FeedFree fault.message := by
  cases fault with
  | noEmptyLine size start =>
      refine .append (.append (.append ?_ (Number.feedFree_natText size)) ?_)
        (feedFree_quoteBytes start)
      · exact .ofChars (by decide)
      · exact .ofChars (by decide)
  | noStatus line =>
      exact .append (.ofChars (by decide)) (feedFree_quote line)

theorem PortStats.BadCounter.feedFree_message
    (bad : PortStats.BadCounter) :
    FeedFree bad.message := by
  refine .append (.append (.append ?_ (feedFree_quote bad.text)) ?_)
    (Number.feedFree_natText bad.row)
  · exact .ofChars (by decide)
  · exact .ofChars (by decide)

/-- The trouble that the client finds by itself has the host in its reason at most. -/
theorem Client.OwnTrouble.feedFree
    {host : String}
    (hhost : FeedFree host)
    {t : Trouble}
    (ht : OwnTrouble host t) :
    t.FeedFree := by
  cases ht with
  | timeout =>
      trivial
  | fault fault =>
      exact fault.feedFree_message
  | unknown =>
      exact (.ofChars (by decide) : FeedFree "[Errno -2] Name or service not known")
  | noAddress =>
      exact .append (.ofChars (by decide)) hhost

/-- Messages of the client have the host and the reason of the trouble in them. -/
theorem Client.Error.StemsFrom.feedFree_message
    {c : Call Float}
    (hhost : FeedFree c.host)
    {e : Error Float}
    (he : e.StemsFrom Trouble.FeedFree c) :
    FeedFree e.message := by
  have hplace :
      ∀ word, FeedFree word → FeedFree (word ++ c.host ++ ":" ++ Number.text c.port) := by
    intro word hword
    exact .append (.append (hword.append hhost) (.ofChars (by decide)))
      (Number.feedFree_text c.port)
  obtain ⟨t, ht, rfl⟩ | ⟨fault, rfl⟩ := he
  · replace ht : t.FeedFree := ht.elim id (OwnTrouble.feedFree hhost)
    cases t with
    | timeout =>
        refine .append (.append (.append ?_ ?_) (Number.Binary64.feedFree_briefText c.timeout)) ?_
        · exact hplace "Request to " (.ofChars (by decide))
        · exact .ofChars (by decide)
        · exact .ofChars (by decide)
    | failure reason =>
        refine .append (.append ?_ ?_) ht
        · exact hplace "Connection to " (.ofChars (by decide))
        · exact .ofChars (by decide)
  · exact fault.feedFree_message

end Messages

section Pages

namespace PortStats

/-- What stands in a cell is normalized. -/
theorem feedFree_state_of_ofCells
    {row : Nat}
    {cells : List String}
    {stats : PortStats}
    (hcells : ofCells row (Markup.cellTexts cells) = .ok (some stats)) :
    FeedFree stats.state := by
  have hnormalized : ∀ cell ∈ Markup.cellTexts cells, FeedFree cell := by
    intro cell hcell
    obtain ⟨text, -, rfl⟩ := List.mem_map.mp hcell
    exact Text.feedFree_normalize text
  rw [ofCells.eq_def] at hcells
  split at hcells
  · next number state link a b c d hrow =>
      simp only [Config.bind_eq_ok_iff] at hcells
      obtain ⟨_, -, _, -, _, -, _, -, hstats⟩ := hcells
      cases hstats
      refine hnormalized state ?_
      rw [hrow]
      exact List.mem_cons_of_mem number List.mem_cons_self
  · cases hcells

theorem feedFree_state_of_ofRowsFrom
    {row : Nat}
    {cellRows : List (List String)}
    {rows : List PortStats}
    (hrows : ofRowsFrom row cellRows = .ok rows)
    {stats : PortStats}
    (hstats : stats ∈ rows) :
    FeedFree stats.state := by
  induction cellRows generalizing row rows with
  | nil =>
      cases hrows
      exact absurd hstats List.not_mem_nil
  | cons cells rest ih =>
      rw [ofRowsFrom, Config.bind_eq_ok_iff] at hrows
      obtain ⟨found, hfound, hrows⟩ := hrows
      cases found with
      | none =>
          exact ih hrows hstats
      | some first =>
          obtain ⟨others, hothers, hall⟩ := Config.bind_eq_ok_iff.mp hrows
          cases hall
          rcases List.mem_cons.mp hstats with rfl | hstats
          · exact feedFree_state_of_ofCells hfound
          · exact ih hothers hstats

theorem feedFree_state_of_ofPage
    {page : String}
    {rows : List PortStats}
    (hpage : ofPage page = .ok rows)
    {stats : PortStats}
    (hstats : stats ∈ rows) :
    FeedFree stats.state :=
  feedFree_state_of_ofRowsFrom hpage hstats

end PortStats

end Pages

section Lines

namespace MetricLine

/-- A text has a line feed behind its escapes exactly if it has one. -/
theorem newline_mem_escapeTag_iff
    {s : String} :
    '\n' ∈ escapeTag s ↔ '\n' ∈ s.toList := by
  have hchar : ∀ c, '\n' ∈ escapeTagChar c ↔ c = '\n' := by
    intro c
    fun_cases escapeTagChar c <;> simp [eq_comm]
  simp only [escapeTag, List.mem_flatMap, hchar, exists_eq_right]

theorem newline_mem_escapeField_iff
    {s : String} :
    '\n' ∈ escapeField s ↔ '\n' ∈ s.toList := by
  have hchar : ∀ c, '\n' ∈ escapeFieldChar c ↔ c = '\n' := by
    intro c
    fun_cases escapeFieldChar c <;> simp [eq_comm]
  simp only [escapeField, List.mem_flatMap, hchar, exists_eq_right]

theorem newline_not_mem_counterField
    {name : String}
    (hname : FeedFree name)
    (n : Int) :
    '\n' ∉ counterField name n := by
  have hchars := Number.newline_not_mem_chars n
  rw [FeedFree] at hname
  simp [counterField, hname, hchars]

/-- The fields of a line are numbers and the state. -/
theorem newline_not_mem_fields
    {stats : PortStats}
    (hstate : FeedFree stats.state) :
    '\n' ∉ fields stats := by
  have hcounter : ∀ name n, FeedFree name → '\n' ∉ ',' :: counterField name n :=
    fun name n hname => List.not_mem_cons_of_ne_of_not_mem (by decide)
      (newline_not_mem_counterField hname n)
  have hlink : '\n' ∉ counterField "link_up" (if stats.linkUp then 1 else 0) :=
    newline_not_mem_counterField (.ofChars (by decide)) _
  have hopening : FeedFree "state=\"" := .ofChars (by decide)
  have hclosing : FeedFree "\"," := .ofChars (by decide)
  have hshown : '\n' ∉ escapeField stats.state := mt newline_mem_escapeField_iff.mp hstate
  exact List.not_mem_append (List.not_mem_append (List.not_mem_append (List.not_mem_append
    (List.not_mem_append (List.not_mem_append (List.not_mem_append hopening hshown) hclosing) hlink)
    (hcounter "tx_good" stats.sentGood (.ofChars (by decide))))
    (hcounter "tx_bad" stats.sentBad (.ofChars (by decide))))
    (hcounter "rx_good" stats.receivedGood (.ofChars (by decide))))
    (hcounter "rx_bad" stats.receivedBad (.ofChars (by decide)))

/-- Escaping does nothing about line feeds. -/
theorem feedFree_text_iff
    (s : Switch)
    (port : String)
    {stats : PortStats}
    (hstate : FeedFree stats.state) :
    FeedFree (text s port stats) ↔ FeedFree s.key ∧ FeedFree s.address ∧ FeedFree port := by
  have hjoin :
      ∀ opening key host address port' value rest : List Char,
        '\n' ∉ opening → '\n' ∉ host → '\n' ∉ port' → '\n' ∉ rest →
          ('\n' ∉ opening ++ (key ++ ',' :: (host ++ (address ++ ',' :: (port' ++ (value ++
              ' ' :: rest))))) ↔
            '\n' ∉ key ∧ '\n' ∉ address ∧ '\n' ∉ value) := by
    intro opening key host address port' value rest hopening hhost hport hrest
    simp [hopening, hhost, hport, hrest]
  rw [FeedFree, FeedFree, FeedFree, FeedFree, Scrape.toList_text, ← newline_mem_escapeTag_iff,
    ← newline_mem_escapeTag_iff, ← newline_mem_escapeTag_iff]
  have hopening : FeedFree "switch_port,switch=" := .ofChars (by decide)
  have hhost : FeedFree "host=" := .ofChars (by decide)
  have hport : FeedFree "port=" := .ofChars (by decide)
  exact hjoin _ _ _ _ _ _ _ hopening hhost hport (newline_not_mem_fields hstate)

end MetricLine

namespace Scrape

theorem feedFree_authFailure
    {s : Switch}
    (hkey : FeedFree s.key) :
    FeedFree (authFailure s).message := by
  rw [authFailure]
  cases s.auth with
  | none =>
      exact .append (.ofChars (by decide)) hkey
  | some auth =>
      refine .append (.append (.append ?_ (feedFree_quote auth.type)) ?_) hkey
      · exact .ofChars (by decide)
      · exact .ofChars (by decide)

/-- The port names of the first rows have no line feeds if the configured ones have none. -/
theorem feedFree_portName_iff
    {s : Switch}
    {n : Nat} :
    (∀ i, i < n → FeedFree (portName s i)) ↔ ∀ port ∈ s.ports.take n, FeedFree port.name := by
  constructor
  · intro hnames port hport
    obtain ⟨i, hi, rfl⟩ := List.mem_take_iff_getElem.mp hport
    have hname := hnames i (Nat.lt_of_lt_of_le hi (Nat.min_le_left _ _))
    rwa [portName_of_some (List.getElem?_eq_getElem _)] at hname
  · intro hports i hi
    rcases Nat.lt_or_ge i s.ports.length with hlt | hle
    · rw [portName_of_some (List.getElem?_eq_getElem hlt)]
      exact hports _ (List.mem_take_iff_getElem.mpr ⟨i, Nat.lt_min.mpr ⟨hi, hlt⟩, rfl⟩)
    · rw [portName_of_le hle]
      exact .append (.ofChars (by decide)) (Number.feedFree_natText _)

theorem feedFree_errorLine_iff
    {s : Switch}
    {failure : Failure Float}
    (hreason : FeedFree s.key → FeedFree s.address → FeedFree failure.reason) :
    FeedFree (errorLine s failure) ↔ FeedFree s.key ∧ FeedFree s.address := by
  have hopening : FeedFree "# ERROR " := .ofChars (by decide)
  have hbracket : FeedFree " (" := .ofChars (by decide)
  have hcolon : FeedFree "): " := .ofChars (by decide)
  rw [errorLine_eq, feedFree_append, feedFree_append, feedFree_append, feedFree_append,
    feedFree_append]
  constructor
  · exact fun h => ⟨h.1.1.1.1.2, h.1.1.2⟩
  · rintro ⟨hkey, haddress⟩
    exact ⟨⟨⟨⟨⟨hopening, hkey⟩, hbracket⟩, haddress⟩, hcolon⟩, hreason hkey haddress⟩

/-- Reasons have the key, the address and the message of the client in them at most. -/
theorem feedFree_reason
    {s : Switch}
    (hkey : FeedFree s.key)
    {answer? : Option (Answer Float)}
    (hanswer : ∀ e, answer? = some (.error e) → FeedFree e.message)
    {failure : Failure Float}
    (hresult : result s answer? = .error failure) :
    FeedFree failure.reason := by
  cases answer? with
  | none =>
      cases hresult
      exact feedFree_authFailure hkey
  | some answer =>
      cases answer with
      | error e =>
          cases hresult
          exact hanswer e rfl
      | ok response =>
          rw [result, responseRows] at hresult
          split at hresult
          · cases hresult
            exact (.ofChars (by decide) : FeedFree "auth rejected")
          · split at hresult
            · next bad _ =>
                cases hresult
                exact bad.feedFree_message
            · cases hresult
              exact (.ofChars (by decide) : FeedFree "no port rows in response")
            · cases hresult

/-- The metric lines of rows have no line feeds if the key, the address and the names of the ports
have none. -/
theorem feedFree_metricLines_iff
    {s : Switch}
    {rows : List PortStats}
    (hstates : ∀ row ∈ rows, FeedFree row.state) :
    (∀ line ∈ metricLines s rows, FeedFree line) ↔
      ∀ i, i < rows.length → FeedFree s.key ∧ FeedFree s.address ∧ FeedFree (portName s i) := by
  rw [metricLines, List.forall_mem_map]
  constructor
  · intro hlines i hi
    have hline : FeedFree (MetricLine.text s (portName s i) rows[i]) :=
      hlines (rows[i], i) (List.mk_mem_zipIdx_iff_getElem?.mpr (List.getElem?_eq_getElem hi))
    rwa [MetricLine.feedFree_text_iff s _ (hstates rows[i] (List.getElem_mem hi))] at hline
  · rintro hparts ⟨row, i⟩ hr
    have hrow : rows[i]? = some row := List.mk_mem_zipIdx_iff_getElem?.mp hr
    obtain ⟨hlt, -⟩ := List.getElem?_eq_some_iff.mp hrow
    rw [MetricLine.feedFree_text_iff s _ (hstates row (List.mem_of_getElem? hrow))]
    exact hparts i hlt

/-- The lines of a switch have no line feeds exactly if its key, its address and the names that are
shown of its ports have none. -/
theorem feedFree_report_iff
    {dealt : Switch × Option (Answer Float)}
    (hanswer : FeedFree dealt.1.address →
      ∀ e, dealt.2 = some (.error e) → FeedFree e.message) :
    (∀ line ∈ report dealt, FeedFree line) ↔
      FeedFree dealt.1.key ∧ FeedFree dealt.1.address ∧
        ∀ rows, Shows dealt.2 rows →
          ∀ port ∈ dealt.1.ports.take rows.length, FeedFree port.name := by
  rw [report]
  cases hresult : result dealt.1 dealt.2 with
  | ok rows =>
      obtain ⟨response, -, -, hpage, hne⟩ := result_eq_ok_iff.mp hresult
      have hstates : ∀ row ∈ rows, FeedFree row.state :=
        fun row hrow => PortStats.feedFree_state_of_ofPage hpage hrow
      simp only [linesFor, feedFree_metricLines_iff hstates, shows_iff_of_result_eq_ok hresult,
        forall_eq, ← feedFree_portName_iff]
      constructor
      · intro hparts
        obtain ⟨hkey, haddress, -⟩ := hparts 0 (List.length_pos_iff.mpr hne)
        exact ⟨hkey, haddress, fun i hi => (hparts i hi).2.2⟩
      · rintro ⟨hkey, haddress, hports⟩ i hi
        exact ⟨hkey, haddress, hports i hi⟩
  | error failure =>
      have hnone := not_shows_of_result_eq_error hresult
      rw [linesFor, List.forall_mem_singleton, feedFree_errorLine_iff]
      · exact ⟨fun h => ⟨h.1, h.2, fun rows hshows => absurd hshows (hnone rows)⟩,
          fun h => ⟨h.1, h.2.1⟩⟩
      · exact fun hkey haddress => feedFree_reason hkey (hanswer haddress) hresult

end Scrape

end Lines

section Splitting

namespace Scrape

/-- Every line begins as an error line or as a metric line. -/
theorem prefix_of_mem_report
    {dealt : Switch × Option (Answer Float)}
    {line : String}
    (hline : line ∈ report dealt) :
    "# ERROR ".toList <+: line.toList ∨ "switch_port,".toList <+: line.toList := by
  obtain ⟨port, stats, rfl⟩ | ⟨failure, rfl⟩ := text_or_error_of_mem_report hline
  · exact Or.inr (prefix_text dealt.1 port stats)
  · exact Or.inl (error_prefix_errorLine dealt.1 failure)

/-- Every switch has a line. -/
theorem report_ne_nil
    (dealt : Switch × Option (Answer Float)) :
    report dealt ≠ [] := by
  rw [report]
  cases hresult : result dealt.1 dealt.2 with
  | ok rows =>
      obtain ⟨-, -, -, -, hne⟩ := result_eq_ok_iff.mp hresult
      rw [linesFor, ← List.length_pos_iff, length_metricLines]
      exact List.length_pos_iff.mpr hne
  | error failure =>
      exact List.cons_ne_nil _ _

theorem flatMap_report_ne_nil
    {switches : List Switch}
    (hne : switches ≠ [])
    (answers : List (Answer Float)) :
    (deal switches answers).flatMap report ≠ [] := by
  intro hnil
  have hswitches := map_fst_deal switches answers
  cases hdeal : deal switches answers with
  | nil =>
      rw [hdeal] at hswitches
      exact hne hswitches.symm
  | cons dealt rest =>
      rw [hdeal, List.flatMap_cons, List.append_eq_nil_iff] at hnil
      exact report_ne_nil dealt hnil.1

/-- Errors of the client quote no line feeds but those of the address. -/
theorem feedFree_message_of_mem_deal
    (timeout : Float)
    (switches : List Switch)
    {w : World Float}
    (hreasons : w.Only Trouble.FeedFree)
    {dealt : Switch × Option (Answer Float)}
    (hdealt : dealt ∈ deal switches ((Client.answers (pageCalls timeout switches)).run w).1)
    (haddress : FeedFree dealt.1.address)
    {e : Client.Error Float}
    (herror : dealt.2 = some (.error e)) :
    FeedFree e.message := by
  have hanswers := (Client.meets_answers (pageCalls timeout switches) w hreasons).2
  obtain ⟨c, hcall, hstems⟩ := exists_call_of_mem_deal hanswers hdealt herror
  obtain ⟨auth, -, rfl⟩ := Option.map_eq_some_iff.mp hcall
  exact (hstems e rfl).feedFree_message haddress

/-- Cutting the metrics of switches at the line feeds gives the lines of the switches in order, and
an empty piece behind them, exactly if the keys and the addresses of the switches and the names that
are shown of their ports have no line feeds; the reasons of the network are taken to have none.  The
lines begin in one of two ways in any case. -/
theorem splitOn_collect_iff
    (timeout : Float)
    {switches : List Switch}
    (hne : switches ≠ [])
    {w : World Float}
    (hreasons : w.Only Trouble.FeedFree) :
    let answers := ((Client.answers (pageCalls timeout switches)).run w).1
    let lines := ((allLines timeout switches).run w).1
    lines = (deal switches answers).flatMap report ∧
    (∀ line ∈ lines, "# ERROR ".toList <+: line.toList ∨ "switch_port,".toList <+: line.toList) ∧
    (((collect timeout switches).run w).1.toList.splitOn '\n' =
        lines.map String.toList ++ [[]] ↔
      ∀ dealt ∈ deal switches answers,
        FeedFree dealt.1.key ∧ FeedFree dealt.1.address ∧
          ∀ rows, Shows dealt.2 rows →
            ∀ port ∈ dealt.1.ports.take rows.length, FeedFree port.name) := by
  intro answers lines
  obtain ⟨-, hlines, -⟩ := hears_allLines timeout switches w
  replace hlines : lines = (deal switches answers).flatMap report := hlines
  have hlines_ne : lines ≠ [] :=
    hlines ▸ flatMap_report_ne_nil hne answers
  refine ⟨hlines, ?_, ?_⟩
  · intro line hline
    rw [hlines] at hline
    obtain ⟨dealt, -, hline⟩ := List.mem_flatMap.mp hline
    exact prefix_of_mem_report hline
  · refine (Text.splitOn_lines_iff hlines_ne).trans ?_
    rw [hlines, List.forall_mem_flatMap]
    refine forall₂_congr fun dealt hdealt => feedFree_report_iff fun haddress e herror => ?_
    exact feedFree_message_of_mem_deal timeout switches hreasons hdealt haddress herror

/-- A world in which the address of the first switch refuses connections. -/
def refusingWorld : World Float :=
  ⟨0, ⟨[("10.0.0.1", [Config.promptExchange
    (some (.failure "[Errno 111] Connection refused")) ""])], by decide⟩, []⟩

theorem splitOn_collect_twoSwitches :
    Config.twoSwitchesConfig.switches.values ≠ [] ∧ refusingWorld.Only Trouble.FeedFree ∧
      ((collect 10 Config.twoSwitchesConfig.switches.values).run refusingWorld).1.toList.splitOn
          '\n' =
        ((allLines 10 Config.twoSwitchesConfig.switches.values).run
          refusingWorld).1.map String.toList ++ [[]] := by
  have hne : Config.twoSwitchesConfig.switches.values ≠ [] :=
    List.cons_ne_nil _ _
  have hreasons : refusingWorld.Only Trouble.FeedFree := by
    refine World.only_of_forall (List.forall_mem_singleton.mpr (List.forall_mem_singleton.mpr ?_))
    intro t ht
    cases ht with
    | resolving ht =>
        exact nomatch ht
    | connecting hs ht =>
        cases List.mem_singleton.mp hs
        cases ht
        exact (.ofChars (by decide) : FeedFree "[Errno 111] Connection refused")
    | sending ht =>
        exact nomatch ht
    | waiting hs ht =>
        exact nomatch List.mem_singleton.mp hs
  have hplain :
      ∀ s ∈ Config.twoSwitchesConfig.switches.values,
        FeedFree s.key ∧ FeedFree s.address ∧ ∀ port ∈ s.ports, FeedFree port.name := by
    decide +kernel
  obtain ⟨-, -, hsplit⟩ := splitOn_collect_iff 10 hne hreasons
  refine ⟨hne, hreasons, hsplit.mpr fun dealt hdealt => ?_⟩
  obtain ⟨hkey, haddress, hports⟩ := hplain dealt.1 (mem_of_mem_deal hdealt)
  exact ⟨hkey, haddress, fun rows _ port hport => hports port (List.mem_of_mem_take hport)⟩

/-- A document with a switch whose key has a line feed. -/
def brokenDocument : Document :=
  .map [
    (.text "vlans", .map [(.int 10, .text "data")]),
    (.text "templates", .map [(.text "access", .map [(.int 10, .text "pvid")])]),
    (.text "switches", .map [
      (.text "a\nb", .map [
        (.text "name", .text "A"), (.text "address", .text "10.0.0.1"),
        (.text "ports", .list [])])])]

/-- The configuration of `brokenDocument`. -/
def brokenConfig : Config :=
  { Config.twoSwitchesConfig with
    switches := Table.ofList [("a\nb", ⟨"a\nb", "A", "10.0.0.1", none, []⟩)] }

theorem read_brokenDocument :
    Config.read brokenDocument = .ok brokenConfig := by
  refine Config.read_of_switches (.cons ⟨⟨rfl, rfl⟩, rfl, ?_⟩ .nil)
  exact ⟨_, _, rfl, rfl, .nil, ⟨_, rfl, rfl, rfl⟩, ⟨_, rfl, rfl, rfl⟩, Or.inl ⟨rfl, rfl⟩⟩

/-- The only line of this accepted configuration is cut in two. -/
theorem not_splitOn_collect_brokenConfig :
    Config.read brokenDocument = .ok brokenConfig ∧
      brokenConfig.switches.values ≠ [] ∧
      Config.deadWorld.Only Trouble.FeedFree ∧
      ((collect 10 brokenConfig.switches.values).run Config.deadWorld).1.toList.splitOn '\n' ≠
        ((allLines 10 brokenConfig.switches.values).run Config.deadWorld).1.map String.toList ++
          [[]] :=
  ⟨read_brokenDocument, List.cons_ne_nil _ _, World.only_of_forall nofun, by decide +kernel⟩

end Scrape

end Splitting

end ManagedSwitch

import ManagedSwitch.Proofs.Provision.Isolation
import ManagedSwitch.Stats.Scrape

/-!
# What switches report

Every switch with usable authentication is asked for its page once, and no other switch is asked
(`pageCalls`).  The answers are dealt out to the switches in order, and every switch reports by what
it answered: a metric line for each row that its page shows, or one line that says why there is none
(`Reports`).  `allLines` is the reports one after the other, whatever the answers are
(`hears_allLines`).

Where no step consumes time, switches with different addresses have nothing to do with each other,
and the lines of two lists of switches are those of each list alone (`collect_reports`).
-/

namespace ManagedSwitch
namespace Scrape

section Asking

variable {τ : Type}

/-- The authentication of a switch, if its type is supported. -/
def usableAuth? (s : Switch) : Option Auth :=
  s.auth.filter fun auth => auth.type = supportedAuth

/-- The request for the page of a switch, if it has usable authentication. -/
def pageCall?
    (timeout : τ)
    (s : Switch) :
    Option (Call τ) :=
  (usableAuth? s).map fun auth => pageCall timeout s (auth.user ++ "=" ++ auth.response)

/-- The requests for the pages of switches. -/
def pageCalls
    (timeout : τ)
    (switches : List Switch) :
    List (Call τ) :=
  switches.filterMap (pageCall? timeout)

/-- Why a switch has no usable authentication. -/
def authFailure (s : Switch) : AuthFailure :=
  match s.auth with
  | none => .missing s.key
  | some auth => .unsupported auth.type s.key

theorem cookie_of_usable
    {s : Switch}
    {auth : Auth}
    (hauth : usableAuth? s = some auth) :
    s.cookie = .ok (auth.user ++ "=" ++ auth.response) := by
  obtain ⟨hsome, htype⟩ := Option.filter_eq_some_iff.mp hauth
  rw [Switch.cookie, hsome]
  exact if_pos (of_decide_eq_true htype)

theorem cookie_of_not_usable
    {s : Switch}
    (hauth : usableAuth? s = none) :
    s.cookie = .error (authFailure s) := by
  rw [Switch.cookie, authFailure]
  cases hsome : s.auth with
  | none =>
      rfl
  | some auth =>
      rw [usableAuth?, hsome, Option.filter_eq_none_iff] at hauth
      have htype : ¬auth.type = supportedAuth := by
        simpa using hauth auth rfl
      exact if_neg htype

theorem host_of_mem_pageCalls
    {timeout : τ}
    {switches : List Switch}
    {c : Call τ}
    (hc : c ∈ pageCalls timeout switches) :
    c.timeout = timeout ∧ ∃ s ∈ switches, c.host = s.address := by
  obtain ⟨s, hs, hcall⟩ := List.mem_filterMap.mp hc
  obtain ⟨auth, -, rfl⟩ := Option.map_eq_some_iff.mp hcall
  exact ⟨rfl, s, hs, rfl⟩

end Asking

section Names

variable {s : Switch}

/-- The name that is made up for a port beyond the configured ones. -/
def madeUpName (index : Nat) : String :=
  "port" ++ Number.natText (index + 1)

theorem portName_of_some
    {i : Nat}
    {port : Port}
    (hport : s.ports[i]? = some port) :
    portName s i = port.name := by
  rw [portName, hport]

theorem portName_of_le
    {i : Nat}
    (hle : s.ports.length ≤ i) :
    portName s i = madeUpName i := by
  rw [portName, List.getElem?_eq_none hle]
  rfl

end Names

section Reporting

variable {τ : Type}

/-- The answers dealt out in order to the switches that have been asked. -/
def deal : List Switch → List (Answer τ) → List (Switch × Option (Answer τ))
  | [], _ => []
  | s :: ss, answers =>
    if (usableAuth? s).isSome then
      (s, answers.head?) :: deal ss answers.tail
    else
      (s, none) :: deal ss answers

/-- Every switch is dealt with once, in order. -/
theorem map_fst_deal
    (switches : List Switch)
    (answers : List (Answer τ)) :
    (deal switches answers).map Prod.fst = switches := by
  induction switches generalizing answers with
  | nil =>
      rfl
  | cons s ss ih =>
      rw [deal]
      split
      · exact congrArg (s :: ·) (ih answers.tail)
      · exact congrArg (s :: ·) (ih answers)

theorem mem_of_mem_deal
    {switches : List Switch}
    {answers : List (Answer τ)}
    {dealt : Switch × Option (Answer τ)}
    (hdealt : dealt ∈ deal switches answers) :
    dealt.1 ∈ switches := by
  rw [← map_fst_deal switches answers]
  exact List.mem_map_of_mem hdealt

/-- With an answer to every request, the switches that have been asked are the ones with an
answer. -/
theorem isSome_of_mem_deal
    (timeout : τ)
    {switches : List Switch}
    {answers : List (Answer τ)}
    (hlength : answers.length = (pageCalls timeout switches).length)
    {dealt : Switch × Option (Answer τ)}
    (hdealt : dealt ∈ deal switches answers) :
    dealt.2.isSome = (usableAuth? dealt.1).isSome := by
  induction switches generalizing answers with
  | nil =>
      exact absurd hdealt List.not_mem_nil
  | cons s ss ih =>
      rw [pageCalls, List.filterMap_cons, pageCall?] at hlength
      rw [deal] at hdealt
      cases hauth : usableAuth? s with
      | none =>
          rw [hauth] at hlength hdealt
          rcases List.mem_cons.mp hdealt with rfl | hrest
          · rw [hauth]
            rfl
          · exact ih hlength hrest
      | some auth =>
          rw [hauth] at hlength hdealt
          cases answers with
          | nil =>
              exact nomatch hlength
          | cons answer answers =>
              rcases List.mem_cons.mp hdealt with rfl | hrest
              · rw [hauth]
                rfl
              · exact ih (Nat.succ.inj hlength) hrest

/-- What the answers have to do with the requests, they have to do with those of the switches that
they are dealt out to. -/
theorem exists_call_of_mem_deal
    {R : Call τ → Answer τ → Prop}
    {timeout : τ}
    {switches : List Switch}
    {answers : List (Answer τ)}
    (hanswers : List.Forall₂ R (pageCalls timeout switches) answers)
    {dealt : Switch × Option (Answer τ)}
    (hdealt : dealt ∈ deal switches answers)
    {answer : Answer τ}
    (hsome : dealt.2 = some answer) :
    ∃ c, pageCall? timeout dealt.1 = some c ∧ R c answer := by
  induction switches generalizing answers with
  | nil =>
      exact absurd hdealt List.not_mem_nil
  | cons s ss ih =>
      rw [pageCalls, List.filterMap_cons, pageCall?] at hanswers
      rw [deal] at hdealt
      cases hauth : usableAuth? s with
      | none =>
          rw [hauth] at hanswers hdealt
          rcases List.mem_cons.mp hdealt with rfl | hrest
          · exact nomatch hsome
          · exact ih hanswers hrest
      | some auth =>
          rw [hauth] at hanswers hdealt
          cases hanswers with
          | cons hfirst hanswers =>
              rcases List.mem_cons.mp hdealt with rfl | hrest
              · cases hsome
                exact ⟨_, by rw [pageCall?, hauth]; rfl, hfirst⟩
              · exact ih hanswers hrest

/-- What a switch is found to have, by its answer if it has been asked. -/
def result
    (s : Switch) :
    Option (Answer τ) → Except (Failure τ) (List PortStats)
  | none => .error (.authentication (authFailure s))
  | some (.error e) => .error (.client e)
  | some (.ok response) => responseRows response

/-- The answer is a page that is not the login page and shows the rows, of which there is at least
one. -/
def Shows
    (answer? : Option (Answer τ))
    (rows : List PortStats) :
    Prop :=
  ∃ response : Response, answer? = some (.ok response) ∧
    Text.occursIn loginPage.toList response.body.toList = false ∧
    PortStats.ofPage response.body = .ok rows ∧ rows ≠ []

theorem result_eq_ok_iff
    {s : Switch}
    {answer? : Option (Answer τ)}
    {rows : List PortStats} :
    result s answer? = .ok rows ↔ Shows answer? rows := by
  match answer? with
  | none => simp [result, Shows]
  | some (.error e) => simp [result, Shows]
  | some (.ok response) =>
      simp only [result, responseRows, Shows, Option.some.injEq, Except.ok.injEq, exists_eq_left']
      cases Text.occursIn loginPage.toList response.body.toList with
      | true =>
          simp
      | false =>
          rcases PortStats.ofPage response.body with bad | (_ | ⟨row, rows'⟩)
          · simp
          · simp +contextual [eq_comm]
          · simp +contextual [eq_comm]

/-- A switch that is found to have rows shows these and no other ones. -/
theorem shows_iff_of_result_eq_ok
    {s : Switch}
    {answer? : Option (Answer τ)}
    {rows rows' : List PortStats}
    (hresult : result s answer? = .ok rows) :
    Shows answer? rows' ↔ rows' = rows := by
  rw [← result_eq_ok_iff, hresult, Except.ok.injEq, eq_comm]

theorem not_shows_of_result_eq_error
    {s : Switch}
    {answer? : Option (Answer τ)}
    {failure : Failure τ}
    (hresult : result s answer? = .error failure)
    (rows : List PortStats) :
    ¬Shows answer? rows := by
  intro hshows
  rw [← result_eq_ok_iff, hresult] at hshows
  exact nomatch hshows

variable [Seconds τ]

/-- The lines for what a switch is found to have. -/
def linesFor
    (s : Switch) :
    Except (Failure τ) (List PortStats) → List String
  | .ok rows => metricLines s rows
  | .error failure => [errorLine s failure]

/-- The lines of a switch, by its answer if it has been asked. -/
def report (dealt : Switch × Option (Answer τ)) : List String :=
  linesFor dealt.1 (result dealt.1 dealt.2)

/-- What a switch contributes, by its answer if it has been asked: a metric line for each row that
is shown, in order, or one error line, and never both. -/
structure Reports
    (s : Switch)
    (answer? : Option (Answer τ))
    (lines : List String) :
    Prop where
  metrics : ∀ rows, Shows answer? rows →
    lines.length = rows.length ∧
      ∀ i row, rows[i]? = some row → lines[i]? = some (MetricLine.text s (portName s i) row)
  error : (∀ rows, ¬Shows answer? rows) →
    ∃ reason, lines = ["# ERROR " ++ s.key ++ " (" ++ s.address ++ "): " ++ reason]
  apart : (∃ line ∈ lines, "# ERROR ".toList <+: line.toList) ↔ ∀ rows, ¬Shows answer? rows

theorem errorLine_eq
    (s : Switch)
    (failure : Failure τ) :
    errorLine s failure =
      "# ERROR " ++ s.key ++ " (" ++ s.address ++ "): " ++ failure.reason := by
  have hcolon : "): " = ")" ++ ": " := by decide
  rw [errorLine, label, hcolon]
  simp only [String.append_assoc]

theorem length_metricLines
    (s : Switch)
    (rows : List PortStats) :
    (metricLines s rows).length = rows.length := by
  rw [metricLines, List.length_map, List.length_zipIdx]

/-- Metric lines are in the order of the rows. -/
theorem getElem?_metricLines
    (s : Switch)
    (rows : List PortStats)
    (i : Nat) :
    (metricLines s rows)[i]? = rows[i]?.map (MetricLine.text s (portName s i)) := by
  rw [metricLines, List.getElem?_map, List.getElem?_zipIdx, Nat.zero_add, Option.map_map]
  rfl

/-- A metric line is its word and its tags, and the fields behind a space. -/
theorem toList_text
    (s : Switch)
    (port : String)
    (stats : PortStats) :
    (MetricLine.text s port stats).toList =
      "switch_port,switch=".toList ++ (MetricLine.escapeTag s.key ++ ',' ::
        ("host=".toList ++ (MetricLine.escapeTag s.address ++ ',' ::
          ("port=".toList ++ (MetricLine.escapeTag port ++ ' ' :: MetricLine.fields stats))))) := by
  have hline :
      (MetricLine.text s port stats).toList =
        "switch_port".toList ++ MetricLine.tags s port ++ ' ' :: MetricLine.fields stats :=
    String.toList_ofList
  have hshape :
      ∀ word switch host port' a b c d : List Char,
        word ++ (switch ++ a ++ ',' :: host ++ b ++ ',' :: port' ++ c) ++ ' ' :: d =
          (word ++ switch) ++ (a ++ ',' :: (host ++ (b ++ ',' :: (port' ++ (c ++ ' ' :: d))))) := by
    intros
    simp only [List.append_assoc, List.cons_append]
  exact hline.trans
    (hshape "switch_port".toList ",switch=".toList "host=".toList "port=".toList _ _ _ _)

/-- Every metric line begins in the same way. -/
theorem prefix_text
    (s : Switch)
    (port : String)
    (stats : PortStats) :
    "switch_port,".toList <+: (MetricLine.text s port stats).toList := by
  have hword : "switch_port,".toList <+: "switch_port,switch=".toList :=
    ⟨"switch=".toList, rfl⟩
  rw [toList_text]
  exact hword.trans (List.prefix_append _ _)

/-- A metric line does not begin as an error line does. -/
theorem not_error_prefix_text
    (s : Switch)
    (port : String)
    (stats : PortStats) :
    ¬"# ERROR ".toList <+: (MetricLine.text s port stats).toList := by
  have hhash : "# ERROR ".toList = '#' :: " ERROR ".toList := rfl
  have hword : "switch_port,switch=".toList = 's' :: "witch_port,switch=".toList := rfl
  intro hprefix
  rw [toList_text, hhash, hword, List.cons_append, List.cons_prefix_cons] at hprefix
  exact absurd hprefix.1 (by decide)

theorem error_prefix_errorLine
    (s : Switch)
    (failure : Failure τ) :
    "# ERROR ".toList <+: (errorLine s failure).toList := by
  rw [errorLine, String.append_assoc, String.append_assoc, String.toList_append]
  exact List.prefix_append _ _

/-- A line of a switch is a metric line or an error line. -/
theorem text_or_error_of_mem_report
    {dealt : Switch × Option (Answer τ)}
    {line : String}
    (hline : line ∈ report dealt) :
    (∃ port stats, line = MetricLine.text dealt.1 port stats) ∨
      ∃ failure : Failure τ, line = errorLine dealt.1 failure := by
  rw [report] at hline
  cases hresult : result dealt.1 dealt.2 with
  | ok rows =>
      rw [hresult] at hline
      obtain ⟨r, -, rfl⟩ := List.mem_map.mp hline
      exact Or.inl ⟨_, _, rfl⟩
  | error failure =>
      rw [hresult] at hline
      exact Or.inr ⟨failure, List.mem_singleton.mp hline⟩

theorem reports_report
    (dealt : Switch × Option (Answer τ)) :
    Reports dealt.1 dealt.2 (report dealt) := by
  rw [report]
  cases hresult : result dealt.1 dealt.2 with
  | ok rows =>
      have hshows : Shows dealt.2 rows := result_eq_ok_iff.mp hresult
      constructor
      case metrics =>
        intro rows' hshows'
        cases (shows_iff_of_result_eq_ok hresult).mp hshows'
        refine ⟨length_metricLines dealt.1 rows, fun i row hrow => ?_⟩
        rw [linesFor, getElem?_metricLines, hrow]
        rfl
      case error =>
        exact fun hnone => absurd hshows (hnone rows)
      case apart =>
        refine iff_of_false ?_ fun hnone => hnone rows hshows
        rintro ⟨line, hline, hprefix⟩
        obtain ⟨r, -, rfl⟩ := List.mem_map.mp hline
        exact not_error_prefix_text _ _ _ hprefix
  | error failure =>
      have hnone := not_shows_of_result_eq_error hresult
      constructor
      case metrics =>
        exact fun rows hshows => absurd hshows (hnone rows)
      case error =>
        exact fun _ => ⟨failure.reason, congrArg (fun line => [line]) (errorLine_eq _ _)⟩
      case apart =>
        exact iff_of_true ⟨_, List.mem_singleton.mpr rfl, error_prefix_errorLine _ _⟩ hnone

end Reporting

section Hearing

variable {τ : Type} [Seconds τ]

/-- A switch with usable authentication is asked once, and reports by the answer. -/
theorem hears_switchLines_of_usable
    (timeout : τ)
    {s : Switch}
    {auth : Auth}
    (hauth : usableAuth? s = some auth) :
    Hears (switchLines timeout s) [pageCall timeout s (auth.user ++ "=" ++ auth.response)]
      fun answers lines => ∃ answer, answers = [answer] ∧ lines = report (s, some answer) := by
  have hfetch :
      Hears (fetch timeout s) [pageCall timeout s (auth.user ++ "=" ++ auth.response)]
        fun answers found => ∃ answer, answers = [answer] ∧ found = result s (some answer) := by
    rw [fetch, cookie_of_usable hauth]
    refine (hears_call _).thenMute fun answer => ?_
    cases answer with
    | error e =>
        exact .pure fun answers hanswers => ⟨_, hanswers, rfl⟩
    | ok response =>
        exact .pure fun answers hanswers => ⟨_, hanswers, rfl⟩
  rw [switchLines]
  refine hfetch.thenMute fun found => ?_
  cases found with
  | ok rows =>
      refine .pure ?_
      rintro answers ⟨answer, hanswers, hfound⟩
      exact ⟨answer, hanswers, by rw [report, ← hfound, linesFor]⟩
  | error failure =>
      refine (mute_remark _).then fun _ => .pure ?_
      rintro answers ⟨answer, hanswers, hfound⟩
      exact ⟨answer, hanswers, by rw [report, ← hfound, linesFor]⟩

/-- A switch without usable authentication is not asked. -/
theorem mute_switchLines_of_not_usable
    (timeout : τ)
    {s : Switch}
    (hauth : usableAuth? s = none) :
    Mute (switchLines timeout s) fun lines =>
      lines = report (s, (none : Option (Answer τ))) := by
  rw [switchLines, fetch, cookie_of_not_usable hauth]
  show Mute (do remark _; return [errorLine s (.authentication (authFailure s))]) _
  exact (mute_remark _).then fun _ => Hears.pure rfl

/-- The lines are the reports of the switches, by the answers to their requests. -/
theorem hears_allLines
    (timeout : τ)
    (switches : List Switch) :
    Hears (allLines timeout switches) (pageCalls timeout switches) fun answers lines =>
      lines = (deal switches answers).flatMap report := by
  induction switches with
  | nil =>
      exact .pure rfl
  | cons s ss ih =>
      have hrest : ∀ lines,
          Hears (do let others ← allLines timeout ss; return lines ++ others)
            (pageCalls timeout ss) fun answers all =>
              all = lines ++ (deal ss answers).flatMap report :=
        fun lines => ih.thenPure fun answers others hothers => by rw [hothers]
      rw [allLines, pageCalls, List.filterMap_cons, pageCall?]
      cases hauth : usableAuth? s with
      | none =>
          refine (mute_switchLines_of_not_usable timeout hauth).bind ?_
          rintro _ rfl
          refine (hrest _).mono fun answers all hall => ?_
          rw [hall, deal, hauth]
          rfl
      | some auth =>
          show Hears _ ([pageCall timeout s _] ++ pageCalls timeout ss) _
          refine (hears_switchLines_of_usable timeout hauth).bind ?_
          rintro _ _ ⟨answer, rfl, rfl⟩
          refine (hrest _).mono fun answers all hall => ?_
          rw [hall, deal, hauth]
          rfl

end Hearing

section Collecting

variable {τ : Type} [Seconds τ]

/-- The lines of the first switches, and behind them those of the others, asked afterwards. -/
theorem allLines_append
    (timeout : τ)
    (first second : List Switch)
    (w : World τ) :
    ((allLines timeout (first ++ second)).run w).1 =
      ((allLines timeout first).run w).1 ++
        ((allLines timeout second).run ((allLines timeout first).run w).2).1 := by
  induction first generalizing w with
  | nil =>
      rfl
  | cons s ss ih =>
      have hrest := ih ((switchLines timeout s).run w).2
      show ((switchLines timeout s).run w).1 ++
          ((allLines timeout (ss ++ second)).run ((switchLines timeout s).run w).2).1 = _
      rw [hrest, ← List.append_assoc]
      rfl

variable {v w : World τ}

/-- In still worlds, the lines depend on what the addresses of the switches have ahead, and on
whether the deadline of a request passes at once. -/
theorem allLines_congr
    (hv : v.Still)
    (hw : w.Still)
    {timeout : τ}
    (hlate : Client.isLate v.clock timeout = Client.isLate w.clock timeout)
    {switches : List Switch}
    (hahead : ∀ s ∈ switches, v.network.ahead s.address = w.network.ahead s.address) :
    ((allLines timeout switches).run v).1 = ((allLines timeout switches).run w).1 := by
  obtain ⟨-, hlines, -⟩ := hears_allLines timeout switches v
  obtain ⟨-, hlines', -⟩ := hears_allLines timeout switches w
  rw [hlines, hlines', Client.answers_congr hv hw]
  · intro c hc
    rw [(host_of_mem_pageCalls hc).1, hlate]
  · intro c hc
    obtain ⟨-, s, hs, hhost⟩ := host_of_mem_pageCalls hc
    rw [hhost, hahead s hs]

/-- Switches leave a still world as it is for the addresses of other ones. -/
theorem allLines_keeps_others
    (hstill : w.Still)
    (timeout : τ)
    (switches : List Switch) :
    After (allLines timeout switches) w fun _ u =>
      u.Still ∧ u.clock = w.clock ∧
        ∀ h, (∀ s ∈ switches, s.address ≠ h) → u.network.ahead h = w.network.ahead h := by
  obtain ⟨-, -, hcourse⟩ := hears_allLines timeout switches w
  have hkept := Client.answers_keeps_others hstill (pageCalls timeout switches)
  simp only [World.course, Prod.mk.injEq] at hcourse
  obtain ⟨hclock, hnetwork, -⟩ := hcourse
  rw [After, World.Still] at hkept ⊢
  rw [hclock, hnetwork]
  refine hkept.imp id (And.imp id fun hahead h hothers => hahead h fun c hc => ?_)
  obtain ⟨-, s, hs, hhost⟩ := host_of_mem_pageCalls hc
  rw [hhost]
  exact hothers s hs

/-- Every switch reports, in order and whatever becomes of the other ones.  A switch is asked once,
and only if it has usable authentication.  It contributes one error line, or the metric lines of the
rows that its page shows.  Where no step consumes time, the lines of switches followed by others
that have none of their addresses are the lines of both as they are alone, and lines depend on
nothing but what the addresses of their switches have ahead. -/
theorem collect_reports
    (timeout : τ)
    (switches : List Switch)
    (hstill : w.Still) :
    let answers := ((Client.answers (pageCalls timeout switches)).run w).1
    let lines := ((allLines timeout switches).run w).1
    calls ((collect timeout switches).run w).2.journal =
      calls w.journal ++ pageCalls timeout switches ∧
    ((collect timeout switches).run w).1 = "\n".intercalate lines ++ "\n" ∧
    lines = (deal switches answers).flatMap report ∧
    (deal switches answers).map Prod.fst = switches ∧
    (∀ dealt ∈ deal switches answers,
      dealt.2.isSome = (usableAuth? dealt.1).isSome ∧
        Reports dealt.1 dealt.2 (report dealt)) ∧
    (∀ others, (∀ s ∈ switches, ∀ t ∈ others, s.address ≠ t.address) →
      ((allLines timeout (switches ++ others)).run w).1 =
        lines ++ ((allLines timeout others).run w).1) ∧
    ∀ v : World τ, v.Still → Client.isLate v.clock timeout = Client.isLate w.clock timeout →
      (∀ s ∈ switches, v.network.ahead s.address = w.network.ahead s.address) →
        ((allLines timeout switches).run v).1 = lines := by
  intro answers lines
  obtain ⟨hcalls, hlines, -⟩ := hears_allLines timeout switches w
  refine ⟨hcalls, rfl, hlines, map_fst_deal switches answers, ?_, ?_, ?_⟩
  · intro dealt hdealt
    exact ⟨isSome_of_mem_deal timeout (Client.length_answers _ w) hdealt, reports_report dealt⟩
  · intro others hdisjoint
    obtain ⟨hkept, hclock, hahead⟩ := allLines_keeps_others hstill timeout switches
    rw [allLines_append, allLines_congr hkept hstill (by rw [hclock])]
    exact fun t ht => hahead t.address fun s hs => hdisjoint s hs t ht
  · exact fun v hv hlate hahead => allLines_congr hv hstill hlate hahead

/-- The row of an idle port on a page. -/
def idleRow : String :=
  "<tr><td><td>Up<td><td>0<td>0<td>0<td>0"

/-- A world in which the address of a switch answers with a page of two rows. -/
def twoRowsWorld : World Float :=
  ⟨0, ⟨[("10.0.0.1", [Config.promptExchange none
    ("HTTP/1.1 200 OK\r\n\r\n" ++ "<table>" ++ idleRow ++ idleRow)])], by decide⟩, []⟩

theorem collect_reports_twoRowsWorld :
    twoRowsWorld.Still ∧
      ∀ dealt ∈ deal [Config.firstSwitch]
          ((Client.answers (pageCalls 10 [Config.firstSwitch])).run twoRowsWorld).1,
        dealt.2.isSome = (usableAuth? dealt.1).isSome ∧
          Reports dealt.1 dealt.2 (report dealt) := by
  have hstill : twoRowsWorld.Still := by
    refine World.still_of_forall (List.forall_mem_singleton.mpr (List.forall_mem_singleton.mpr ?_))
    exact Config.promptExchange_instant (by decide) _ _
  obtain ⟨-, -, -, -, hreports, -⟩ := collect_reports 10 [Config.firstSwitch] hstill
  exact ⟨hstill, hreports⟩

end Collecting

end Scrape
end ManagedSwitch

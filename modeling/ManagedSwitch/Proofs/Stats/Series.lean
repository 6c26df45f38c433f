import Mathlib.Data.List.Nodup
import ManagedSwitch.Proofs.Number.Decimal
import ManagedSwitch.Proofs.Stats.Scraping
import ManagedSwitch.Proofs.Text.Split

/-!
# Series of metrics

The tags of a metric line name its series.  `tagsOf?` reads them off a line: a value goes up to the
first comma or space that is not escaped, so that the tags that have been written are found again
(`tagsOf?_text`).  The lines of different switches belong to different series.  The rows of one
switch do so as long as its port names are different, those that are made up for rows beyond the
configured ports included (`nodup_tags_iff`).
-/

namespace ManagedSwitch
namespace MetricLine

section Reading

/-- A value is read up to the first mark that is not escaped. -/
def takeTag (mark : Char) : List Char → Option (List Char × List Char)
  | [] => none
  | '\\' :: c :: rest => (takeTag mark rest).map fun read => (c :: read.1, read.2)
  | c :: rest =>
    if c = mark then some ([], rest)
    else (takeTag mark rest).map fun read => (c :: read.1, read.2)

/-- The tags of a metric line. -/
structure Tags where
  switch : String
  host : String
  port : String
deriving DecidableEq

/-- The tags of a line, if it is a metric line. -/
def tagsOf? (line : String) : Option Tags := do
  let cs ← Text.after? "switch_port,switch=".toList line.toList
  let (switch, cs) ← takeTag ',' cs
  let cs ← Text.after? "host=".toList cs
  let (host, cs) ← takeTag ',' cs
  let cs ← Text.after? "port=".toList cs
  let (port, _) ← takeTag ' ' cs
  return ⟨String.ofList switch, String.ofList host, String.ofList port⟩

variable {mark : Char}

/-- A value is found again, up to the mark behind it, if all marks and backslashes in it have been
escaped. -/
theorem takeTag_flatMap
    {escape : Char → List Char}
    (hmark : mark ≠ '\\')
    (hescape : ∀ c, escape c = ['\\', c] ∨ escape c = [c] ∧ c ≠ '\\' ∧ c ≠ mark)
    (cs rest : List Char) :
    takeTag mark (cs.flatMap escape ++ mark :: rest) = some (cs, rest) := by
  induction cs with
  | nil =>
      rw [List.flatMap_nil, List.nil_append, takeTag.eq_3 _ _ _ fun _ _ h => absurd h hmark,
        if_pos rfl]
  | cons c cs ih =>
      rw [List.flatMap_cons, List.append_assoc]
      rcases hescape c with heq | ⟨heq, hbackslash, hne⟩
      · rw [heq, List.cons_append, List.singleton_append, takeTag, ih]
        rfl
      · rw [heq, List.singleton_append, takeTag.eq_3 _ _ _ fun _ _ h => absurd h hbackslash,
          if_neg hne, ih]
        rfl

/-- A tag that has been written is found again, up to the mark behind it. -/
theorem takeTag_escapeTag
    (hmark : mark = ',' ∨ mark = ' ')
    (s : String)
    (rest : List Char) :
    takeTag mark (escapeTag s ++ mark :: rest) = some (s.toList, rest) := by
  refine takeTag_flatMap (by rcases hmark with rfl | rfl <;> decide) (fun c => ?_) s.toList rest
  rw [escapeTagChar]
  split
  · exact Or.inl rfl
  · next hplain =>
      simp only [Bool.or_eq_true, decide_eq_true_eq, not_or] at hplain
      obtain ⟨⟨⟨hbackslash, hcomma⟩, -⟩, hspace⟩ := hplain
      refine Or.inr ⟨rfl, hbackslash, ?_⟩
      rintro rfl
      exact hmark.elim hcomma hspace

/-- The tags of a metric line are the key and the address of the switch, and the name of the
port. -/
theorem tagsOf?_text
    (s : Switch)
    (port : String)
    (stats : PortStats) :
    tagsOf? (text s port stats) = some ⟨s.key, s.address, port⟩ := by
  simp only [tagsOf?, Scrape.toList_text, Text.after?_append, Option.bind_eq_bind, Option.bind_some,
    takeTag_escapeTag (Or.inl rfl), takeTag_escapeTag (Or.inr rfl), String.ofList_toList]
  rfl

/-- A line with tags is a metric line. -/
theorem tagsOf?_eq_none_of_error
    {line : String}
    (herror : "# ERROR ".toList <+: line.toList) :
    tagsOf? line = none := by
  obtain ⟨rest, hrest⟩ := herror
  have hhash : "# ERROR ".toList = '#' :: " ERROR ".toList := rfl
  have hword : "switch_port,switch=".toList = 's' :: "witch_port,switch=".toList := rfl
  rw [tagsOf?, ← hrest, hhash, hword, List.cons_append, Text.after?]
  rfl

end Reading

end MetricLine

namespace Scrape

section Names

variable {s : Switch}

theorem madeUpName_injective :
    Function.Injective madeUpName := by
  intro i j heq
  have htext : Number.natText (i + 1) = Number.natText (j + 1) :=
    (String.append_right_inj "port").mp heq
  exact Nat.succ.inj (Number.natText_injective htext)

/-- The names of a number of ports are different exactly if no configured name is one that is made
up for a port among them. -/
theorem nodup_map_portName_iff
    (hports : (s.ports.map Port.name).Nodup)
    (n : Nat) :
    ((List.range n).map (portName s)).Nodup ↔
      ∀ port ∈ s.ports, ∀ j, s.ports.length ≤ j → j < n → port.name ≠ madeUpName j := by
  rw [List.nodup_map_iff_inj_on List.nodup_range]
  simp only [List.mem_range]
  constructor
  · intro hinj port hport j hle hlt heq
    obtain ⟨i, hi, rfl⟩ := List.mem_iff_getElem.mp hport
    rw [← portName_of_some (List.getElem?_eq_getElem hi), ← portName_of_le hle] at heq
    have hij := hinj i (Nat.lt_trans (Nat.lt_of_lt_of_le hi hle) hlt) j hlt heq
    omega
  · intro hother i hi j hj heq
    rcases Nat.lt_or_ge i s.ports.length with hi' | hi' <;>
      rcases Nat.lt_or_ge j s.ports.length with hj' | hj'
    · rw [portName_of_some (List.getElem?_eq_getElem hi'),
        portName_of_some (List.getElem?_eq_getElem hj')] at heq
      refine (List.getElem?_inj (by rwa [List.length_map]) hports).mp ?_
      rw [List.getElem?_map, List.getElem?_map, List.getElem?_eq_getElem hi',
        List.getElem?_eq_getElem hj', Option.map_some, Option.map_some, heq]
    · rw [portName_of_some (List.getElem?_eq_getElem hi'), portName_of_le hj'] at heq
      exact absurd heq (hother _ (List.getElem_mem hi') j hj' hj)
    · rw [portName_of_some (List.getElem?_eq_getElem hj'), portName_of_le hi'] at heq
      exact absurd heq.symm (hother _ (List.getElem_mem hj') i hi' hi)
    · rw [portName_of_le hi', portName_of_le hj'] at heq
      exact madeUpName_injective heq

end Names

section Series

variable {τ : Type}

/-- The port names in the metric lines of a switch. -/
def shownNames (dealt : Switch × Option (Answer τ)) : List String :=
  match result dealt.1 dealt.2 with
  | .ok rows => (List.range rows.length).map (portName dealt.1)
  | .error _ => []

/-- The port names of a switch are different unless a configured name is also made up. -/
theorem nodup_shownNames_iff
    {dealt : Switch × Option (Answer τ)}
    (hports : (dealt.1.ports.map Port.name).Nodup) :
    (shownNames dealt).Nodup ↔
      ∀ rows, Shows dealt.2 rows →
        ∀ port ∈ dealt.1.ports, ∀ j, dealt.1.ports.length ≤ j → j < rows.length →
          port.name ≠ madeUpName j := by
  rw [shownNames]
  cases hresult : result dealt.1 dealt.2 with
  | ok rows =>
      simp only [shows_iff_of_result_eq_ok hresult, forall_eq]
      exact nodup_map_portName_iff hports rows.length
  | error failure =>
      refine iff_of_true List.nodup_nil fun rows hshows => ?_
      exact absurd hshows (not_shows_of_result_eq_error hresult rows)

variable [Seconds τ]

/-- The series of the lines of a switch are its ports. -/
theorem filterMap_tagsOf?_report
    (dealt : Switch × Option (Answer τ)) :
    (report dealt).filterMap MetricLine.tagsOf? =
      (shownNames dealt).map fun port => ⟨dealt.1.key, dealt.1.address, port⟩ := by
  rw [report, shownNames]
  cases result dealt.1 dealt.2 with
  | ok rows =>
      have htags :
          (MetricLine.tagsOf? ∘ fun r : PortStats × Nat =>
              MetricLine.text dealt.1 (portName dealt.1 r.2) r.1) =
            fun r => some ⟨dealt.1.key, dealt.1.address, portName dealt.1 r.2⟩ :=
        funext fun r => MetricLine.tagsOf?_text dealt.1 _ r.1
      dsimp only
      rw [linesFor, metricLines, List.filterMap_map, htags, List.filterMap_eq_map',
        List.range_eq_range', ← List.zipIdx_map_snd, List.map_map, List.map_map]
      rfl
  | error failure =>
      rw [linesFor, List.filterMap_cons,
        MetricLine.tagsOf?_eq_none_of_error (error_prefix_errorLine dealt.1 failure)]
      rfl

/-- Switches with different keys share no series. -/
theorem nodup_filterMap_tagsOf?_iff
    {found : List (Switch × Option (Answer τ))}
    (hkeys : (found.map fun dealt => dealt.1.key).Nodup) :
    ((found.flatMap report).filterMap MetricLine.tagsOf?).Nodup ↔
      ∀ dealt ∈ found, (shownNames dealt).Nodup := by
  have htagged :
      ∀ dealt : Switch × Option (Answer τ),
        Function.Injective fun port : String =>
          (⟨dealt.1.key, dealt.1.address, port⟩ : MetricLine.Tags) :=
    fun _ _ _ heq => (MetricLine.Tags.mk.inj heq).2.2
  rw [List.filterMap_flatMap, List.nodup_flatMap]
  simp only [filterMap_tagsOf?_report, List.nodup_map_iff (htagged _)]
  refine and_iff_left ((List.pairwise_map.mp hkeys).imp fun {d e} hne => ?_)
  intro tags hd he
  obtain ⟨_, -, rfl⟩ := List.mem_map.mp hd
  obtain ⟨_, -, heq⟩ := List.mem_map.mp he
  exact hne (MetricLine.Tags.mk.inj heq).1.symm

end Series

section Uniqueness

/-- The switches of a configuration that has been read have different keys. -/
theorem nodup_map_key_deal
    {τ : Type}
    {d : Document}
    {config : Config}
    (hread : Config.read d = .ok config)
    (answers : List (Answer τ)) :
    ((deal config.switches.values answers).map fun dealt => dealt.1.key).Nodup := by
  have hnodup := (Config.wellFormed_of_read hread).nodup_map_key
  rw [← map_fst_deal config.switches.values answers, List.map_map] at hnodup
  exact hnodup

variable {τ : Type} [Seconds τ]

/-- The metric lines of a configuration that has been read belong to different series, given that
the ports of each switch have different names, exactly if no page shows more rows than its switch
has configured ports and one of the names made up for these rows is that of a configured port. -/
theorem nodup_tags_iff
    {d : Document}
    {config : Config}
    (hread : Config.read d = .ok config)
    (hports : ∀ s ∈ config.switches.values, (s.ports.map Port.name).Nodup)
    (timeout : τ)
    (w : World τ) :
    let answers := ((Client.answers (pageCalls timeout config.switches.values)).run w).1
    let lines := ((allLines timeout config.switches.values).run w).1
    (∀ line ∈ lines,
      (MetricLine.tagsOf? line).isSome ↔ ¬"# ERROR ".toList <+: line.toList) ∧
    ((lines.filterMap MetricLine.tagsOf?).Nodup ↔
      ∀ dealt ∈ deal config.switches.values answers, ∀ rows, Shows dealt.2 rows →
        ∀ port ∈ dealt.1.ports, ∀ j, dealt.1.ports.length ≤ j → j < rows.length →
          port.name ≠ madeUpName j) := by
  intro answers lines
  obtain ⟨-, hlines, -⟩ := hears_allLines timeout config.switches.values w
  constructor
  · intro line hline
    rw [show lines = _ from hlines] at hline
    obtain ⟨dealt, -, hline⟩ := List.mem_flatMap.mp hline
    obtain ⟨port, stats, rfl⟩ | ⟨failure, rfl⟩ := text_or_error_of_mem_report hline
    · rw [MetricLine.tagsOf?_text]
      exact iff_of_true rfl (not_error_prefix_text dealt.1 port stats)
    · have herror := error_prefix_errorLine dealt.1 failure
      rw [MetricLine.tagsOf?_eq_none_of_error herror]
      exact iff_of_false Bool.false_ne_true (not_not_intro herror)
  · show (((allLines timeout config.switches.values).run w).1.filterMap _).Nodup ↔ _
    rw [hlines, nodup_filterMap_tagsOf?_iff (nodup_map_key_deal hread answers)]
    exact forall₂_congr fun dealt hd => nodup_shownNames_iff (hports dealt.1 (mem_of_mem_deal hd))

theorem nodup_tags_iff_twoSwitches :
    (∀ s ∈ Config.twoSwitchesConfig.switches.values, (s.ports.map Port.name).Nodup) ∧
      ((((allLines 10 Config.twoSwitchesConfig.switches.values).run
            Config.answeringWorld).1.filterMap MetricLine.tagsOf?).Nodup ↔
        ∀ dealt ∈ deal Config.twoSwitchesConfig.switches.values
            ((Client.answers (pageCalls 10 Config.twoSwitchesConfig.switches.values)).run
              Config.answeringWorld).1,
          ∀ rows, Shows dealt.2 rows → ∀ port ∈ dealt.1.ports, ∀ j,
            dealt.1.ports.length ≤ j → j < rows.length → port.name ≠ madeUpName j) := by
  have hports : ∀ s ∈ Config.twoSwitchesConfig.switches.values, (s.ports.map Port.name).Nodup := by
    decide
  exact ⟨hports,
    (nodup_tags_iff Config.read_twoSwitches hports 10 Config.answeringWorld).2⟩

/-- A document with a switch whose only port has the name that is made up for a port behind it. -/
def takenDocument : Document :=
  .map [
    (.text "vlans", .map [(.int 10, .text "data")]),
    (.text "templates", .map [(.text "access", .map [(.int 10, .text "pvid")])]),
    (.text "switches", .map [
      (.text "a", .map [
        (.text "name", .text "A"), (.text "address", .text "10.0.0.1"),
        (.text "ports",
          .list [.map [(.text "name", .text "port2"), (.text "template", .text "access")]]),
        (.text "auth", .map [
          (.text "type", .text "xike"), (.text "user", .text "admin"),
          (.text "pass", .text "secret"), (.text "resp", .text "0123")])])])]

/-- The configuration of `takenDocument`. -/
def takenConfig : Config :=
  { Config.twoSwitchesConfig with
    switches := Table.ofList [
      ("a", ⟨"a", "A", "10.0.0.1", some ⟨"xike", "admin", "secret", "0123"⟩,
        [⟨"port2", "access"⟩]⟩)] }

theorem read_takenDocument :
    Config.read takenDocument = .ok takenConfig := by
  have hport :
      Config.IsPort (.map [(.text "name", .text "port2"), (.text "template", .text "access")])
        ⟨"port2", "access"⟩ :=
    ⟨_, rfl, ⟨_, rfl, rfl, rfl⟩, ⟨_, rfl, rfl, rfl⟩⟩
  refine Config.read_of_switches (.cons ⟨⟨rfl, rfl⟩, rfl, ?_⟩ .nil)
  refine ⟨_, _, rfl, rfl, .cons hport .nil, ⟨_, rfl, rfl, rfl⟩, ⟨_, rfl, rfl, rfl⟩, Or.inr ?_⟩
  exact ⟨_, _, rfl, rfl, _, rfl, ⟨_, rfl, rfl, rfl⟩, rfl, ⟨_, rfl, rfl, rfl⟩, ⟨_, rfl, rfl, rfl⟩,
    ⟨_, rfl, rfl, rfl⟩⟩

/-- Both rows are published under the name of the first port. -/
theorem not_nodup_tags_takenConfig :
    Config.read takenDocument = .ok takenConfig ∧
      (∀ s ∈ takenConfig.switches.values, (s.ports.map Port.name).Nodup) ∧
      ¬(((allLines 10 takenConfig.switches.values).run twoRowsWorld).1.filterMap
        MetricLine.tagsOf?).Nodup := by
  obtain ⟨-, hlines, -⟩ := hears_allLines 10 takenConfig.switches.values twoRowsWorld
  refine ⟨read_takenDocument, by decide, ?_⟩
  rw [hlines, nodup_filterMap_tagsOf?_iff (nodup_map_key_deal read_takenDocument _)]
  decide +kernel

end Uniqueness

end Scrape
end ManagedSwitch

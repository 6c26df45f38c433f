import ManagedSwitch.Proofs.Stats.Series

/-!
# Reading metric lines

`ofLine?` reads a metric line: three tags, each up to the first comma or space that is not escaped,
the state up to the first quotation mark that is not escaped, and five numbers.  It finds what the
line has been written for, whatever stands in the tags and in the state, so that lines are equal
only if all of this is equal (`ofLine?_text_and_unique`).

The marks in a value are escaped one after the other, each time in all that has been written so far.
That makes no difference as long as the backslash comes first (`escapeInTurn_eq`): no later mark is
one that an earlier one has brought in.
-/

namespace ManagedSwitch
namespace MetricLine

section Escapes

/-- Puts a backslash in front of a mark wherever it occurs. -/
def escapeMark
    (cs : List Char)
    (mark : Char) :
    List Char :=
  cs.flatMap fun c => if c = mark then ['\\', c] else [c]

/-- Escapes marks one after the other. -/
def escapeInTurn (marks cs : List Char) : List Char :=
  marks.foldl escapeMark cs

/-- Escapes some marks all at once. -/
def escapeAmong
    (marks : List Char)
    (c : Char) :
    List Char :=
  if c ∈ marks then ['\\', c] else [c]

/-- A further mark is escaped as if it had been among the others. -/
theorem escapeMark_flatMap_escapeAmong
    {marks : List Char}
    {mark : Char}
    (hbackslash : '\\' ∈ marks)
    (hmark : mark ∉ marks)
    (cs : List Char) :
    escapeMark (cs.flatMap (escapeAmong marks)) mark =
      cs.flatMap (escapeAmong (marks ++ [mark])) := by
  rw [escapeMark, List.flatMap_assoc]
  refine List.flatMap_congr fun c _ => ?_
  by_cases hc : c ∈ marks
  · -- Neither the backslash that has been put in nor the character behind it is the new mark.
    have hfirst : '\\' ≠ mark := fun heq => hmark (heq ▸ hbackslash)
    have hsecond : c ≠ mark := fun heq => hmark (heq ▸ hc)
    simp [escapeAmong, hc, hfirst, hsecond]
  · simp [escapeAmong, hc]

/-- Escaping marks one after the other is escaping them all at once, if the backslash is the
first. -/
theorem escapeInTurn_eq
    {marks : List Char}
    (hnodup : ('\\' :: marks).Nodup)
    (cs : List Char) :
    escapeInTurn ('\\' :: marks) cs = cs.flatMap (escapeAmong ('\\' :: marks)) := by
  have hfold :
      ∀ more done : List Char, '\\' ∈ done → (done ++ more).Nodup →
        more.foldl escapeMark (cs.flatMap (escapeAmong done)) =
          cs.flatMap (escapeAmong (done ++ more)) := by
    intro more
    induction more with
    | nil =>
        intro done _ _
        rw [List.append_nil]
        rfl
    | cons mark more ih =>
        intro done hbackslash hnodup
        have hmark : mark ∉ done := by
          intro hmem
          exact List.disjoint_of_nodup_append hnodup hmem List.mem_cons_self
        rw [List.append_cons] at hnodup ⊢
        rw [List.foldl_cons, escapeMark_flatMap_escapeAmong hbackslash hmark]
        exact ih (done ++ [mark]) (List.mem_append_left _ hbackslash) hnodup
  have hfirst : escapeMark cs '\\' = cs.flatMap (escapeAmong ['\\']) :=
    List.flatMap_congr fun c _ => by simp [escapeAmong]
  rw [escapeInTurn, List.foldl_cons, hfirst]
  exact hfold marks ['\\'] List.mem_cons_self hnodup

/-- In tags, backslashes, commas, equals signs and spaces are escaped in turn. -/
theorem escapeTag_eq
    (s : String) :
    escapeTag s = escapeInTurn ['\\', ',', '=', ' '] s.toList := by
  rw [escapeInTurn_eq (by decide), escapeTag]
  refine List.flatMap_congr fun c _ => ?_
  simp [escapeTagChar, escapeAmong, or_assoc]

/-- In the state, backslashes and quotation marks are escaped in turn. -/
theorem escapeField_eq
    (s : String) :
    escapeField s = escapeInTurn ['\\', '"'] s.toList := by
  rw [escapeInTurn_eq (by decide), escapeField]
  refine List.flatMap_congr fun c _ => ?_
  simp [escapeFieldChar, escapeAmong]

end Escapes

section Reading

/-- What a metric line says. -/
structure Metric where
  tags : Tags
  stats : PortStats
deriving DecidableEq

/-- A number behind a given beginning, up to the letter for integers. -/
def counter?
    (front : String)
    (cs : List Char) :
    Option (Int × List Char) := do
  let cs ← Text.after? front.toList cs
  let (digits, cs) ← Text.cutAt 'i' cs
  return (← Number.integer? digits, cs)

/-- A truth value that is written as a number. -/
def flag? (n : Int) : Option Bool :=
  if n = 0 then some false else if n = 1 then some true else none

/-- The statistics in the fields of a line. -/
def stats? (cs : List Char) : Option PortStats := do
  let cs ← Text.after? "state=\"".toList cs
  let (state, cs) ← takeTag '"' cs
  let (up, cs) ← counter? ",link_up=" cs
  let (sentGood, cs) ← counter? ",tx_good=" cs
  let (sentBad, cs) ← counter? ",tx_bad=" cs
  let (receivedGood, cs) ← counter? ",rx_good=" cs
  let (receivedBad, cs) ← counter? ",rx_bad=" cs
  if cs.isEmpty then
    return ⟨String.ofList state, ← flag? up, sentGood, sentBad, receivedGood, receivedBad⟩
  else
    none

/-- Reads a metric line. -/
def ofLine? (line : String) : Option Metric := do
  let cs ← Text.after? "switch_port,switch=".toList line.toList
  let (switch, cs) ← takeTag ',' cs
  let cs ← Text.after? "host=".toList cs
  let (host, cs) ← takeTag ',' cs
  let cs ← Text.after? "port=".toList cs
  let (port, cs) ← takeTag ' ' cs
  return ⟨⟨String.ofList switch, String.ofList host, String.ofList port⟩, ← stats? cs⟩

/-- A state that has been written is found again, up to the quotation mark behind it. -/
theorem takeTag_escapeField
    (s : String)
    (rest : List Char) :
    takeTag '"' (escapeField s ++ '"' :: rest) = some (s.toList, rest) := by
  refine takeTag_flatMap (by decide) (fun c => ?_) s.toList rest
  rw [escapeFieldChar]
  split
  · exact Or.inl rfl
  · next hplain =>
      simp only [Bool.or_eq_true, decide_eq_true_eq, not_or] at hplain
      exact Or.inr ⟨rfl, hplain⟩

/-- A number that has been written is found again. -/
theorem counter?_chars
    (front : String)
    (n : Int)
    (rest : List Char) :
    counter? front (front.toList ++ (Number.chars n ++ 'i' :: rest)) = some (n, rest) := by
  have hchars : 'i' ∉ Number.chars n := by
    intro hmem
    rcases Number.mem_chars hmem with heq | hdigit
    · exact absurd heq (by decide)
    · exact absurd hdigit (by decide)
  have hcut :
      Text.cutAt 'i' (Number.chars n ++ 'i' :: rest) = some (Number.chars n, rest) :=
    Text.cutAt_eq_some_iff.mpr ⟨rfl, hchars⟩
  simp [counter?, hcut]

theorem cons_counterField
    (name front : String)
    (hfront : front.toList = ',' :: (name.toList ++ ['=']))
    (n : Int)
    (rest : List Char) :
    ',' :: (counterField name n ++ rest) = front.toList ++ (Number.chars n ++ 'i' :: rest) := by
  rw [hfront, counterField]
  simp only [List.append_assoc, List.cons_append, List.nil_append]

/-- The fields of a line, each behind its beginning. -/
theorem fields_eq
    (stats : PortStats) :
    fields stats =
      "state=\"".toList ++ (escapeField stats.state ++ '"' ::
        (",link_up=".toList ++ (Number.chars (if stats.linkUp then 1 else 0) ++ 'i' ::
          (",tx_good=".toList ++ (Number.chars stats.sentGood ++ 'i' ::
            (",tx_bad=".toList ++ (Number.chars stats.sentBad ++ 'i' ::
              (",rx_good=".toList ++ (Number.chars stats.receivedGood ++ 'i' ::
                (",rx_bad=".toList ++ (Number.chars stats.receivedBad ++ ['i']))))))))))) := by
  have hquote : "\",".toList = ['"', ','] := rfl
  unfold fields
  rw [hquote, ← List.append_nil (counterField "rx_bad" _)]
  simp only [List.append_assoc, List.cons_append, List.nil_append]
  rw [cons_counterField "link_up" ",link_up=" rfl, cons_counterField "tx_good" ",tx_good=" rfl,
    cons_counterField "tx_bad" ",tx_bad=" rfl, cons_counterField "rx_good" ",rx_good=" rfl,
    cons_counterField "rx_bad" ",rx_bad=" rfl]

/-- The statistics are found again. -/
theorem stats?_fields
    (stats : PortStats) :
    stats? (fields stats) = some stats := by
  have hflag : flag? (if stats.linkUp then 1 else 0) = some stats.linkUp := by
    cases stats.linkUp <;> rfl
  simp only [stats?, fields_eq, Text.after?_append, takeTag_escapeField, counter?_chars, hflag,
    Option.bind_eq_bind, Option.bind_some, String.ofList_toList]
  rfl

/-- A metric line is read as what it has been written for. -/
theorem ofLine?_text
    (s : Switch)
    (port : String)
    (stats : PortStats) :
    ofLine? (text s port stats) = some ⟨⟨s.key, s.address, port⟩, stats⟩ := by
  simp only [ofLine?, Scrape.toList_text, Text.after?_append, takeTag_escapeTag (Or.inl rfl),
    takeTag_escapeTag (Or.inr rfl), stats?_fields, Option.bind_eq_bind, Option.bind_some,
    String.ofList_toList]
  rfl

/-- Lines are equal exactly if they have been written for the same. -/
theorem text_eq_text_iff
    {s s' : Switch}
    {port port' : String}
    {stats stats' : PortStats} :
    text s port stats = text s' port' stats' ↔
      s.key = s'.key ∧ s.address = s'.address ∧ port = port' ∧ stats = stats' := by
  constructor
  · intro heq
    have hread := ofLine?_text s port stats
    rw [heq, ofLine?_text] at hread
    obtain ⟨⟨hkey, haddress, hport⟩, hstats⟩ : _ ∧ _ := by
      simpa only [Option.some.injEq, Metric.mk.injEq, Tags.mk.injEq] using hread
    exact ⟨hkey.symm, haddress.symm, hport.symm, hstats.symm⟩
  · rintro ⟨hkey, haddress, rfl, rfl⟩
    unfold text tags
    rw [hkey, haddress]

end Reading

end MetricLine
end ManagedSwitch

import ManagedSwitch.Proofs.Config.Outcome
import ManagedSwitch.Proofs.Number.Limit
import ManagedSwitch.Proofs.Number.Numeral
import ManagedSwitch.Proofs.Text.Words
import ManagedSwitch.Stats.PortStats

/-!
# Tables of ports

A table has a row for every port, with the state of the port, that of its link and four numbers in
cells behind the first one; rows with another number of cells are layout.  `Renders` says which
ports the rows of a table show: white space may stand around what is in a cell, spaces may be wider,
and numbers may have commas anywhere.

The ports of a table are read in order (`Renders.ofRowsFrom_eq`).  If a counter is no integer, the
table is refused, and the first row with such a counter is named by its number among the rows of
ports (`ofRowsFrom_eq_error_iff`).  `ofPage_reads_back` has both.
-/

namespace ManagedSwitch
namespace PortStats

section Tables

/-- What the table shows of a port. -/
structure Entry where
  state : String
  link : String
  sentGood : Nat
  sentBad : Nat
  receivedGood : Nat
  receivedBad : Nat

/-- The statistics of a port that is shown. -/
def Entry.stats (e : Entry) : PortStats :=
  ⟨Text.normalize e.state, Text.normalize e.link = "Link Up", e.sentGood, e.sentBad,
    e.receivedGood, e.receivedBad⟩

/-- A cell with a number below the limit, in decimal with commas anywhere. -/
structure ShowsCounter (cell : String) (n : Nat) : Prop where
  lt : n < Number.tooLong
  spaced : ∃ text, Text.Spaced text cell ∧ text.toList.filter (· != ',') = n.repr.toList

/-- The cells of the row of a port.  What is in the first one does not matter. -/
inductive ShowsEntry : List String → Entry → Prop
  | cells {e : Entry} {state link a b c d : String} (first : String) :
    Text.Spaced e.state state → Text.Spaced e.link link →
      ShowsCounter a e.sentGood → ShowsCounter b e.sentBad →
      ShowsCounter c e.receivedGood → ShowsCounter d e.receivedBad →
      ShowsEntry [first, state, link, a, b, c, d] e

/-- The rows of a table that shows some ports. -/
inductive Renders : List (List String) → List Entry → Prop
  | nil : Renders [] []
  | layout {cells : List String} {rows : List (List String)} {entries : List Entry} :
    cells.length ≠ 7 → Renders rows entries → Renders (cells :: rows) entries
  | port {cells : List String} {e : Entry} {rows : List (List String)} {entries : List Entry} :
    ShowsEntry cells e → Renders rows entries → Renders (cells :: rows) (e :: entries)

/-- A cell in which an integer stands, once the commas are left out. -/
def IsInteger (cell : String) : Prop :=
  Number.IsNumeral (String.ofList ((Text.normalize cell).toList.filter (· != ',')))

/-- The cells of the row of a port with a counter that is no integer, while all counters in front
of it are. -/
def FaultyAt (cells : List String) (counter : String) : Prop :=
  cells.length = 7 ∧
    Config.FirstAt IsInteger (fun cell => cell = counter ∧ ¬IsInteger cell) (cells.drop 3)

/-- The cells of the row of a port with a counter that is no integer. -/
def Faulty (cells : List String) : Prop :=
  cells.length = 7 ∧ ∃ cell ∈ cells.drop 3, ¬IsInteger cell

end Tables

section Counters

/-- A counter that is shown is read. -/
theorem counter_of_showsCounter
    {cell : String}
    {n : Nat}
    (h : ShowsCounter cell n)
    (row : Nat) :
    counter row (Text.normalize cell) = .ok n := by
  obtain ⟨text, hspaced, hdigits⟩ := h.spaced
  rw [← Number.natText_eq_repr] at hdigits
  have hblank : ∀ c ∈ text.toList, Text.isBlank c = false := by
    intro c hc
    by_cases hcomma : c = ','
    · rw [hcomma]
      rfl
    · have hmem : c ∈ (Number.natText n).toList := by
        rw [← hdigits]
        exact List.mem_filter.mpr ⟨hc, by simpa using hcomma⟩
      rw [Number.natText, String.toList_ofList] at hmem
      refine Text.not_isBlank_of_isDecimalDigit ?_
      rw [Text.isDecimalDigit, Text.digitValue, if_pos (Number.isDigit_of_mem_digits hmem)]
      rfl
  rw [counter, hspaced.normalize_eq, Text.normalize_eq_self hblank, hdigits, String.ofList_toList,
    Number.read?_natText h.lt]

/-- A cell with an integer is read. -/
theorem exists_counter_iff
    {cell : String}
    {row : Nat} :
    (∃ n, counter row (Text.normalize cell) = .ok n) ↔ IsInteger cell := by
  rw [IsInteger, ← Number.isSome_read?_iff, counter]
  cases Number.read? _ <;> simp

/-- A cell without one is refused. -/
theorem counter_eq_error_iff
    {cell : String}
    {row : Nat}
    {bad : BadCounter} :
    counter row (Text.normalize cell) = .error bad ↔
      ¬IsInteger cell ∧ bad = ⟨Text.normalize cell, row⟩ := by
  rw [IsInteger, ← Number.isSome_read?_iff, counter]
  cases Number.read? _ <;> simp [eq_comm]

end Counters

section Rows

variable {cells : List String} (row : Nat)

/-- The statistics in the row of a port are made of the numbers in the cells behind the first
three. -/
theorem exists_ofCells_eq
    (hlength : cells.length = 7) :
    ∃ build : List Int → PortStats, ofCells row (Markup.cellTexts cells) =
      ((cells.drop 3).mapM fun cell => counter row (Text.normalize cell)).map
        fun counters => some (build counters) := by
  match cells, hlength with
  | [_, state, link, a, b, c, d], _ =>
      refine ⟨fun counters => ⟨Text.normalize state, Text.normalize link == linkUpText,
        counters.getD 0 0, counters.getD 1 0, counters.getD 2 0, counters.getD 3 0⟩, ?_⟩
      simp only [Markup.cellTexts, List.map_cons, List.map_nil, ofCells, List.drop_succ_cons,
        List.drop_zero, List.mapM_cons, List.mapM_nil]
      cases counter row (Text.normalize a) with
      | error e => rfl
      | ok _ =>
          cases counter row (Text.normalize b) with
          | error e => rfl
          | ok _ =>
              cases counter row (Text.normalize c) with
              | error e => rfl
              | ok _ => cases counter row (Text.normalize d) <;> rfl

/-- One after the other is done until the first fails. -/
theorem mapM_eq_error_iff
    {ε α β : Type}
    {f : α → Except ε β}
    {xs : List α}
    {e : ε} :
    xs.mapM f = .error e ↔
      Config.FirstAt (fun x => ∃ b, f x = .ok b) (fun x => f x = .error e) xs := by
  induction xs with
  | nil =>
      simp [pure, Except.pure]
  | cons x xs ih =>
      rw [List.mapM_cons, Config.firstAt_cons, ← ih]
      cases f x with
      | error e' =>
          simp [bind, Except.bind]
      | ok b =>
          cases xs.mapM f <;> simp [bind, Except.bind, pure, Except.pure]

/-- A row of a port is refused for the first counter that is no integer. -/
theorem ofCells_eq_error_iff
    (hlength : cells.length = 7)
    {bad : BadCounter} :
    ofCells row (Markup.cellTexts cells) = .error bad ↔
      ∃ counter, FaultyAt cells counter ∧ bad = ⟨Text.normalize counter, row⟩ := by
  obtain ⟨build, hbuild⟩ := exists_ofCells_eq row hlength
  have hmap : ∀ r : Except BadCounter (List Int),
      r.map (fun counters => some (build counters)) = .error bad ↔ r = .error bad := by
    intro r
    cases r <;> simp [Except.map]
  rw [hbuild, hmap, mapM_eq_error_iff]
  simp only [exists_counter_iff, counter_eq_error_iff]
  constructor
  · rintro ⟨before, cell, after, heq, hbefore, hcell, rfl⟩
    exact ⟨cell, ⟨hlength, before, cell, after, heq, hbefore, rfl, hcell⟩, rfl⟩
  · rintro ⟨counter, ⟨-, before, cell, after, heq, hbefore, rfl, hcell⟩, rfl⟩
    exact ⟨before, cell, after, heq, hbefore, hcell, rfl⟩

/-- A row with another number of cells is layout. -/
theorem ofCells_of_layout
    (hlength : cells.length ≠ 7) :
    ofCells row (Markup.cellTexts cells) = .ok none := by
  rw [ofCells.eq_def]
  split
  · next hcells =>
      refine absurd ?_ hlength
      rw [← List.length_map Text.normalize]
      exact congrArg List.length hcells
  · rfl

theorem faulty_iff :
    Faulty cells ↔ ∃ counter, FaultyAt cells counter := by
  constructor
  · rintro ⟨hlength, hcell⟩
    obtain ⟨before, cell, after, heq, hbefore, hbad⟩ :=
      Config.exists_firstAt (fun cell => em (IsInteger cell)) hcell
    exact ⟨cell, hlength, before, cell, after, heq, hbefore, rfl, hbad⟩
  · rintro ⟨counter, hlength, before, cell, after, heq, -, -, hbad⟩
    exact ⟨hlength, cell, by simp [heq], hbad⟩

/-- A row of a port without such a counter gives statistics. -/
theorem exists_ofCells_of_not_faulty
    (hlength : cells.length = 7)
    (hsound : ¬Faulty cells) :
    ∃ stats, ofCells row (Markup.cellTexts cells) = .ok (some stats) := by
  obtain ⟨build, hbuild⟩ := exists_ofCells_eq row hlength
  cases hcounters : (cells.drop 3).mapM fun cell => counter row (Text.normalize cell) with
  | ok counters =>
      exact ⟨build counters, by rw [hbuild, hcounters]; rfl⟩
  | error bad =>
      have herror : ofCells row (Markup.cellTexts cells) = .error bad := by
        rw [hbuild, hcounters]
        rfl
      obtain ⟨counter, hfaulty, -⟩ := (ofCells_eq_error_iff row hlength).mp herror
      exact absurd (faulty_iff.mpr ⟨counter, hfaulty⟩) hsound

/-- The row of a port that is shown gives its statistics. -/
theorem ofCells_of_showsEntry
    {e : Entry}
    (h : ShowsEntry cells e) :
    ofCells row (Markup.cellTexts cells) = .ok (some e.stats) := by
  cases h with
  | cells first hstate hlink ha hb hc hd =>
      simp only [Markup.cellTexts, List.map_cons, List.map_nil, ofCells,
        counter_of_showsCounter ha, counter_of_showsCounter hb, counter_of_showsCounter hc,
        counter_of_showsCounter hd, hstate.normalize_eq, hlink.normalize_eq]
      rfl

end Rows

section Reading

variable {rows : List (List String)} {row : Nat} {bad : BadCounter}

/-- What is refused in a row is refused in the table. -/
theorem ofRowsFrom_cons_of_error
    {cells : List String}
    (h : ofCells row (Markup.cellTexts cells) = .error bad) :
    ofRowsFrom row (cells :: rows) = .error bad := by
  rw [ofRowsFrom, h]
  rfl

/-- Layout is passed over. -/
theorem ofRowsFrom_cons_of_layout
    {cells : List String}
    (h : ofCells row (Markup.cellTexts cells) = .ok none) :
    ofRowsFrom row (cells :: rows) = ofRowsFrom row rows := by
  rw [ofRowsFrom, h]
  rfl

/-- The statistics of a port come before those of the ports behind it. -/
theorem ofRowsFrom_cons_of_port
    {cells : List String}
    {stats : PortStats}
    (h : ofCells row (Markup.cellTexts cells) = .ok (some stats)) :
    ofRowsFrom row (cells :: rows) = (ofRowsFrom (row + 1) rows).map (stats :: ·) := by
  rw [ofRowsFrom, h]
  rfl

/-- The entries that a table shows are read in order. -/
theorem Renders.ofRowsFrom_eq
    {entries : List Entry}
    (h : Renders rows entries)
    (row : Nat) :
    ofRowsFrom row rows = .ok (entries.map Entry.stats) := by
  induction h generalizing row with
  | nil =>
      rfl
  | layout hlength _ ih =>
      rw [ofRowsFrom_cons_of_layout (ofCells_of_layout _ hlength)]
      exact ih row
  | port hcells _ ih =>
      rw [ofRowsFrom_cons_of_port (ofCells_of_showsEntry _ hcells), ih]
      rfl

/-- A table is refused for the first row of a port with a counter that is no integer; `row` is the
number of the first row of a port. -/
def RefusedFor
    (row : Nat)
    (rows : List (List String))
    (bad : BadCounter) :
    Prop :=
  ∃ before cells after counter, rows = before ++ cells :: after ∧
    (∀ other ∈ before, ¬Faulty other) ∧ FaultyAt cells counter ∧
    bad = ⟨Text.normalize counter, row + before.countP fun other => other.length = 7⟩

/-- The first row is the one, or the others are counted on from there. -/
theorem refusedFor_cons
    {cells : List String} :
    RefusedFor row (cells :: rows) bad ↔
      (∃ counter, FaultyAt cells counter ∧ bad = ⟨Text.normalize counter, row⟩) ∨
        ¬Faulty cells ∧ RefusedFor (row + if cells.length = 7 then 1 else 0) rows bad := by
  have hcount :
      ∀ before : List (List String),
        row + (cells :: before).countP (fun other => other.length = 7) =
          row + (if cells.length = 7 then 1 else 0) +
            before.countP fun other => other.length = 7 := by
    intro before
    rw [List.countP_cons, Nat.add_assoc, Nat.add_comm (List.countP _ _)]
    simp only [decide_eq_true_eq]
  constructor
  · rintro ⟨before, faulty, after, counter, heq, hbefore, hfaulty, rfl⟩
    cases before with
    | nil =>
        obtain ⟨rfl, rfl⟩ := List.cons.inj heq
        exact Or.inl ⟨counter, hfaulty, rfl⟩
    | cons other before =>
        obtain ⟨rfl, rfl⟩ := List.cons.inj heq
        rw [List.forall_mem_cons] at hbefore
        exact Or.inr ⟨hbefore.1, before, faulty, after, counter, rfl, hbefore.2, hfaulty,
          by rw [hcount]⟩
  · rintro (⟨counter, hfaulty, rfl⟩ | ⟨hsound, before, faulty, after, counter, rfl, hbefore,
      hfaulty, rfl⟩)
    · exact ⟨[], cells, rows, counter, rfl, List.forall_mem_nil _, hfaulty, rfl⟩
    · exact ⟨cells :: before, faulty, after, counter, rfl,
        List.forall_mem_cons.mpr ⟨hsound, hbefore⟩, hfaulty, by rw [hcount]⟩

/-- Reading fails exactly for what the table is to be refused for. -/
theorem ofRowsFrom_eq_error_iff :
    ofRowsFrom row rows = .error bad ↔ RefusedFor row rows bad := by
  induction rows generalizing row with
  | nil =>
      simp [ofRowsFrom, RefusedFor]
  | cons cells rows ih =>
      rw [refusedFor_cons, ← ih]
      by_cases hlength : cells.length = 7
      · rw [← ofCells_eq_error_iff row hlength, if_pos hlength]
        by_cases hfaulty : Faulty cells
        · obtain ⟨counter, hcounter⟩ := faulty_iff.mp hfaulty
          have herror :
              ofCells row (Markup.cellTexts cells) = .error ⟨Text.normalize counter, row⟩ :=
            (ofCells_eq_error_iff row hlength).mpr ⟨counter, hcounter, rfl⟩
          rw [ofRowsFrom_cons_of_error herror, herror]
          simp [hfaulty]
        · obtain ⟨stats, hstats⟩ := exists_ofCells_of_not_faulty row hlength hfaulty
          rw [ofRowsFrom_cons_of_port hstats, hstats]
          cases ofRowsFrom (row + 1) rows <;> simp [Except.map, hfaulty]
      · have hsound : ¬Faulty cells := fun h => hlength h.1
        have hnone :
            ¬∃ counter, FaultyAt cells counter ∧ bad = ⟨Text.normalize counter, row⟩ :=
          fun ⟨_, h, _⟩ => hlength h.1
        rw [ofRowsFrom_cons_of_layout (ofCells_of_layout _ hlength), if_neg hlength]
        exact ⟨fun h => Or.inr ⟨hsound, h⟩, fun h => (h.resolve_left hnone).2⟩

end Reading

section Pages

/-- What is read from the rows of a table. -/
structure ReadsBack
    (rows : List (List String))
    (result : Except BadCounter (List PortStats)) :
    Prop where
  /-- There is one entry for every port that the table shows, in order. -/
  read : ∀ entries, Renders rows entries → result = .ok (entries.map Entry.stats)
  /-- The table is refused if some port has a counter that is no integer, and only then. -/
  refused : (∃ cells ∈ rows, Faulty cells) ↔ ∃ bad, result = .error bad
  /-- The message names the first row with such a counter by its number among the rows of ports,
  counted from one. -/
  named : ∀ bad, result = .error bad →
    ∃ before cells after counter, rows = before ++ cells :: after ∧
      (∀ other ∈ before, ¬Faulty other) ∧ FaultyAt cells counter ∧
      bad.message = "Non-numeric counter " ++ Text.quote (Text.normalize counter) ++
        " in statistics row " ++ (1 + before.countP fun other => other.length = 7).repr

theorem readsBack_ofRows
    (rows : List (List String)) :
    ReadsBack rows (ofRows rows) where
  read := fun entries h => h.ofRowsFrom_eq 1
  refused := by
    simp only [ofRows, ofRowsFrom_eq_error_iff]
    constructor
    · intro hfaulty
      obtain ⟨before, cells, after, heq, hbefore, hcells⟩ :=
        Config.exists_firstAt (fun cells => (em (Faulty cells)).symm) hfaulty
      obtain ⟨counter, hcounter⟩ := faulty_iff.mp hcells
      exact ⟨_, before, cells, after, counter, heq, hbefore, hcounter, rfl⟩
    · rintro ⟨bad, before, cells, after, counter, rfl, -, hcounter, -⟩
      exact ⟨cells, by simp, faulty_iff.mpr ⟨counter, hcounter⟩⟩
  named := by
    intro bad hbad
    obtain ⟨before, cells, after, counter, heq, hbefore, hcounter, rfl⟩ :=
      ofRowsFrom_eq_error_iff.mp hbad
    refine ⟨before, cells, after, counter, heq, hbefore, hcounter, ?_⟩
    unfold BadCounter.message
    rw [Number.natText_eq_repr]

/-- The ports of a table are read back from every tree, and so from every page. -/
theorem ofPage_reads_back :
    (∀ tree : List Markup.Node, ReadsBack (Markup.rows tree) (ofRows (Markup.rows tree))) ∧
      ∀ page : String, ReadsBack (Markup.rows (Markup.page page)) (ofPage page) :=
  ⟨fun tree => readsBack_ofRows (Markup.rows tree),
    fun page => readsBack_ofRows (Markup.rows (Markup.page page))⟩

/-- A page with a heading, a port with white space and commas in its cells, and a last row of
layout. -/
def tablePage : String :=
  "<table><tr><th>Port</th></tr>" ++
    "<tr><td>Port 1</td><td> Enable </td><td>\n Link \t Up\n</td>" ++
    "<td>1,234,567</td><td>0</td><td>,12,</td><td>3 </td></tr>" ++
    "<tr><td colspan=7>Clear</td></tr></table>"

/-- What `tablePage` shows. -/
def tableEntry : Entry :=
  ⟨"Enable", "Link Up", 1234567, 0, 12, 3⟩

/-- A page whose second port has a counter that is no integer. -/
def faultyPage : String :=
  "<table><tr><td>1<td>Enable<td>Link Up<td>1<td>0<td>0<td>0</tr><tr><td>Clear</tr>" ++
    "<tr><td>2<td>Enable<td>Link Up<td>1<td>n/a<td>0<td>0</tr></table>"

theorem ofPage_tablePage :
    (Renders (Markup.rows (Markup.page tablePage)) [tableEntry] ∧
      ofPage tablePage = .ok [tableEntry.stats]) ∧
    (∃ cells ∈ Markup.rows (Markup.page faultyPage), Faulty cells) ∧
      ∃ bad, ofPage faultyPage = .error bad := by
  have hrows :
      Markup.rows (Markup.page tablePage) =
        [[], ["Port 1", " Enable ", "\n Link \t Up\n", "1,234,567", "0", ",12,", "3 "],
          ["Clear"]] := by
    decide +kernel
  have hblank : ∀ c ∈ [' '], Text.isBlank c = true :=
    List.all_eq_true.mp rfl
  have hstate : Text.Spaced "Enable" " Enable " :=
    ⟨[' '], _, [' '], rfl, hblank, hblank, .refl _⟩
  have hlink : Text.Spaced "Link Up" "\n Link \t Up\n" := by
    refine ⟨['\n', ' '], "Link \t Up".toList, ['\n'], rfl, List.all_eq_true.mp rfl,
      List.all_eq_true.mp rfl, ?_⟩
    have hup : Text.Widened " Up".toList " \t Up".toList :=
      @Text.Widened.space _ _ ' ' ['\t', ' '] rfl (List.all_eq_true.mp rfl) (.refl _)
    exact .char _ (.char _ (.char _ (.char _ hup)))
  have hplain : ∀ s, Text.Spaced s s :=
    fun s => ⟨[], s.toList, [], by simp, List.forall_mem_nil _, List.forall_mem_nil _, .refl _⟩
  have hlast : Text.Spaced "3" "3 " :=
    ⟨[], _, [' '], rfl, List.forall_mem_nil _, hblank, .refl _⟩
  have hrenders : Renders (Markup.rows (Markup.page tablePage)) [tableEntry] := by
    rw [hrows]
    refine .layout (by decide) (.port (.cells "Port 1" hstate hlink ?_ ?_ ?_ ?_)
      (.layout (by decide) .nil))
    · exact ⟨by decide +kernel, "1,234,567", hplain _, by decide +kernel⟩
    · exact ⟨by decide +kernel, "0", hplain _, by decide +kernel⟩
    · exact ⟨by decide +kernel, ",12,", hplain _, by decide +kernel⟩
    · exact ⟨by decide +kernel, "3", hlast, by decide +kernel⟩
  have hfaulty : ∃ cells ∈ Markup.rows (Markup.page faultyPage), Faulty cells := by
    have hmem :
        ["2", "Enable", "Link Up", "1", "n/a", "0", "0"] ∈
          Markup.rows (Markup.page faultyPage) := by
      decide +kernel
    refine ⟨_, hmem, rfl, "n/a", by decide, ?_⟩
    rw [IsInteger, ← Number.isSome_read?_iff]
    decide +kernel
  exact ⟨⟨hrenders, (ofPage_reads_back.2 tablePage).read _ hrenders⟩, hfaulty,
    (ofPage_reads_back.2 faultyPage).refused.mp hfaulty⟩

end Pages

end PortStats
end ManagedSwitch

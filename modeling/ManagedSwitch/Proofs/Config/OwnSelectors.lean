import ManagedSwitch.Proofs.Config.Retention
import ManagedSwitch.Proofs.Config.Selection
import ManagedSwitch.Proofs.Number.Limit
import ManagedSwitch.Proofs.Text.LetterCase

/-!
# Selecting a VLAN by its own number or name

The number of a VLAN always selects it.  Its name need not: a selector is trimmed and the name that
it is compared with is not, so that a name with white space around it is not found by itself, unless
what is left of it is the number of the VLAN; and there is no answer at all to a name that is a
number with too many digits.  The case of the letters makes no difference (`finds_own_iff_of_read`).
-/

namespace ManagedSwitch
namespace Config

section Definitions

/-- Narrowing by one selector for VLANs gives an answer, and the VLAN is there. -/
def Finds
    (config : Config)
    (switches : List String)
    (selector : String)
    (v : Int × String) :
    Prop :=
  ∃ kept, config.select? switches [selector] = some kept ∧ v ∈ kept.vlans.entries

/-- The name of the VLAN is not a number with too many digits, and it has no white space around it
or is the number of the VLAN between white space. -/
def NamesItself (v : Int × String) : Prop :=
  ShortSelector v.2 ∧
    (Text.strip v.2 = v.2 ∨
      Text.isDecimal (Text.strip v.2) ∧ Number.read? (Text.strip v.2) = some v.1)

end Definitions

section Selectors

variable {selector : String}
variable {v : Int × String}

/-- A selector means a VLAN by its digits or by its letters. -/
theorem means_iff :
    means selector v = true ↔
      (Text.isDecimal (Text.strip selector) ∧
        Number.read? (Text.strip selector) = some v.1) ∨
        Text.lower v.2 = Text.lower (Text.strip selector) := by
  rw [means, Bool.or_eq_true, Bool.and_eq_true, beq_iff_eq, beq_iff_eq]

/-- The case of letters does not make a number too long. -/
theorem shortSelector_iff_of_sameLetters
    {s : String}
    (h : Text.SameLetters selector s) :
    ShortSelector selector ↔ ShortSelector s := by
  rcases h.strip.eq_or_not_isDecimal with hsame | ⟨hselector, hs⟩
  · rw [ShortSelector, ShortSelector, hsame]
  · exact iff_of_true (fun hdecimal => absurd hdecimal hselector) fun hdecimal =>
      absurd hdecimal hs

/-- The name in letters of either case means the VLAN if nothing is trimmed off it or its digits are
the number of the VLAN. -/
theorem means_iff_of_sameLetters
    (h : Text.SameLetters selector v.2) :
    means selector v = true ↔
      Text.strip v.2 = v.2 ∨
        Text.isDecimal (Text.strip v.2) ∧ Number.read? (Text.strip v.2) = some v.1 := by
  have hdigits :
      (Text.isDecimal (Text.strip selector) ∧ Number.read? (Text.strip selector) = some v.1) ↔
        Text.isDecimal (Text.strip v.2) ∧ Number.read? (Text.strip v.2) = some v.1 := by
    rcases h.strip.eq_or_not_isDecimal with hsame | ⟨hselector, hname⟩
    · rw [hsame]
    · exact iff_of_false (fun hdecimal => hselector hdecimal.1) fun hdecimal => hname hdecimal.1
  rw [means_iff, hdigits, h.strip.lower_eq, Text.lower_eq_lower_strip_iff, or_comm]

end Selectors

section Finding

variable {config : Config}
variable {switches : List String}
variable {selector : String}
variable {v : Int × String}

/-- A number with too many digits is no selector, if there is any VLAN to compare it with. -/
theorem select?_eq_none
    (hlong : ¬ShortSelector selector)
    (hv : v ∈ config.vlans.entries) :
    config.select? switches [selector] = none := by
  rw [ShortSelector, Classical.not_imp, Nat.not_le] at hlong
  obtain ⟨hdecimal, hlength⟩ := hlong
  have hnames : anyNames? v.1 v.2 [selector] = none := by
    simp only [anyNames?, names?]
    rw [if_pos hdecimal, Number.read?_eq_none hdecimal hlength]
    rfl
  have hall :
      ¬(config.vlans.entries.all fun e => (anyNames? e.1 e.2 [selector]).isSome) = true := by
    rw [List.all_eq_true]
    intro hall
    have hsome := hall v hv
    rw [hnames] at hsome
    exact absurd hsome Bool.false_ne_true
  rw [select?, selectVlans?, if_neg (by simp), if_neg hall, Option.map_none]

theorem exists_select?_iff
    (hv : v ∈ config.vlans.entries) :
    (∃ kept, config.select? switches [selector] = some kept) ↔ ShortSelector selector := by
  constructor
  · rintro ⟨kept, hkept⟩
    by_contra hlong
    rw [select?_eq_none hlong hv] at hkept
    exact nomatch hkept
  · intro hshort
    exact config.exists_select? switches (List.forall_mem_singleton.mpr hshort)

/-- A VLAN is found by the selectors that mean it and are not too long. -/
theorem finds_iff
    (hv : v ∈ config.vlans.entries) :
    config.Finds switches selector v ↔ ShortSelector selector ∧ means selector v = true := by
  by_cases hshort : ShortSelector selector
  · have hselect := config.select?_eq switches (List.forall_mem_singleton.mpr hshort)
    have hmem :
        v ∈ (config.narrowed switches [selector]).vlans.entries ↔ means selector v = true := by
      rw [narrowed, Table.filter, List.mem_filter, and_iff_right hv, selects]
      simp
    rw [Finds, and_iff_right hshort, ← hmem, hselect]
    simp
  · rw [Finds, select?_eq_none hshort hv]
    simp [hshort]

/-- A VLAN is found by its name, in letters of either case, exactly if the name names it. -/
theorem finds_iff_namesItself
    (hv : v ∈ config.vlans.entries)
    (hselector : Text.SameLetters selector v.2) :
    config.Finds switches selector v ↔ NamesItself v := by
  rw [finds_iff hv, shortSelector_iff_of_sameLetters hselector, means_iff_of_sameLetters hselector,
    NamesItself]

/-- A VLAN is found by the text of its number. -/
theorem finds_natText
    {n : Nat}
    {name : String}
    (hn : n < Number.tooLong)
    (hv : ((n : Int), name) ∈ config.vlans.entries) :
    config.Finds switches (Number.natText n) (n, name) := by
  have hdecimal := Number.isDecimal_natText n
  have hstrip := Text.strip_of_isDecimal hdecimal
  rw [finds_iff hv, means_iff, ShortSelector, hstrip]
  exact ⟨fun _ => Number.length_natText_le hn, Or.inl ⟨hdecimal, Number.read?_natText hn⟩⟩

end Finding

section Reading

variable {d : Document}
variable {config : Config}
variable {v : Int × String}

/-- The number of a VLAN of a document is positive and can be written. -/
theorem exists_number_of_read
    (hread : read d = .ok config)
    (hv : v ∈ config.vlans.entries) :
    ∃ n : Nat, v.1 = n ∧ n < Number.tooLong := by
  have hvlans := (read_eq_ok_iff.mp hread).gathers.vlans
  obtain ⟨e, -, ⟨-, ⟨text, -, hnumber⟩, hpositive⟩, -⟩ := exists_of_mem_right hvlans hv
  obtain ⟨n, hn⟩ := Int.eq_ofNat_of_zero_le (Int.le_of_lt hpositive)
  refine ⟨n, hn, ?_⟩
  rw [← Int.natAbs_natCast n, ← hn]
  exact Number.natAbs_lt_of_read? hnumber

/-- A VLAN that was read is found by its number.  By its name, in letters of either case, it is
found exactly if the name names it, and narrowing gives an answer exactly if the name is not a
number with too many digits. -/
theorem finds_own_iff_of_read
    (hread : read d = .ok config)
    (hv : v ∈ config.vlans.entries)
    (switches : List String) :
    (∃ text, Number.text? v.1 = some text ∧ config.Finds switches text v) ∧
      ∀ selector, Text.SameLetters selector v.2 →
        (config.Finds switches selector v ↔ NamesItself v) ∧
          ((∃ kept, config.select? switches [selector] = some kept) ↔ ShortSelector v.2) := by
  constructor
  · obtain ⟨id, name⟩ := v
    obtain ⟨n, rfl, hn⟩ := exists_number_of_read hread hv
    exact ⟨Number.natText n, if_pos hn, finds_natText hn hv⟩
  · intro selector hselector
    rw [exists_select?_iff hv, shortSelector_iff_of_sameLetters hselector]
    exact ⟨finds_iff_namesItself hv hselector, Iff.rfl⟩

/-- A document in which the name of a VLAN has white space around it. -/
def paddedDocument : Document :=
  .map [
    (.text "vlans", .map [(.int 10, .text " data "), (.int 20, .text "Voice")]),
    (.text "templates", .map []),
    (.text "switches", .map [])]

def paddedConfig : Config where
  vlans := ⟨[(10, " data "), (20, "Voice")], by simp⟩
  templates := Table.empty
  switches := Table.empty

theorem read_paddedDocument :
    read paddedDocument = .ok paddedConfig := by
  have hten : Identifies (.int 10) 10 :=
    ⟨rfl, ⟨"10", by decide +kernel, by decide +kernel⟩, by decide⟩
  have htwenty : Identifies (.int 20) 20 :=
    ⟨rfl, ⟨"20", by decide +kernel, by decide +kernel⟩, by decide⟩
  rw [read_eq_ok_iff]
  exact ⟨_, _, _, _, rfl, ⟨rfl, .cons ⟨hten, rfl, rfl⟩ (.cons ⟨htwenty, rfl, rfl⟩ .nil)⟩,
    ⟨rfl, [], .nil, rfl⟩, rfl, [], .nil, rfl⟩

/-- The name with white space around it finds nothing. -/
theorem not_finds_paddedConfig :
    read paddedDocument = .ok paddedConfig ∧ (10, " data ") ∈ paddedConfig.vlans.entries ∧
      ¬paddedConfig.Finds [] " data " (10, " data ") := by
  have hv : (10, " data ") ∈ paddedConfig.vlans.entries := List.mem_cons_self
  refine ⟨read_paddedDocument, hv, ?_⟩
  rw [finds_iff_namesItself hv rfl]
  rintro ⟨-, hsame | ⟨hdecimal, -⟩⟩
  · exact absurd hsame (by decide +kernel)
  · exact absurd hdecimal (by decide +kernel)

theorem finds_own_iff_paddedConfig :
    read paddedDocument = .ok paddedConfig ∧ (20, "Voice") ∈ paddedConfig.vlans.entries ∧
      Text.SameLetters "vOICE" "Voice" ∧ NamesItself (20, "Voice") ∧
        (∃ text, Number.text? 20 = some text ∧ paddedConfig.Finds [] text (20, "Voice")) ∧
          paddedConfig.Finds [] "vOICE" (20, "Voice") := by
  have hv : (20, "Voice") ∈ paddedConfig.vlans.entries := List.mem_cons_of_mem _ List.mem_cons_self
  have hletters : Text.SameLetters "vOICE" "Voice" := by decide +kernel
  have hnames : NamesItself (20, "Voice") :=
    ⟨fun hdecimal => absurd hdecimal (by decide +kernel), Or.inl (by decide +kernel)⟩
  obtain ⟨hnumber, hname⟩ := finds_own_iff_of_read read_paddedDocument hv []
  exact ⟨read_paddedDocument, hv, hletters, hnames, hnumber, (hname _ hletters).1.mpr hnames⟩

end Reading

end Config
end ManagedSwitch

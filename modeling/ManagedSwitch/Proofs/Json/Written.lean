import ManagedSwitch.JsonValue
import ManagedSwitch.Proofs.Json.Tree
import ManagedSwitch.Proofs.Table

/-!
# Reading values that have been written

A value is read again from its text (`read?_render`): the text is scanned as the tokens of the value
(`scans_write`), and reading these ends with the value (`foldlM_tokens`).  Integers have to keep to
the limit of digits, and names must not be repeated within an object.
-/

namespace ManagedSwitch

open Json

namespace JsonValue

section Data

mutual

/-- What the text of a value says. -/
def json : JsonValue → Json
  | .int i => .int i
  | .text s => .text s
  | .array items => .array (jsonItems items)
  | .object members => .object (jsonMembers members)

def jsonItems : List JsonValue → List Json
  | [] => []
  | item :: rest => json item :: jsonItems rest

def jsonMembers : List (String × JsonValue) → List (String × Json)
  | [] => []
  | (name, value) :: rest => (name, json value) :: jsonMembers rest

end

mutual

/-- The tokens of a value. -/
def tokens : JsonValue → List Token
  | .int i => [.word (Number.chars i)]
  | .text s => [.literal (s.toList.flatMap escape)]
  | .array [] => [.openArray, .closeArray]
  | .array (item :: rest) => .openArray :: (tokens item ++ (itemTokens rest ++ [.closeArray]))
  | .object [] => [.openObject, .closeObject]
  | .object ((name, value) :: rest) =>
    .openObject :: .literal (name.toList.flatMap escape) :: .colon ::
      (tokens value ++ (memberTokens rest ++ [.closeObject]))

/-- The tokens of further items, each behind a comma. -/
def itemTokens : List JsonValue → List Token
  | [] => []
  | item :: rest => .comma :: (tokens item ++ itemTokens rest)

/-- The tokens of further members, each behind a comma. -/
def memberTokens : List (String × JsonValue) → List Token
  | [] => []
  | (name, value) :: rest =>
    .comma :: .literal (name.toList.flatMap escape) :: .colon ::
      (tokens value ++ memberTokens rest)

end

/-- A value that can be read: its integers keep to the limit of digits, and its objects do not repeat
a name. -/
inductive Readable : JsonValue → Prop
  | int (i : Int) (hi : i.natAbs < Number.tooLong) : Readable (.int i)
  | text (s : String) : Readable (.text s)
  | array (items : List JsonValue) (hitems : ∀ item ∈ items, Readable item) :
    Readable (.array items)
  | object (members : List (String × JsonValue)) (hnames : (members.map Prod.fst).Nodup)
      (hmembers : ∀ member ∈ members, Readable member.2) :
    Readable (.object members)

theorem jsonItems_eq
    (items : List JsonValue) :
    jsonItems items = items.map json := by
  induction items with
  | nil =>
      rfl
  | cons item rest ih =>
      rw [jsonItems, ih, List.map_cons]

theorem jsonMembers_eq
    (members : List (String × JsonValue)) :
    jsonMembers members = members.map fun member => (member.1, member.2.json) := by
  induction members with
  | nil =>
      rfl
  | cons member rest ih =>
      rw [jsonMembers, ih, List.map_cons]

theorem map_fst_jsonMembers
    (members : List (String × JsonValue)) :
    (jsonMembers members).map Prod.fst = members.map Prod.fst := by
  rw [jsonMembers_eq, List.map_map]
  rfl

theorem writeItems_eq
    (level : Nat)
    (items : List JsonValue) :
    writeItems level items =
      items.flatMap fun item => ',' :: (newLine level ++ write level item) := by
  induction items with
  | nil =>
      rfl
  | cons item rest ih =>
      simp [writeItems, ih]

theorem writeMembers_eq
    (level : Nat)
    (members : List (String × JsonValue)) :
    writeMembers level members =
      members.flatMap fun member =>
        ',' :: (newLine level ++ (literal member.1 ++ ':' :: ' ' :: write level member.2)) := by
  induction members with
  | nil =>
      rfl
  | cons member rest ih =>
      simp [writeMembers, ih]

theorem itemTokens_eq
    (items : List JsonValue) :
    itemTokens items = items.flatMap fun item => .comma :: item.tokens := by
  induction items with
  | nil =>
      rfl
  | cons item rest ih =>
      simp [itemTokens, ih]

theorem memberTokens_eq
    (members : List (String × JsonValue)) :
    memberTokens members =
      members.flatMap fun member =>
        .comma :: .literal (member.1.toList.flatMap escape) :: .colon :: member.2.tokens := by
  induction members with
  | nil =>
      rfl
  | cons member rest ih =>
      simp [memberTokens, ih]

end Data

section Escapes

/-- A character is escaped in one of two ways, or stands for itself. -/
theorem escape_cases
    (c : Char) :
    (∃ e, short? e = some c ∧ escape c = ['\\', e]) ∨
      (c.toNat < 32 ∧ escape c = '\\' :: 'u' :: Text.hex 4 c.toNat) ∨
      (32 ≤ c.toNat ∧ c ≠ '"' ∧ c ≠ '\\' ∧ escape c = [c]) := by
  unfold escape
  by_cases hquote : c = '"'
  · exact Or.inl ⟨'"', by simp [short?, hquote], if_pos hquote⟩
  by_cases hbackslash : c = '\\'
  · subst hbackslash
    exact Or.inl ⟨'\\', rfl, rfl⟩
  rw [if_neg hquote, if_neg hbackslash]
  iterate 5
    split
    · subst c
      exact Or.inl ⟨_, rfl, rfl⟩
  split
  · next h => exact Or.inr (Or.inl ⟨h, rfl⟩)
  · next h => exact Or.inr (Or.inr ⟨Nat.not_lt.mp h, hquote, hbackslash, rfl⟩)

/-- An escaped character is read as itself. -/
theorem unescape_escape_append
    (c : Char)
    (rest : List Char) :
    unescape (escape c ++ rest) = (unescape rest).map (c :: ·) := by
  rcases escape_cases c with ⟨e, he, heq⟩ | ⟨hlt, heq⟩ | ⟨hle, hquote, hbackslash, heq⟩
  · rw [heq]
    exact unescape_backslash he rest
  · have hread := unescape_hex hlt rest
    rw [Char.ofNat_toNat] at hread
    rw [heq]
    exact hread
  · rw [heq]
    exact unescape_cons hle hquote hbackslash rest

/-- A text is read from the characters of its literal. -/
theorem unescape_flatMap_escape
    (cs : List Char) :
    unescape (cs.flatMap escape) = some cs := by
  induction cs with
  | nil =>
      rfl
  | cons c cs ih =>
      rw [List.flatMap_cons, unescape_escape_append, ih, Option.map_some]

/-- Escaping leaves no control characters. -/
theorem le_toNat_of_mem_escape
    {c d : Char}
    (hd : d ∈ escape c) :
    32 ≤ d.toNat := by
  have hhex : ∀ n, n < 32 → (Text.hex 4 n).all (32 ≤ ·.toNat) := by decide
  rcases escape_cases c with ⟨e, he, heq⟩ | ⟨hlt, heq⟩ | ⟨hle, -, -, heq⟩
  · rw [heq, List.mem_pair] at hd
    rcases hd with rfl | rfl
    · decide
    · exact le_toNat_of_short? he
  · rw [heq, List.mem_cons, List.mem_cons] at hd
    rcases hd with rfl | rfl | hd
    · decide
    · decide
    · exact of_decide_eq_true (List.all_eq_true.mp (hhex _ hlt) d hd)
  · rw [heq, List.mem_singleton] at hd
    exact hd ▸ hle

end Escapes

section Scanning

/-- What has been escaped does not end a literal. -/
theorem inner_escape
    (c : Char) :
    Inner (escape c) := by
  have hhex : ∀ n, n < 32 → (Text.hex 4 n).all fun d => d != '"' && d != '\\' := by decide
  rcases escape_cases c with ⟨e, -, heq⟩ | ⟨hlt, heq⟩ | ⟨-, hquote, hbackslash, heq⟩
  · rw [heq]
    exact inner_backslash e
  · rw [heq]
    refine (inner_backslash 'u').append (inner_of_forall fun d hd => ?_)
    simpa using List.all_eq_true.mp (hhex _ hlt) d hd
  · rw [heq]
    exact inner_of_ne hquote hbackslash

/-- A literal that has been written is scanned as a literal. -/
theorem scans_literal
    (s : String)
    {cs : List Char}
    {tokens : List Token}
    (hcs : Scans cs tokens) :
    Scans (literal s ++ cs) (.literal (s.toList.flatMap escape) :: tokens) := by
  have hinner : ∀ cs : List Char, Inner (cs.flatMap escape) := by
    intro cs
    induction cs with
    | nil =>
        exact fun _ _ => rfl
    | cons c cs ih =>
        exact (inner_escape c).append ih
  unfold literal
  rw [List.append_assoc, List.cons_append]
  exact hcs.literal (hinner s.toList)

theorem scans_newLine
    (level : Nat)
    {cs : List Char}
    {tokens : List Token}
    (hcs : Scans cs tokens) :
    Scans (newLine level ++ cs) tokens := by
  have hspaces : ∀ n, Scans (List.replicate n ' ' ++ cs) tokens := by
    intro n
    induction n with
    | zero =>
        exact hcs
    | succ n ih =>
        exact ih.space rfl
  exact (hspaces _).space rfl

theorem scans_chars
    (i : Int) :
    Scans (Number.chars i) [.word (Number.chars i)] := by
  refine scans_word ?_ fun c hc => ?_
  · cases i with
    | ofNat n =>
        exact Number.digitsOnto_ne_nil n []
    | negSucc n =>
        exact List.cons_ne_nil _ _
  · rcases Number.mem_chars hc with rfl | hdigit
    · rfl
    · exact isWordChar_of_isDigit hdigit

/-- What stands in a collection is scanned item by item: behind every item stands a comma or the end
of the line, so that no word runs on. -/
theorem scans_collection
    {α : Type}
    {f : α → List Char}
    {g : α → List Token}
    {opening closing : Char}
    {t t' : Token}
    (hopening : mark? opening = some t)
    (hclosing : mark? closing = some t')
    {x : α}
    {xs : List α}
    (hitems : ∀ y ∈ x :: xs, Scans (f y) (g y))
    (inner outer : Nat) :
    Scans
      (opening :: (newLine inner ++ (f x ++
        (xs.flatMap (fun y => ',' :: (newLine inner ++ f y)) ++ (newLine outer ++ [closing])))))
      (t :: (g x ++ (xs.flatMap (fun y => .comma :: g y) ++ [t']))) := by
  have hfurther :
      ∀ ys : List α, (∀ y ∈ ys, Scans (f y) (g y)) →
        ∃ back, ys.flatMap (fun y => ',' :: (newLine inner ++ f y)) ++
            (newLine outer ++ [closing]) = back ∧
          Scans back (ys.flatMap (fun y => .comma :: g y) ++ [t']) ∧ Separated back := by
    intro ys
    induction ys with
    | nil =>
        exact fun _ =>
          ⟨_, rfl, scans_newLine outer (Scans.nil.mark hclosing), separated_cons rfl⟩
    | cons y ys ih =>
        intro hys
        rw [List.forall_mem_cons] at hys
        obtain ⟨back, hback, hscans, hsep⟩ := ih hys.2
        rw [List.flatMap_cons, List.flatMap_cons, List.append_assoc, List.append_assoc, hback]
        simp only [List.cons_append, List.append_assoc]
        exact ⟨_, rfl, (scans_newLine inner (hys.1.append hscans hsep)).mark rfl,
          separated_cons rfl⟩
  rw [List.forall_mem_cons] at hitems
  obtain ⟨back, hback, hscans, hsep⟩ := hfurther xs hitems.2
  rw [hback]
  exact (scans_newLine inner (hitems.1.append hscans hsep)).mark hopening

/-- The text of a value is scanned as the tokens of the value. -/
theorem scans_write
    {v : JsonValue}
    (hv : v.Readable)
    (level : Nat) :
    Scans (write level v) v.tokens := by
  induction hv generalizing level with
  | int i hi =>
      exact scans_chars i
  | text s =>
      have hliteral := scans_literal s Scans.nil
      rwa [List.append_nil] at hliteral
  | array items _ ih =>
      cases items with
      | nil =>
          exact (Scans.nil.mark rfl).mark rfl
      | cons item rest =>
          simp only [write, tokens, writeItems_eq, itemTokens_eq, List.cons_append,
            List.append_assoc]
          exact scans_collection rfl rfl (fun item hitem => ih item hitem _) _ _
  | object members _ _ ih =>
      cases members with
      | nil =>
          exact (Scans.nil.mark rfl).mark rfl
      | cons member rest =>
          have hmember :
              ∀ m ∈ member :: rest,
                Scans (literal m.1 ++ ':' :: ' ' :: write (level + 1) m.2)
                  (.literal (m.1.toList.flatMap escape) :: .colon :: m.2.tokens) :=
            fun m hm => scans_literal m.1 (((ih m hm _).space rfl).mark rfl)
          have hscans :=
            scans_collection (show mark? '\x7b' = some .openObject from rfl)
              (show mark? '\x7d' = some .closeObject from rfl) hmember (level + 1) level
          simpa only [write, tokens, writeMembers_eq, memberTokens_eq, List.cons_append,
            List.append_assoc] using hscans

end Scanning

section Clean

/-- A literal that has no control characters. -/
def Clean : Token → Prop
  | .literal raw => ∀ c ∈ raw, 32 ≤ c.toNat
  | _ => True

theorem clean_literal
    (s : String) :
    Clean (.literal (s.toList.flatMap escape)) := by
  intro c hc
  obtain ⟨d, -, hd⟩ := List.mem_flatMap.mp hc
  exact le_toNat_of_mem_escape hd

/-- The tokens of a collection are those of its items, besides marks. -/
theorem clean_collection
    {α : Type}
    {g : α → List Token}
    {x : α}
    {xs : List α}
    {t t' : Token}
    (ht : Clean t)
    (ht' : Clean t')
    (hitems : ∀ y ∈ x :: xs, ∀ t ∈ g y, Clean t) :
    ∀ s ∈ t :: (g x ++ (xs.flatMap (fun y => .comma :: g y) ++ [t'])), Clean s := by
  rw [List.forall_mem_cons] at hitems
  rw [List.forall_mem_cons, List.forall_mem_append, List.forall_mem_append,
    List.forall_mem_singleton]
  refine ⟨ht, hitems.1, fun s hs => ?_, ht'⟩
  obtain ⟨y, hy, hs⟩ := List.mem_flatMap.mp hs
  rcases List.mem_cons.mp hs with rfl | hs
  · trivial
  · exact hitems.2 y hy s hs

/-- No literal in the text of a value has a control character. -/
theorem clean_tokens
    {v : JsonValue}
    (hv : v.Readable) :
    ∀ t ∈ v.tokens, Clean t := by
  induction hv with
  | int i hi =>
      exact List.forall_mem_singleton.mpr trivial
  | text s =>
      exact List.forall_mem_singleton.mpr (clean_literal s)
  | array items _ ih =>
      cases items with
      | nil =>
          exact List.forall_mem_cons.mpr ⟨trivial, List.forall_mem_singleton.mpr trivial⟩
      | cons item rest =>
          rw [tokens, itemTokens_eq]
          exact clean_collection trivial trivial ih
  | object members _ _ ih =>
      cases members with
      | nil =>
          exact List.forall_mem_cons.mpr ⟨trivial, List.forall_mem_singleton.mpr trivial⟩
      | cons member rest =>
          have hmember :
              ∀ m ∈ member :: rest,
                ∀ t ∈ .literal (m.1.toList.flatMap escape) :: .colon :: m.2.tokens, Clean t := by
            intro m hm
            rw [List.forall_mem_cons, List.forall_mem_cons]
            exact ⟨clean_literal m.1, trivial, ih m hm⟩
          have hclean :=
            clean_collection (show Clean .openObject from trivial)
              (show Clean .closeObject from trivial) hmember
          simpa only [tokens, memberTokens_eq, List.cons_append] using hclean

end Clean

section Reading

/-- Further items join what has been read of an array, up to its end. -/
theorem foldlM_itemTokens
    {items : List JsonValue}
    (hitems : ∀ item ∈ items, ∀ stack,
      item.tokens.foldlM step ⟨stack, .value⟩ = some ⟨stack, .done item.json⟩)
    (stack : List Frame)
    (done : List Json)
    (v : Json) :
    (itemTokens items ++ [Token.closeArray]).foldlM step ⟨.items done :: stack, .done v⟩ =
      some ⟨stack, .done (.array ((v :: done).reverse ++ jsonItems items))⟩ := by
  induction items generalizing done v with
  | nil =>
      rw [jsonItems, List.append_nil]
      rfl
  | cons item rest ih =>
      rw [List.forall_mem_cons] at hitems
      rw [itemTokens, List.cons_append, List.append_assoc, List.foldlM_cons]
      simp only [step, finish?, Option.bind_eq_bind, Option.bind_some]
      rw [List.foldlM_append, hitems.1, Option.bind_eq_bind, Option.bind_some, ih hitems.2]
      simp [jsonItems]

/-- Further members join what has been read of an object, up to its end. -/
theorem foldlM_memberTokens
    {members : List (String × JsonValue)}
    (hmembers : ∀ member ∈ members, ∀ stack,
      member.2.tokens.foldlM step ⟨stack, .value⟩ = some ⟨stack, .done member.2.json⟩)
    (stack : List Frame)
    (done : List (String × Json))
    (name : String)
    (v : Json) :
    (memberTokens members ++ [Token.closeObject]).foldlM step
        ⟨.members done name :: stack, .done v⟩ =
      some ⟨stack, .done (.object (Table.ofList
        (((name, v) :: done).reverse ++ jsonMembers members)).entries)⟩ := by
  induction members generalizing done name v with
  | nil =>
      rw [jsonMembers, List.append_nil]
      rfl
  | cons member rest ih =>
      obtain ⟨name', value⟩ := member
      rw [List.forall_mem_cons] at hmembers
      rw [memberTokens, List.cons_append, List.cons_append, List.cons_append, List.append_assoc,
        List.foldlM_cons]
      simp only [step, finish?, name?, unescape_flatMap_escape, Option.map_some,
        String.ofList_toList, List.foldlM_cons, if_true, Option.bind_eq_bind, Option.bind_some]
      rw [List.foldlM_append, hmembers.1, Option.bind_eq_bind, Option.bind_some, ih hmembers.2]
      simp [jsonMembers]

/-- Reading the tokens of a value ends with the value. -/
theorem foldlM_tokens
    {v : JsonValue}
    (hv : v.Readable)
    (stack : List Frame) :
    v.tokens.foldlM step ⟨stack, .value⟩ = some ⟨stack, .done v.json⟩ := by
  induction hv generalizing stack with
  | int i hi =>
      simp [tokens, json, step, begin?, ofWord?_chars hi]
  | text s =>
      simp [tokens, json, step, begin?, unescape_flatMap_escape]
  | array items _ ih =>
      cases items with
      | nil =>
          rfl
      | cons item rest =>
          rw [List.forall_mem_cons] at ih
          rw [tokens, List.foldlM_cons]
          simp only [step, begin?, Option.bind_eq_bind, Option.bind_some]
          rw [List.foldlM_append, ih.1, Option.bind_eq_bind, Option.bind_some,
            foldlM_itemTokens ih.2]
          rfl
  | object members hnames _ ih =>
      cases members with
      | nil =>
          rfl
      | cons member rest =>
          obtain ⟨name, value⟩ := member
          -- No name is repeated, so collecting the members leaves them as they are.
          have hentries := Table.entries_ofList ((map_fst_jsonMembers _).symm ▸ hnames)
          rw [List.forall_mem_cons] at ih
          rw [tokens, List.foldlM_cons]
          simp only [step, begin?, name?, unescape_flatMap_escape, Option.map_some,
            String.ofList_toList, List.foldlM_cons, if_true, Option.bind_eq_bind,
            Option.bind_some]
          rw [List.foldlM_append, ih.1, Option.bind_eq_bind, Option.bind_some,
            foldlM_memberTokens ih.2, json, ← hentries]
          rfl

/-- A value is read from its text, by way of its tokens. -/
theorem read?_render
    {v : JsonValue}
    (hv : v.Readable) :
    tokens? v.render = some v.tokens ∧ read? v.render = some v.json := by
  have htokens : tokens? v.render = some v.tokens := by
    rw [tokens?, render, String.toList_ofList]
    exact (scans_write hv 0).tokensFrom_eq
  refine ⟨htokens, ?_⟩
  rw [read?, htokens, Option.bind_some, ofTokens?, foldlM_tokens hv]
  rfl

end Reading

end JsonValue
end ManagedSwitch

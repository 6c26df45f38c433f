import ManagedSwitch.Proofs.Number.Limit
import ManagedSwitch.Text.Hex

/-!
# The tokens of JSON texts

A scanner divides a JSON text into marks, literals in quotation marks and words, with white space
between them.  It takes a literal as it stands; `unescape` reads what the literal is for, and refuses
control characters in it.  Words are `null`, truth values and numbers.

Integers are read up to the limit of digits; numbers with a fraction or an exponent are kept as
digits with a power of ten.
-/

namespace ManagedSwitch
namespace Json

section Scanning

/-- A token; literals and words have their characters as the text has them. -/
inductive Token
  | openArray
  | closeArray
  | openObject
  | closeObject
  | comma
  | colon
  | literal (raw : List Char)
  | word (chars : List Char)
deriving DecidableEq

def mark? (c : Char) : Option Token :=
  if c = '[' then some .openArray
  else if c = ']' then some .closeArray
  else if c = '\x7b' then some .openObject
  else if c = '\x7d' then some .closeObject
  else if c = ',' then some .comma
  else if c = ':' then some .colon
  else none

/-- White space between tokens. -/
def isSpace (c : Char) : Bool :=
  c = ' ' || c = '\t' || c = '\n' || c = '\r'

/-- A character that words are made of. -/
def isWordChar (c : Char) : Bool :=
  !isSpace c && c != '"' && (mark? c).isNone

/-- Where a scanner is, with the characters of the word or literal so far, the last one first. -/
inductive Place
  | outside (word : List Char)
  | inside (raw : List Char)
  | escaping (raw : List Char)

/-- The token for a word that has come to its end. -/
def ended (word : List Char) : List Token :=
  if word.isEmpty then [] else [.word word.reverse]

/-- The tokens that a scanner finds from where it is; a literal must come to its end. -/
def tokensFrom : Place → List Char → Option (List Token)
  | .outside word, [] => some (ended word)
  | .outside word, c :: cs =>
    if c = '"' then
      (tokensFrom (.inside []) cs).map (ended word ++ ·)
    else if isSpace c then
      (tokensFrom (.outside []) cs).map (ended word ++ ·)
    else
      match mark? c with
      | some mark => (tokensFrom (.outside []) cs).map (ended word ++ mark :: ·)
      | none => tokensFrom (.outside (c :: word)) cs
  | .inside raw, c :: cs =>
    if c = '"' then
      (tokensFrom (.outside []) cs).map (.literal raw.reverse :: ·)
    else if c = '\\' then
      tokensFrom (.escaping (c :: raw)) cs
    else
      tokensFrom (.inside (c :: raw)) cs
  | .escaping raw, c :: cs => tokensFrom (.inside (c :: raw)) cs
  | .inside _, [] => none
  | .escaping _, [] => none

def tokens? (s : String) : Option (List Token) :=
  tokensFrom (.outside []) s.toList

end Scanning

section Scanned

/-- A word in front of these characters ends there. -/
def Separated (cs : List Char) : Prop :=
  ∀ c ∈ cs.head?, isWordChar c = false

/-- Characters are scanned as some tokens, whatever stands behind them; if they end with a word, it
ends there. -/
def Scans (cs : List Char) (tokens : List Token) : Prop :=
  ∀ rest, Separated rest →
    tokensFrom (.outside []) (cs ++ rest) = (tokensFrom (.outside []) rest).map (tokens ++ ·)

variable {c : Char} {cs cs' word : List Char} {tokens tokens' : List Token}

theorem ne_quote_of_mark?
    {t : Token}
    (hmark : mark? c = some t) :
    c ≠ '"' ∧ isSpace c = false := by
  unfold mark? at hmark
  iterate 6
    split at hmark
    · subst c
      decide
  exact nomatch hmark

/-- A word in front is ended. -/
theorem tokensFrom_outside
    (hcs : Separated cs)
    (word : List Char) :
    tokensFrom (.outside word) cs = (tokensFrom (.outside []) cs).map (ended word ++ ·) := by
  have hempty : ended [] = [] := rfl
  cases cs with
  | nil =>
      simp [tokensFrom, hempty]
  | cons c cs =>
      have hc : isWordChar c = false := hcs c rfl
      rw [tokensFrom, tokensFrom]
      split
      · simp [hempty]
      split
      · simp [hempty]
      split
      · simp [hempty, Function.comp_def]
      · next hquote hspace _ hmark =>
          exact absurd hc (by simp [isWordChar, hquote, hspace, hmark])

theorem isWordChar_of_isDigit
    (hc : c.isDigit) :
    isWordChar c := by
  have hne : ∀ d : Char, d.isDigit = false → c ≠ d := by
    rintro d hd rfl
    exact absurd hc (by simp [hd])
  simp [isWordChar, isSpace, mark?, hne]

theorem separated_cons
    (hc : isWordChar c = false) :
    Separated (c :: cs) := by
  rintro d ⟨⟩
  exact hc

theorem Scans.nil : Scans [] [] := by
  intro rest _
  simp

theorem Scans.mark
    {t : Token}
    (hmark : mark? c = some t)
    (hcs : Scans cs tokens) :
    Scans (c :: cs) (t :: tokens) := by
  intro rest hrest
  obtain ⟨hquote, hspace⟩ := ne_quote_of_mark? hmark
  rw [List.cons_append, tokensFrom, if_neg hquote, if_neg (by simp [hspace]), hmark]
  simp [hcs rest hrest, ended, Function.comp_def]

theorem Scans.space
    (hc : isSpace c)
    (hcs : Scans cs tokens) :
    Scans (c :: cs) tokens := by
  intro rest hrest
  have hquote : c ≠ '"' := by
    rintro rfl
    exact absurd hc (by decide)
  rw [List.cons_append, tokensFrom, if_neg hquote, if_pos hc]
  simp [hcs rest hrest, ended, Function.comp_def]

theorem Separated.append
    (hcs : Separated cs)
    (hcs' : Separated cs') :
    Separated (cs ++ cs') := by
  cases cs with
  | nil =>
      exact hcs'
  | cons c cs =>
      exact hcs

/-- What is scanned one after the other is scanned together. -/
theorem Scans.append
    (hcs : Scans cs tokens)
    (hcs' : Scans cs' tokens')
    (hsep : Separated cs') :
    Scans (cs ++ cs') (tokens ++ tokens') := by
  intro rest hrest
  rw [List.append_assoc, hcs _ (hsep.append hrest), hcs' rest hrest]
  simp [Function.comp_def]

/-- A word is scanned up to its end. -/
theorem scans_word
    (hne : word ≠ [])
    (hword : ∀ c ∈ word, isWordChar c) :
    Scans word [.word word] := by
  have hscan :
      ∀ (more done rest : List Char), (∀ c ∈ more, isWordChar c) →
        tokensFrom (.outside done) (more ++ rest) =
          tokensFrom (.outside (more.reverse ++ done)) rest := by
    intro more
    induction more with
    | nil =>
        exact fun _ _ _ => rfl
    | cons c more ih =>
        intro done rest hmore
        rw [List.forall_mem_cons] at hmore
        obtain ⟨⟨hspace, hquote⟩, hmark⟩ : (isSpace c = false ∧ c ≠ '"') ∧ mark? c = none := by
          simpa [isWordChar] using hmore.1
        rw [List.cons_append, tokensFrom, if_neg hquote, if_neg (by simp [hspace]), hmark]
        simp [ih _ rest hmore.2]
  intro rest hrest
  rw [hscan word [] rest hword, tokensFrom_outside hrest, List.append_nil]
  simp [ended, hne]

/-- What is scanned as tokens has these tokens. -/
theorem Scans.tokensFrom_eq
    (hcs : Scans cs tokens) :
    tokensFrom (.outside []) cs = some tokens := by
  have hscan := hcs [] (fun _ hc => nomatch hc)
  rw [List.append_nil] at hscan
  simp [hscan, tokensFrom, ended]

/-- Characters that do not end the literal they stand in. -/
def Inner (raw : List Char) : Prop :=
  ∀ done rest, tokensFrom (.inside done) (raw ++ rest) =
    tokensFrom (.inside (raw.reverse ++ done)) rest

/-- A literal is scanned up to its closing quotation mark. -/
theorem Scans.literal
    {raw : List Char}
    (hraw : Inner raw)
    (hcs : Scans cs tokens) :
    Scans ('"' :: (raw ++ '"' :: cs)) (.literal raw :: tokens) := by
  intro rest hrest
  rw [List.cons_append, tokensFrom, if_pos rfl, List.append_assoc, hraw, List.cons_append,
    tokensFrom, if_pos rfl, hcs rest hrest]
  simp [ended, Function.comp_def]

theorem Inner.append
    {raw raw' : List Char}
    (hraw : Inner raw)
    (hraw' : Inner raw') :
    Inner (raw ++ raw') := by
  intro done rest
  rw [List.append_assoc, hraw, hraw', List.reverse_append, List.append_assoc]

theorem inner_of_ne
    (hquote : c ≠ '"')
    (hbackslash : c ≠ '\\') :
    Inner [c] := by
  intro done rest
  rw [List.singleton_append, tokensFrom, if_neg hquote, if_neg hbackslash]
  rfl

theorem inner_of_forall
    {raw : List Char}
    (hraw : ∀ c ∈ raw, c ≠ '"' ∧ c ≠ '\\') :
    Inner raw := by
  induction raw with
  | nil =>
      exact fun _ _ => rfl
  | cons c raw ih =>
      rw [List.forall_mem_cons] at hraw
      exact (inner_of_ne hraw.1.1 hraw.1.2).append (ih hraw.2)

theorem inner_backslash
    (c : Char) :
    Inner ['\\', c] :=
  fun _ _ => rfl

end Scanned

section Literals

/-- What a backslash and one character stand for. -/
def short? (c : Char) : Option Char :=
  if c = '"' ∨ c = '\\' ∨ c = '/' then some c
  else if c = 'b' then some '\x08'
  else if c = 'f' then some '\x0c'
  else if c = 'n' then some '\n'
  else if c = 'r' then some '\r'
  else if c = 't' then some '\t'
  else none

/-- The number that four hexadecimal digits write. -/
def unit? (digits : List Char) : Option Nat :=
  digits.foldlM (fun n c => (Text.hexValue? c).map (16 * n + ·)) 0

def isHighHalf (unit : Nat) : Bool :=
  0xd800 ≤ unit && unit < 0xdc00

def isLowHalf (unit : Nat) : Bool :=
  0xdc00 ≤ unit && unit < 0xe000

/-- The character of two halves. -/
def ofHalves (high low : Nat) : Char :=
  Char.ofNat (0x10000 + (high - 0xd800) * 0x400 + (low - 0xdc00))

/-- The text that the characters of a literal stand for.  A half without its other half stands for
no text. -/
def unescape : List Char → Option (List Char)
  | [] => some []
  | c :: cs =>
    if c.toNat < 32 ∨ c = '"' then none
    else if c ≠ '\\' then (unescape cs).map (c :: ·)
    else
      match cs with
      | [] => none
      | e :: rest =>
        if e ≠ 'u' then
          (short? e).bind fun d => (unescape rest).map (d :: ·)
        else
          match rest with
          | a :: b :: c :: d :: rest =>
            (unit? [a, b, c, d]).bind fun high =>
              if isHighHalf high then
                match rest with
                | '\\' :: 'u' :: a :: b :: c :: d :: rest =>
                  (unit? [a, b, c, d]).bind fun low =>
                    if isLowHalf low then (unescape rest).map (ofHalves high low :: ·) else none
                | _ => none
              else if isLowHalf high then none
              else (unescape rest).map (Char.ofNat high :: ·)
          | _ => none

/-- The characters behind a backslash are no control characters. -/
theorem le_toNat_of_short?
    {e c : Char}
    (he : short? e = some c) :
    32 ≤ e.toNat := by
  unfold short? at he
  split at he
  · next h => rcases h with rfl | rfl | rfl <;> decide
  iterate 5
    split at he
    · subst e
      decide
  exact nomatch he

/-- A short escape stands for one character. -/
theorem unescape_backslash
    {e c : Char}
    (he : short? e = some c)
    (rest : List Char) :
    unescape ('\\' :: e :: rest) = (unescape rest).map (c :: ·) := by
  have hu : e ≠ 'u' := by
    rintro rfl
    exact nomatch he
  rw [unescape.eq_def]
  simp [hu, he]

/-- The code of a control character is read from its digits. -/
theorem unit?_hex :
    ∀ n, n < 32 → unit? (Text.hex 4 n) = some n := by
  decide

theorem unescape_hex
    {n : Nat}
    (hn : n < 32)
    (rest : List Char) :
    unescape ('\\' :: 'u' :: (Text.hex 4 n ++ rest)) = (unescape rest).map (Char.ofNat n :: ·) := by
  have hhigh : isHighHalf n = false := by
    simp [isHighHalf]
    omega
  have hlow : isLowHalf n = false := by
    simp [isLowHalf]
    omega
  have hunit := unit?_hex n hn
  simp only [Text.hex, List.nil_append, List.cons_append] at hunit ⊢
  rw [unescape.eq_def]
  simp [hunit, hhigh, hlow]

/-- Other characters stand for themselves. -/
theorem unescape_cons
    {c : Char}
    (hc : 32 ≤ c.toNat)
    (hquote : c ≠ '"')
    (hbackslash : c ≠ '\\')
    (rest : List Char) :
    unescape (c :: rest) = (unescape rest).map (c :: ·) := by
  rw [unescape.eq_def]
  simp [hbackslash, hquote, Nat.not_lt.mpr hc]

end Literals

end Json
end ManagedSwitch

import Mathlib.Data.List.TakeWhile
import ManagedSwitch.Proofs.Json.Token
import ManagedSwitch.Table

/-!
# Reading JSON texts

The reader goes over the tokens of a text once.  It keeps the arrays and objects it is in on a stack,
with what it has read of them, and knows what it awaits.  Where a name is repeated in an object, the
last value counts.
-/

namespace ManagedSwitch

/-- What a JSON text says. -/
inductive Json
  | null
  | bool (value : Bool)
  | int (value : Int)
  | decimal (digits exponent : Int)
  | text (value : String)
  | array (items : List Json)
  | object (members : List (String × Json))

namespace Json

section Words

/-- A minus in front. -/
def takeMinus : List Char → Bool × List Char
  | '-' :: rest => (true, rest)
  | cs => (false, cs)

/-- The digits behind a point, where there is one. -/
def fraction? : List Char → Option (List Char × List Char)
  | '.' :: cs =>
    let digits := cs.takeWhile Char.isDigit
    if digits.isEmpty then none else some (digits, cs.dropWhile Char.isDigit)
  | cs => some ([], cs)

/-- The power of ten, which is written last. -/
def exponent? : List Char → Option Int
  | [] => some 0
  | c :: cs =>
    let (negative, digits) := Number.takeSign cs
    if (c = 'e' || c = 'E') && digits.all Char.isDigit then
      (Number.natural? digits).map (Number.signed negative)
    else
      none

/-- Reads a number.  It has no plus in front and no zeros in front of other digits. -/
def number? (cs : List Char) : Option Json :=
  let (negative, body) := takeMinus cs
  let whole := body.takeWhile Char.isDigit
  let rest := body.dropWhile Char.isDigit
  if whole.head? = some '0' ∧ whole ≠ ['0'] then
    none
  else if rest.isEmpty then
    if whole.length ≤ Number.digitLimit then
      (Number.natural? whole).map fun n => .int (Number.signed negative n)
    else
      none
  else do
    let n ← Number.natural? whole
    let (digits, rest) ← fraction? rest
    let exponent ← exponent? rest
    let n ← Number.ofDigits? 10 n digits
    return .decimal (Number.signed negative n) (exponent - digits.length)

def ofWord? (cs : List Char) : Option Json :=
  if cs = "null".toList then some .null
  else if cs = "true".toList then some (.bool true)
  else if cs = "false".toList then some (.bool false)
  else number? cs

/-- Digits within the limit are read as a number. -/
theorem number?_of_digits
    {cs : List Char}
    {negative : Bool}
    {n : Nat}
    (hcs : takeMinus cs = (negative, Number.digits n))
    (hn : n < Number.tooLong) :
    number? cs = some (.int (Number.signed negative n)) := by
  have hdigits : ∀ c ∈ Number.digits n, c.isDigit = true := fun c => Number.isDigit_of_mem_digits
  have hzero : ¬((Number.digits n).head? = some '0' ∧ Number.digits n ≠ ['0']) := by
    rintro ⟨hhead, hne⟩
    cases n with
    | zero =>
        exact hne (by rw [Number.digits, Number.digitsOnto]; rfl)
    | succ n =>
        exact Number.head?_digitsOnto n.succ_pos [] hhead
  have hlength : (Number.digits n).length ≤ Number.digitLimit := by
    rw [← String.length_ofList]
    exact Number.length_natText_le hn
  have htake : (Number.digits n).takeWhile Char.isDigit = Number.digits n :=
    List.takeWhile_eq_self_iff.mpr hdigits
  have hdrop : (Number.digits n).dropWhile Char.isDigit = [] :=
    List.dropWhile_eq_nil_iff.mpr hdigits
  unfold number?
  simp only [hcs, htake, hdrop, if_neg hzero, List.isEmpty_nil, if_true, if_pos hlength,
    Number.natural?_digits, Option.map_some]

/-- An integer within the limit is read from its characters. -/
theorem number?_chars
    {i : Int}
    (hi : i.natAbs < Number.tooLong) :
    number? (Number.chars i) = some (.int i) := by
  cases i with
  | ofNat n =>
      refine @number?_of_digits _ false n ?_ hi
      rw [show Number.chars (Int.ofNat n) = Number.digits n from rfl, takeMinus.eq_def]
      split
      · next heq =>
          have hmem : '-' ∈ Number.digits n := heq ▸ List.mem_cons_self
          exact absurd (Number.isDigit_of_mem_digits hmem) (by decide)
      · rfl
  | negSucc n =>
      exact @number?_of_digits _ true (n + 1) rfl hi

/-- The word for an integer is none of the other words. -/
theorem ofWord?_chars
    {i : Int}
    (hi : i.natAbs < Number.tooLong) :
    ofWord? (Number.chars i) = some (.int i) := by
  have hne : ∀ cs : List Char, (∃ c ∈ cs, c ≠ '-' ∧ c.isDigit = false) → Number.chars i ≠ cs := by
    rintro cs ⟨c, hc, hminus, hdigit⟩ rfl
    exact (Number.mem_chars hc).elim hminus (by simp [hdigit])
  rw [ofWord?, if_neg (hne _ ?_), if_neg (hne _ ?_), if_neg (hne _ ?_)]
  · exact number?_chars hi
  · exact ⟨'f', by decide, by decide, by decide⟩
  · exact ⟨'t', by decide, by decide, by decide⟩
  · exact ⟨'n', by decide, by decide, by decide⟩

end Words

section Reading

/-- An array or object that is being read, with what has been read of it, the last one first. -/
inductive Frame
  | items (done : List Json)
  | members (done : List (String × Json)) (name : String)

/-- What the reader awaits: a value, the name of a further member, the colon behind a name, or what
may stand behind a value. -/
inductive Phase
  | value
  | name (done : List (String × Json))
  | colon (done : List (String × Json)) (name : String)
  | done (value : Json)

structure Reader where
  stack : List Frame
  phase : Phase

/-- The members of an object that has come to its end. -/
def collect (done : List (String × Json)) : List (String × Json) :=
  (Table.ofList done.reverse).entries

/-- Reads the first token of a value.  An array may end here if nothing has been read of it. -/
def begin? : List Frame → Token → Option Reader
  | stack, .literal raw =>
    (unescape raw).map fun cs => ⟨stack, .done (.text (String.ofList cs))⟩
  | stack, .word cs => (ofWord? cs).map fun v => ⟨stack, .done v⟩
  | stack, .openArray => some ⟨.items [] :: stack, .value⟩
  | stack, .openObject => some ⟨stack, .name []⟩
  | .items [] :: stack, .closeArray => some ⟨stack, .done (.array [])⟩
  | _, _ => none

/-- Reads the name of a member.  An object may end here if nothing has been read of it. -/
def name? (stack : List Frame) : List (String × Json) → Token → Option Reader
  | done, .literal raw =>
    (unescape raw).map fun cs => ⟨stack, .colon done (String.ofList cs)⟩
  | [], .closeObject => some ⟨stack, .done (.object [])⟩
  | _, _ => none

/-- Reads what stands behind a value. -/
def finish? (v : Json) : List Frame → Token → Option Reader
  | .items done :: stack, .comma => some ⟨.items (v :: done) :: stack, .value⟩
  | .items done :: stack, .closeArray => some ⟨stack, .done (.array (v :: done).reverse)⟩
  | .members done name :: stack, .comma => some ⟨stack, .name ((name, v) :: done)⟩
  | .members done name :: stack, .closeObject =>
    some ⟨stack, .done (.object (collect ((name, v) :: done)))⟩
  | _, _ => none

def step (r : Reader) (t : Token) : Option Reader :=
  match r.phase with
  | .value => begin? r.stack t
  | .name done => name? r.stack done t
  | .colon done name => if t = .colon then some ⟨.members done name :: r.stack, .value⟩ else none
  | .done v => finish? v r.stack t

/-- The value that a reader has come to the end of. -/
def Reader.result? : Reader → Option Json
  | ⟨[], .done v⟩ => some v
  | _ => none

/-- Reads tokens as one value. -/
def ofTokens? (tokens : List Token) : Option Json :=
  (tokens.foldlM step ⟨[], .value⟩).bind Reader.result?

/-- Reads a JSON text. -/
def read? (s : String) : Option Json :=
  (tokens? s).bind ofTokens?

-- A repeated name keeps its place and gets the last value; two halves are one character.
example :
    read? " \x7b\"a\": [true], \"b\": null, \"a\": \"\\ud83d\\ude00\\/\"\x7d\r\n" =
      some (.object [("a", .text "😀/"), ("b", .null)]) := by
  cbv

example : read? "[true,]" = none := by
  cbv

end Reading

end Json
end ManagedSwitch

import ManagedSwitch.CommandLine.Setting
import ManagedSwitch.Text.Digit
import ManagedSwitch.Text.Split

/-!
# Reading a command line

A word that starts with a dash is a spelling of a setting.  A long spelling may be shortened as long
as it is unique, and its value may follow after an equals sign.  Short spellings may be joined, with
the value of the last one behind it.  Otherwise the value is the next word, unless that one is a
spelling too.  Words that look like negative numbers or have a space are never spellings, and
neither is any word after two dashes.

Ambiguous spellings are refused first.  After that the settings take effect in order, those of one
word together, and words without a meaning are refused last.
-/

namespace ManagedSwitch
namespace CommandLine

section Words

variable {α : Type}

/-- A value that stands in the same word as a setting. -/
inductive Attached
  | nothing
  | joined (text : List Char)
  | assigned (text : List Char)

/-- What a word is. -/
inductive Word (α : Type)
  | plain
  /-- The two dashes after which all words are plain. -/
  | marker
  | unknown
  | setting (s : Setting α) (value : Attached)

def spelled (settings : List (Setting α)) : List (List Char × Setting α) :=
  settings.flatMap fun s => s.spellings.map fun spelling => (spelling.toList, s)

def named?
    (settings : List (Setting α))
    (spelling : List Char) :
    Option (Setting α) :=
  ((spelled settings).find? fun entry => entry.1 == spelling).map Prod.snd

/-- Whether digits follow, with at most one line break behind them. -/
def isDigits (cs : List Char) : Bool :=
  let digits := if cs.getLast? = some '\n' then cs.dropLast else cs
  !digits.isEmpty && digits.all Text.isDecimalDigit

/-- Whether a word looks like a negative number. -/
def looksNegative : List Char → Bool
  | '-' :: cs =>
    isDigits cs ||
      match Text.cutAt '.' cs with
      | some (whole, part) => whole.all Text.isDecimalDigit && isDigits part
      | none => false
  | _ => false

/-- What stands before and after the first equals sign of a word. -/
def assignment (word : List Char) : List Char × Attached :=
  match Text.cutAt '=' word with
  | some (name, value) => (name, .assigned value)
  | none => (word, .nothing)

/-- The settings that a word may be short for, with their spellings and values. -/
def candidates
    (settings : List (Setting α))
    (word : List Char) :
    List (List Char × Setting α × Attached) :=
  match word with
  | '-' :: '-' :: _ =>
    let (name, value) := assignment word
    ((spelled settings).filter fun entry => name.isPrefixOf entry.1).map fun entry =>
      (entry.1, entry.2, value)
  | '-' :: letter :: text =>
    ((spelled settings).filter fun entry => entry.1 == ['-', letter]).map fun entry =>
      (entry.1, entry.2, .joined text)
  | _ => []

/-- The setting that a word spells out, with or without a value behind an equals sign. -/
def spelledOut?
    (settings : List (Setting α))
    (word : List Char) :
    Option (Setting α × Attached) :=
  match named? settings word with
  | some s => some (s, .nothing)
  | none =>
    match assignment word with
    | (_, .nothing) => none
    | (name, value) => (named? settings name).map fun s => (s, value)

/-- What a word is that stands before the two dashes. -/
def classify
    (settings : List (Setting α))
    (word : String) :
    Except Fault (Word α) :=
  match word.toList with
  | '-' :: c :: rest =>
    let cs := '-' :: c :: rest
    match spelledOut? settings cs with
    | some (s, value) => .ok (.setting s value)
    | none =>
      match candidates settings cs with
      | [] => .ok (if looksNegative cs || cs.contains ' ' then .plain else .unknown)
      | [(_, s, value)] => .ok (.setting s value)
      | several => .error (.ambiguous word (several.map fun entry => String.ofList entry.1))
  | _ => .ok .plain

def classifyAll
    (settings : List (Setting α)) :
    List String → Except Fault (List (String × Word α))
  | [] => .ok []
  | word :: rest =>
    if word = "--" then
      .ok ((word, .marker) :: rest.map fun w => (w, .plain))
    else do
      let here ← classify settings word
      return (word, here) :: (← classifyAll settings rest)

end Words

section Values

variable {α : Type}

/-- A setting with its value; a setting that takes none has the empty one. -/
structure Given (α : Type) where
  setting : Setting α
  value : String

/-- What a word gives. -/
inductive Unfolded (α : Type)
  /-- Settings, and perhaps a rest that means nothing. -/
  | complete (given : List (Given α)) (rest : Option String)
  /-- Settings, the last of which takes the next word as its value. -/
  | pending (given : List (Given α)) (last : Setting α)
  | faulty (fault : Fault)

def Unfolded.after
    (g : Given α) :
    Unfolded α → Unfolded α
  | .complete given rest => .complete (g :: given) rest
  | .pending given last => .pending (g :: given) last
  | .faulty fault => .faulty fault

/-- A setting with nothing behind it. -/
def alone (s : Setting α) : Unfolded α :=
  if s.takesValue then .pending [] s else .complete [⟨s, ""⟩] none

/-- A setting with a value behind an equals sign. -/
def assigned
    (s : Setting α)
    (value : List Char) :
    Unfolded α :=
  if s.takesValue then
    .complete [⟨s, String.ofList value⟩] none
  else
    .faulty (.valueIgnored s.label (String.ofList value))

/-- A short spelling with characters behind it: its value, or further short spellings. -/
def joined
    (settings : List (Setting α))
    (s : Setting α) :
    List Char → Unfolded α
  | [] => alone s
  | c :: cs =>
    if s.takesValue then
      .complete [⟨s, String.ofList (c :: cs)⟩] none
    else if c = '-' then
      .faulty (.valueIgnored s.label (String.ofList (c :: cs)))
    else
      match named? settings ['-', c] with
      | none => .complete [⟨s, ""⟩] (some (String.ofList ('-' :: c :: cs)))
      | some next =>
        match cs with
        | '=' :: value => (assigned next value).after ⟨s, ""⟩
        | cs => (joined settings next cs).after ⟨s, ""⟩

def unfold
    (settings : List (Setting α))
    (s : Setting α) :
    Attached → Unfolded α
  | .nothing => alone s
  | .assigned value => assigned s value
  | .joined text => joined settings s text

end Values

section Reading

variable {α : Type}

/-- What a command line gives up to the first fault. -/
structure Reading (α : Type) where
  given : List (Given α)
  unknown : List String
  fault : Option Fault

/-- A reading with settings and unknown words before it. -/
def Reading.behind
    (given : List (Given α))
    (unknown : List String)
    (r : Reading α) :
    Reading α :=
  ⟨given ++ r.given, unknown ++ r.unknown, r.fault⟩

def read
    (settings : List (Setting α)) :
    List (String × Word α) → Reading α
  | [] => ⟨[], [], none⟩
  | (_, .setting s value) :: rest =>
    match unfold settings s value with
    | .faulty fault => ⟨[], [], some fault⟩
    | .complete given unknown => (read settings rest).behind given unknown.toList
    | .pending given last =>
      match rest with
      | (word, .plain) :: rest => (read settings rest).behind (given ++ [⟨last, word⟩]) []
      | _ => ⟨[], [], some (.noValue last.label)⟩
  | (word, _) :: rest => (read settings rest).behind [] [word]

def applyAll
    (given : List (Given α))
    (options : α) :
    Except Stop α :=
  given.foldlM (fun options g => g.setting.apply g.value options) options

/-- The options that a command line gives, starting from the usual ones. -/
def interpret
    (settings : List (Setting α))
    (usual : α)
    (words : List String) :
    Except Stop α := do
  let words ← (classifyAll settings words).mapError .fault
  let reading := read settings words
  let options ← applyAll reading.given usual
  match reading.fault, reading.unknown with
  | some fault, _ => .error (.fault fault)
  | none, [] => .ok options
  | none, words => .error (.fault (.unknown words))

end Reading

end CommandLine
end ManagedSwitch

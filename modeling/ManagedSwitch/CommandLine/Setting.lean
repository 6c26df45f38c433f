import ManagedSwitch.Number.Binary64
import ManagedSwitch.Text.Quoted

/-!
# Settings of a command line

A program has settings, each of which can be given under several spellings.  Some settings take a
value.  Giving a setting changes the options of the program, or is refused: every reason for a
refusal has a message of one line, and asking for help is a reason of its own.
-/

namespace ManagedSwitch
namespace CommandLine

section Faults

/-- Why a command line is refused. -/
inductive Fault
  /-- A shortened spelling that several settings share. -/
  | ambiguous (word : String) (spellings : List String)
  /-- A setting without the value that it takes. -/
  | noValue (label : String)
  /-- A setting with a value that it does not take. -/
  | valueIgnored (label value : String)
  /-- A value that is not of the kind that a setting takes. -/
  | badValue (label kind value : String)
  /-- A value that is none of those that a setting takes. -/
  | badChoice (label value : String) (choices : List String)
  /-- Words that mean nothing. -/
  | unknown (words : List String)
deriving DecidableEq

def Fault.about (label text : String) : String :=
  "argument " ++ label ++ ": " ++ text

def Fault.message : Fault → String
  | .ambiguous word spellings =>
    "ambiguous option: " ++ word ++ " could match " ++ ", ".intercalate spellings
  | .noValue label => about label "expected one argument"
  | .valueIgnored label value => about label ("ignored explicit argument " ++ Text.quote value)
  | .badValue label kind value => about label ("invalid " ++ kind ++ " value: " ++ Text.quote value)
  | .badChoice label value choices =>
    about label ("invalid choice: " ++ Text.quote value ++ " (choose from " ++
      ", ".intercalate (choices.map Text.quote) ++ ")")
  | .unknown words => "unrecognized arguments: " ++ " ".intercalate words

/-- Why no options come out of a command line. -/
inductive Stop
  | help
  | fault (f : Fault)
deriving DecidableEq

end Faults

section Settings

/-- A setting that changes options of type `α`. -/
structure Setting (α : Type) where
  spellings : List String
  takesValue : Bool
  about : String
  apply : String → α → Except Stop α

namespace Setting

variable {α : Type}

/-- The name of settings with the given spellings in messages. -/
def labelOf (spellings : List String) : String :=
  "/".intercalate spellings

def label (s : Setting α) : String :=
  labelOf s.spellings

def help : Setting α :=
  ⟨["-h", "--help"], false, "show this help message and exit", fun _ _ => .error .help⟩

def flag
    (spellings : List String)
    (about : String)
    (set : α → α) :
    Setting α :=
  ⟨spellings, false, about, fun _ a => .ok (set a)⟩

def text
    (spellings : List String)
    (about : String)
    (set : String → α → α) :
    Setting α :=
  ⟨spellings, true, about, fun value a => .ok (set value a)⟩

def parsed
    {β : Type}
    (kind : String)
    (read : String → Option β)
    (spellings : List String)
    (about : String)
    (set : β → α → α) :
    Setting α :=
  ⟨spellings, true, about, fun value a =>
    match read value with
    | some b => .ok (set b a)
    | none => .error (.fault (.badValue (labelOf spellings) kind value))⟩

def integer : List String → String → (Int → α → α) → Setting α :=
  parsed "int" Number.read?

def decimal : List String → String → (Float → α → α) → Setting α :=
  parsed "float" Number.Binary64.read?

/-- A setting that takes one of several words after they have been brought into one form. -/
def choice
    {β : Type}
    (choices : List (String × β))
    (form : String → String)
    (spellings : List String)
    (about : String)
    (set : β → α → α) :
    Setting α :=
  ⟨spellings, true, about, fun value a =>
    match choices.lookup (form value) with
    | some b => .ok (set b a)
    | none =>
      .error (.fault (.badChoice (labelOf spellings) (form value) (choices.map Prod.fst)))⟩

end Setting

end Settings

end CommandLine
end ManagedSwitch

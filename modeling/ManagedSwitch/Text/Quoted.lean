import ManagedSwitch.Text.Hex
import ManagedSwitch.Text.Printable
import ManagedSwitch.Text.Utf8

/-!
# Quoted texts and byte strings

Messages show a text between quotation marks: single ones, or double ones where the text has a
single mark and no double one.  The mark in use and the backslash are escaped, tab, line feed and
carriage return have short escapes, and every other character that is not printable is written by
its code.  Byte strings are shown in the same way after a letter `b`, with all bytes outside
printable ASCII written by their value.
-/

namespace ManagedSwitch
namespace Text

section Quote

/-- The quotation mark for a sequence of characters. -/
def quoteMark (cs : List Char) : Char :=
  if cs.contains '\'' && !cs.contains '"' then '"' else '\''

/-- The escape of a character that is not printable. -/
def escapeCode (c : Char) : List Char :=
  let n := c.toNat
  if n < 0x100 then '\\' :: 'x' :: hex 2 n
  else if n < 0x10000 then '\\' :: 'u' :: hex 4 n
  else '\\' :: 'U' :: hex 8 n

def quoteChar
    (mark : Char)
    (shown : Char → Bool)
    (c : Char) :
    List Char :=
  if c = mark || c = '\\' then ['\\', c]
  else if c = '\t' then ['\\', 't']
  else if c = '\n' then ['\\', 'n']
  else if c = '\r' then ['\\', 'r']
  else if shown c then [c]
  else escapeCode c

/-- A sequence of characters between quotation marks. -/
def quoteChars
    (shown : Char → Bool)
    (cs : List Char) :
    List Char :=
  let mark := quoteMark cs
  mark :: cs.flatMap (quoteChar mark shown) ++ [mark]

def quote (s : String) : String :=
  String.ofList (quoteChars isPrintable s.toList)

def quoteBytes (bs : Bytes) : String :=
  let cs := bs.map fun b => Char.ofNat b.toNat
  String.ofList ('b' :: quoteChars (fun c => 32 ≤ c.toNat && c.toNat < 127) cs)

end Quote

end Text
end ManagedSwitch

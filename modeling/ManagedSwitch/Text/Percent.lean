import ManagedSwitch.Text.Hex
import ManagedSwitch.Text.Utf8

/-!
# Percent-encoding

Outside letters, digits and a few marks, the bytes of a text in UTF-8 are written as a percent sign
and two hexadecimal digits in upper case.  Decoding turns every such group back into its byte and
leaves everything else alone.
-/

namespace ManagedSwitch
namespace Text

section Encoding

/-- A character that stands for itself. -/
def isUnreserved (c : Char) : Bool :=
  c.isAlphanum || "-_.!~*'()".toList.contains c

/-- A byte as a percent sign and two digits. -/
def percentByte (b : UInt8) : List Char :=
  ['%', upperHexDigit (b.toNat / 16), upperHexDigit (b.toNat % 16)]

def percentChar (c : Char) : List Char :=
  if isUnreserved c then [c] else (Utf8.encodeChars [c]).flatMap percentByte

def percentEncode (s : String) : String :=
  String.ofList (s.toList.flatMap percentChar)

end Encoding

section Decoding

def percentBytes : List Char → Bytes
  | [] => []
  | '%' :: a :: b :: rest =>
    match hexValue? a, hexValue? b with
    | some x, some y => UInt8.ofNat (x * 16 + y) :: percentBytes rest
    | _, _ => Utf8.encodeChars ['%'] ++ percentBytes (a :: b :: rest)
  | c :: rest => Utf8.encodeChars [c] ++ percentBytes rest

def percentDecode (s : String) : String :=
  Utf8.decode (percentBytes s.toList)

end Decoding

end Text
end ManagedSwitch

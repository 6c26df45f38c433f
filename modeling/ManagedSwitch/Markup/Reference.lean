import ManagedSwitch.Number.Integer
import ManagedSwitch.Text.Hex

/-!
# Character references

In the text of a page a character may be written by its number or by a name, between an ampersand
and a semicolon.  The names of the first 256 characters also count without the semicolon, and then
the longest name that fits is taken.  Numbers that are no characters give the replacement character,
and the numbers of a range of control characters give the characters that old pages mean by them.
-/

namespace ManagedSwitch
namespace Markup

section Names

def referenceLines : List String := [
  "QUOT 34 quot 34 AMP 38 amp 38 apos 39 LT 60 lt 60 GT 62 gt 62 nbsp 160 iexcl 161 cent 162",
  "pound 163 curren 164 yen 165 brvbar 166 sect 167 uml 168 COPY 169 copy 169 ordf 170",
  "laquo 171 not 172 shy 173 REG 174 reg 174 macr 175 deg 176 plusmn 177 sup2 178 sup3 179",
  "acute 180 micro 181 para 182 middot 183 cedil 184 sup1 185 ordm 186 raquo 187 frac14 188",
  "frac12 189 frac34 190 iquest 191 Agrave 192 Aacute 193 Acirc 194 Atilde 195 Auml 196",
  "Aring 197 AElig 198 Ccedil 199 Egrave 200 Eacute 201 Ecirc 202 Euml 203 Igrave 204",
  "Iacute 205 Icirc 206 Iuml 207 ETH 208 Ntilde 209 Ograve 210 Oacute 211 Ocirc 212 Otilde 213",
  "Ouml 214 times 215 Oslash 216 Ugrave 217 Uacute 218 Ucirc 219 Uuml 220 Yacute 221 THORN 222",
  "szlig 223 agrave 224 aacute 225 acirc 226 atilde 227 auml 228 aring 229 aelig 230 ccedil 231",
  "egrave 232 eacute 233 ecirc 234 euml 235 igrave 236 iacute 237 icirc 238 iuml 239 eth 240",
  "ntilde 241 ograve 242 oacute 243 ocirc 244 otilde 245 ouml 246 divide 247 oslash 248",
  "ugrave 249 uacute 250 ucirc 251 uuml 252 yacute 253 thorn 254 yuml 255 OElig 338 oelig 339",
  "Scaron 352 scaron 353 Yuml 376 fnof 402 circ 710 tilde 732 Alpha 913 Beta 914 Gamma 915",
  "Delta 916 Epsilon 917 Zeta 918 Eta 919 Theta 920 Iota 921 Kappa 922 Lambda 923 Mu 924 Nu 925",
  "Xi 926 Omicron 927 Pi 928 Rho 929 Sigma 931 Tau 932 Upsilon 933 Phi 934 Chi 935 Psi 936",
  "Omega 937 alpha 945 beta 946 gamma 947 delta 948 epsilon 949 zeta 950 eta 951 theta 952",
  "iota 953 kappa 954 lambda 955 mu 956 nu 957 xi 958 omicron 959 pi 960 rho 961 sigmaf 962",
  "sigma 963 tau 964 upsilon 965 phi 966 chi 967 psi 968 omega 969 thetasym 977 upsih 978",
  "piv 982 ensp 8194 emsp 8195 thinsp 8201 zwnj 8204 zwj 8205 lrm 8206 rlm 8207 ndash 8211",
  "mdash 8212 lsquo 8216 rsquo 8217 sbquo 8218 ldquo 8220 rdquo 8221 bdquo 8222 dagger 8224",
  "Dagger 8225 bull 8226 hellip 8230 permil 8240 prime 8242 Prime 8243 lsaquo 8249 rsaquo 8250",
  "oline 8254 frasl 8260 euro 8364 image 8465 weierp 8472 real 8476 trade 8482 alefsym 8501",
  "larr 8592 uarr 8593 rarr 8594 darr 8595 harr 8596 crarr 8629 lArr 8656 uArr 8657 rArr 8658",
  "dArr 8659 hArr 8660 forall 8704 part 8706 exist 8707 empty 8709 nabla 8711 isin 8712",
  "notin 8713 ni 8715 prod 8719 sum 8721 minus 8722 lowast 8727 radic 8730 prop 8733 infin 8734",
  "ang 8736 and 8743 or 8744 cap 8745 cup 8746 int 8747 there4 8756 sim 8764 cong 8773",
  "asymp 8776 ne 8800 equiv 8801 le 8804 ge 8805 sub 8834 sup 8835 nsub 8836 sube 8838",
  "supe 8839 oplus 8853 otimes 8855 perp 8869 sdot 8901 lceil 8968 rceil 8969 lfloor 8970",
  "rfloor 8971 loz 9674 spades 9824 clubs 9827 hearts 9829 diams 9830 lang 10216 rang 10217"]

/-- Pairs of a name and a number among words. -/
def pairWords : List (List Char) → List (List Char × Nat)
  | name :: code :: rest =>
    match Number.ofDigits? 10 0 code with
    | some n => (name, n) :: pairWords rest
    | none => pairWords rest
  | _ => []

def references : List (List Char × Nat) :=
  pairWords (referenceLines.flatMap fun line => Text.splitOn ' ' line.toList)

/-- The names that count without a semicolon. -/
def shortReferences : List (List Char × Nat) :=
  references.filter fun e => e.2 < 256 && e.2 != 39

end Names

section Numbers

/-- What the numbers from 128 to 159 mean on old pages; the numbers that are missing mean
themselves. -/
def oldMeanings : List (Nat × Nat) := [
  (128, 0x20AC), (130, 0x201A), (131, 0x0192), (132, 0x201E), (133, 0x2026), (134, 0x2020),
  (135, 0x2021), (136, 0x02C6), (137, 0x2030), (138, 0x0160), (139, 0x2039), (140, 0x0152),
  (142, 0x017D), (145, 0x2018), (146, 0x2019), (147, 0x201C), (148, 0x201D), (149, 0x2022),
  (150, 0x2013), (151, 0x2014), (152, 0x02DC), (153, 0x2122), (154, 0x0161), (155, 0x203A),
  (156, 0x0153), (158, 0x017E), (159, 0x0178)]

def numberedChar (n : Nat) : Char :=
  if n = 0 || 0x10FFFF < n || (0xD800 ≤ n && n ≤ 0xDFFF) then '\uFFFD'
  else Char.ofNat ((oldMeanings.lookup n).getD n)

/-- The digits of a number in a base, with the rest behind them and behind a semicolon. -/
def takeNumber?
    (base : Nat)
    (isDigit : Char → Bool)
    (cs : List Char) :
    Option (Nat × List Char) :=
  let ds := cs.takeWhile isDigit
  if ds.isEmpty then
    none
  else
    (Number.ofDigits? base 0 ds).map fun n =>
      match cs.dropWhile isDigit with
      | ';' :: rest => (n, rest)
      | rest => (n, rest)

end Numbers

section References

/-- The longest name without a semicolon that a run of letters and digits starts with. -/
def longestShort? (run : List Char) : Option (List Char × Nat) :=
  shortReferences.foldl
    (fun best e =>
      if (Text.after? e.1 run).isSome &&
          (best.map fun b : List Char × Nat => b.1.length).getD 0 < e.1.length then
        some e
      else
        best)
    none

/-- The character that a reference behind an ampersand means, and the rest. -/
def reference? (cs : List Char) : Option (Char × List Char) :=
  match cs with
  | '#' :: c :: rest =>
    if c = 'x' || c = 'X' then
      (takeNumber? 16 Text.isHexDigit rest).map fun r => (numberedChar r.1, r.2)
    else
      (takeNumber? 10 Char.isDigit (c :: rest)).map fun r => (numberedChar r.1, r.2)
  | _ =>
    let run := cs.takeWhile Char.isAlphanum
    let rest := cs.drop run.length
    match rest, references.lookup run with
    | ';' :: tail, some n => some (Char.ofNat n, tail)
    | _, _ =>
      (longestShort? run).map fun e => (Char.ofNat e.2, cs.drop e.1.length)

/-- Replaces references by what they mean; `fuel` bounds the number of steps. -/
def decodeReferences (fuel : Nat) : List Char → List Char
  | [] => []
  | c :: rest =>
    match fuel with
    | 0 => []
    | fuel + 1 =>
      if c = '&' then
        match reference? rest with
        | some (d, rest) => d :: decodeReferences fuel rest
        | none => c :: decodeReferences fuel rest
      else
        c :: decodeReferences fuel rest

/-- The text that characters with references mean. -/
def plainText (cs : List Char) : List Char :=
  decodeReferences cs.length cs

end References

end Markup
end ManagedSwitch

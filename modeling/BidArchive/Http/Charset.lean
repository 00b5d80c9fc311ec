import BidArchive.Text.Blank
import BidArchive.Text.Utf8

/-!
# Charsets

The body of an answer is bytes, and its content type may name the charset that they spell a text
in. A mark at the beginning of the bytes overrules the name and is not part of the text. What is no
character is shown as the replacement character. A charset that is not known here, or not named, is
taken for UTF-8.
-/

namespace BidArchive.Http

/-- How bytes spell a text. -/
inductive Charset
  | utf8
  /-- One byte for a character, as on western systems. -/
  | western
  /-- Units of two bytes, the low one first or last. -/
  | wide (lowFirst : Bool)
deriving DecidableEq, Repr

namespace Charset

/-- The names of the charset of western systems. -/
def westernNames : List String :=
  ["windows-1252", "cp1252", "x-cp1252", "iso-8859-1", "iso8859-1", "iso88591", "iso_8859-1",
    "latin1", "l1", "ascii", "us-ascii", "ansi_x3.4-1968", "cp819", "ibm819"]

/-- The charset of the given name. -/
def ofName (name : List Char) : Charset :=
  let name := String.ofList ((Text.trim name).map Char.toLower)
  if westernNames.contains name then .western
  else if ["utf-16", "utf-16le", "unicode", "ucs-2"].contains name then .wide true
  else if name = "utf-16be" then .wide false
  else .utf8

/-- The value of the parameter of a content type that names the charset. -/
def parameter? (contentType : String) : Option (List Char) :=
  ((Text.splitAt ';' contentType.toList).drop 1).findSome? fun part =>
    match Text.splitOnce? '=' part with
    | some (name, value) =>
      if (Text.trim name).map Char.toLower = "charset".toList then
        some ((Text.trim value).filter (· ≠ '"'))
      else none
    | none => none

/-- The charset that a content type names. -/
def ofContentType (contentType : Option String) : Charset :=
  match contentType.bind parameter? with
  | some name => ofName name
  | none => .utf8

/-- The characters of the bytes from 128 to 159 in the charset of western systems. The bytes from
160 on are the characters of their number. -/
def westernUpper : List Nat :=
  [0x20ac, 0x81, 0x201a, 0x192, 0x201e, 0x2026, 0x2020, 0x2021, 0x2c6, 0x2030, 0x160, 0x2039,
    0x152, 0x8d, 0x17d, 0x8f, 0x90, 0x2018, 0x2019, 0x201c, 0x201d, 0x2022, 0x2013, 0x2014, 0x2dc,
    0x2122, 0x161, 0x203a, 0x153, 0x9d, 0x17e, 0x178]

/-- The character of a byte in the charset of western systems. -/
def westernChar (b : UInt8) : Char :=
  if 0x80 ≤ b.toNat ∧ b.toNat < 0xa0 then
    Char.ofNat ((westernUpper[b.toNat - 0x80]?).getD b.toNat)
  else Char.ofNat b.toNat

/-- What is shown where there is no character. -/
def gap : Char := Char.ofNat 0xfffd

/-- The units of two bytes each, and whether a byte is left over. -/
def units (lowFirst : Bool) : List UInt8 → List Nat × Bool
  | [] => ([], false)
  | [_] => ([], true)
  | a :: b :: rest =>
    let (units, odd) := units lowFirst rest
    ((if lowFirst then a.toNat + 256 * b.toNat else 256 * a.toNat + b.toNat) :: units, odd)

/-- The characters of units of two bytes. Two units of the ranges set apart make one character. -/
def ofUnits : List Nat → List Char
  | [] => []
  | [u] => [if 0xd800 ≤ u ∧ u < 0xe000 then gap else Char.ofNat u]
  | u :: v :: rest =>
    if 0xd800 ≤ u ∧ u < 0xdc00 ∧ 0xdc00 ≤ v ∧ v < 0xe000 then
      Char.ofNat (0x10000 + (u - 0xd800) * 0x400 + (v - 0xdc00)) :: ofUnits rest
    else (if 0xd800 ≤ u ∧ u < 0xe000 then gap else Char.ofNat u) :: ofUnits (v :: rest)

/-- The charset that the mark at the beginning of a body announces, and the body behind it. -/
def marked? : List UInt8 → Option (Charset × List UInt8)
  | 0xef :: 0xbb :: 0xbf :: rest => some (.utf8, rest)
  | 0xff :: 0xfe :: rest => some (.wide true, rest)
  | 0xfe :: 0xff :: rest => some (.wide false, rest)
  | _ => none

/-- The text that bytes spell. -/
def decode (charset : Charset) (bytes : List UInt8) : List Char :=
  match charset with
  | .utf8 => Text.Utf8.decodeLossy bytes
  | .western => bytes.map westernChar
  | .wide lowFirst =>
    let (units, odd) := units lowFirst bytes
    ofUnits units ++ if odd then [gap] else []

/-- The text of a body whose content type names a charset. -/
def bodyText (charset : Charset) (body : List UInt8) : String :=
  let (charset, bytes) := (marked? body).getD (charset, body)
  String.ofList (charset.decode bytes)

end Charset

end BidArchive.Http

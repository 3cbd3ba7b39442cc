import DocReport.Text.Word
import DocReport.Markup.NameTable

/-!
Classes of characters in XML.
-/
namespace DocReport.Markup

/-- White space in tags: tab, line feed, carriage return and space. -/
def isSpace (c : Char) : Bool :=
  c == ' ' || c == '\t' || c == '\n' || c == '\r'

/-- Characters that no XML text holds: the controls other than white space, and the two last code
points of the basic plane. -/
def isForbidden (c : Char) : Bool :=
  (c.toNat < 0x20 && !isSpace c) || c.toNat == 0xFFFE || c.toNat == 0xFFFF

/-- Characters with which a name starts. -/
def isNameStart (c : Char) : Bool :=
  if c.toNat < 0x80 then c.isAlpha || c == '_' else Text.inRanges nameStartRanges c.toNat

/-- Characters of a name after the first; the colon separates names and is none. -/
def isNameCharacter (c : Char) : Bool :=
  if c.toNat < 0x80 then c.isAlphanum || c == '_' || c == '-' || c == '.'
  else Text.inRanges nameStartRanges c.toNat || Text.inRanges nameExtraRanges c.toNat

/-- Hexadecimal digits. -/
def isHexDigit (c : Char) : Bool :=
  c.isDigit || ('a' ≤ c && c ≤ 'f') || ('A' ≤ c && c ≤ 'F')

/-- The value of a digit in any base up to sixteen. -/
def digitValue (c : Char) : Nat :=
  if c.isDigit then c.toNat - '0'.toNat
  else if 'a' ≤ c && c ≤ 'f' then c.toNat - 'a'.toNat + 10
  else c.toNat - 'A'.toNat + 10

/-- The value of a row of digits. -/
def digitsValue (base : Nat) (digits : Text) : Nat :=
  digits.foldl (fun n c => n * base + digitValue c) 0

end DocReport.Markup

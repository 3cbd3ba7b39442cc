import DocReport.Text.PrintTable
import DocReport.Text.Word

/-!
Quoted text in messages. Single quotes stand around it, unless it holds single quotes and no double
ones; the quote, the backslash and all that has no printed form are escaped.
-/
namespace DocReport.Text

/-- Whether a character has a printed form. -/
def isPrintable (c : Char) : Bool :=
  if c.toNat < 0x80 then 0x20 ≤ c.toNat && c.toNat != 0x7F
  else !inRanges unprintableRanges c.toNat

/-- A number in lower-case hexadecimal, with leading zeros up to a width. -/
def hexPadded (width n : Nat) : Text :=
  let digits := Nat.toDigits 16 n
  List.replicate (width - digits.length) '0' ++ digits

/-- A character between quotes. -/
def quoteCharacter (quote c : Char) : Text :=
  if c = quote ∨ c = '\\' then ['\\', c]
  else if c = '\n' then ['\\', 'n']
  else if c = '\r' then ['\\', 'r']
  else if c = '\t' then ['\\', 't']
  else if isPrintable c then [c]
  else if c.toNat < 0x100 then '\\' :: 'x' :: hexPadded 2 c.toNat
  else if c.toNat < 0x10000 then '\\' :: 'u' :: hexPadded 4 c.toNat
  else '\\' :: 'U' :: hexPadded 8 c.toNat

/-- The quote to put around a text. -/
def quoteFor (t : Text) : Char :=
  if '\'' ∈ t ∧ '"' ∉ t then '"' else '\''

/-- A text in quotes. -/
def quoted (t : Text) : Text :=
  quoteFor t :: t.flatMap (quoteCharacter (quoteFor t)) ++ [quoteFor t]

end DocReport.Text

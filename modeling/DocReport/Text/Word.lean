import DocReport.Text.Basic
import DocReport.Text.WordTable

/-!
Word characters: letters, numerals and the underscore.
-/
namespace DocReport.Text

/-- Whether a code point lies in one of the ranges. -/
def inRanges (ranges : List (Nat × Nat)) (n : Nat) : Bool :=
  ranges.any fun (low, high) => low ≤ n && n ≤ high

/-- Letters, numerals and the underscore. -/
def isWordCharacter (c : Char) : Bool :=
  if c.toNat < 0x80 then c.isAlphanum || c == '_' else inRanges alphanumericRanges c.toNat

end DocReport.Text

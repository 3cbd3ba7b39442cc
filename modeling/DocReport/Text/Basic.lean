/-!
Text as lists of characters, the white space that counts in documentation, and the cuts and joins
that the rest of the library is made of.
-/
namespace DocReport

/-- Documentation is read, cut and compared character by character, so text is a list of them. -/
abbrev Text := List Char

namespace Text

/-- White space: the ASCII controls from tab to carriage return and from file separator to unit
separator, the space, next line, and the Unicode spaces and separators. Zero-width characters and
the byte order mark are not white. -/
def isBlank (c : Char) : Bool :=
  let n := c.toNat
  (9 ≤ n && n ≤ 13) || (28 ≤ n && n ≤ 32) || n == 0x85 || n == 0xA0 || n == 0x1680 ||
    (0x2000 ≤ n && n ≤ 0x200A) || n == 0x2028 || n == 0x2029 || n == 0x202F || n == 0x205F ||
    n == 0x3000

/-- Drops the longest tail whose characters all satisfy `p`. -/
def dropTail (p : Char → Bool) (t : Text) : Text :=
  (t.reverse.dropWhile p).reverse

/-- Drops leading white space. -/
def trimStart (t : Text) : Text :=
  t.dropWhile isBlank

/-- Drops trailing white space. -/
def trimEnd (t : Text) : Text :=
  dropTail isBlank t

/-- Drops white space at both ends. -/
def trim (t : Text) : Text :=
  trimEnd (trimStart t)

/-- The characters that are not white, in order. -/
def solid (t : Text) : Text :=
  t.filter fun c => !isBlank c

/-- Cuts at the first `c`: what stands before it and, if there is one, what stands after. -/
def cutFirst (c : Char) : Text → Text × Option Text
  | [] => ([], none)
  | d :: r =>
    if d = c then ([], some r)
    else
      let cut := cutFirst c r
      (d :: cut.1, cut.2)

/-- Cuts at the last `c`, which is dropped; without one, nothing stands before the cut. -/
def cutLast (c : Char) (t : Text) : Text × Text :=
  let after := (t.reverse.takeWhile (· != c)).reverse
  (t.take (t.length - after.length - 1), after)

/-- Cuts at every `c`. -/
def cutAll (c : Char) : Text → List Text
  | [] => [[]]
  | d :: r =>
    if d = c then [] :: cutAll c r
    else
      match cutAll c r with
      | [] => [[d]]
      | part :: parts => (d :: part) :: parts

/-- The lines of a text; only a line feed ends a line. -/
def lines (t : Text) : List Text :=
  cutAll '\n' t

/-- Joins parts with `separator` between them. -/
def join (separator : Text) : List Text → Text
  | [] => []
  | [part] => part
  | part :: parts => part ++ separator ++ join separator parts

/-- Joins parts by dots. -/
def joinDots (parts : List Text) : Text :=
  join ['.'] parts

/-- Joins lines by line feeds. -/
def unlines (parts : List Text) : Text :=
  join ['\n'] parts

/-- Replaces every occurrence of a non-empty `pattern`, from the left; `skip` characters of an
occurrence are still to be passed over. -/
def replaceFrom (pattern replacement : Text) : Nat → Text → Text
  | _, [] => []
  | skip + 1, _ :: r => replaceFrom pattern replacement skip r
  | 0, c :: r =>
    if pattern.isPrefixOf (c :: r) then
      replacement ++ replaceFrom pattern replacement (pattern.length - 1) r
    else c :: replaceFrom pattern replacement 0 r

/-- Replaces every occurrence of a non-empty `pattern`, from the left. -/
def replace (pattern replacement : Text) (t : Text) : Text :=
  replaceFrom pattern replacement 0 t

/-- Whether `part` occurs in the text. -/
def contains (part : Text) : Text → Bool
  | [] => part.isEmpty
  | c :: r => part.isPrefixOf (c :: r) || contains part r

/-- The longest text with which both texts start. -/
def commonStart : Text → Text → Text
  | c :: r, d :: s => if c = d then c :: commonStart r s else []
  | _, _ => []

/-- A natural number in decimal digits. -/
def ofNat (n : Nat) : Text :=
  Nat.toDigits 10 n

/-- A number in decimal digits, padded with zeros on the left. -/
def ofNatPadded (width n : Nat) : Text :=
  let digits := ofNat n
  List.replicate (width - digits.length) '0' ++ digits

/-- An integer in decimal digits. -/
def ofInt : Int → Text
  | .ofNat n => ofNat n
  | .negSucc n => '-' :: ofNat (n + 1)

/-- The ASCII letters in lower case, all else as it is. Equality with a word of ASCII letters other
than k needs no more: the Kelvin sign is the only other character with such a lower case. -/
def lowerAscii (t : Text) : Text :=
  t.map Char.toLower

/-- Texts in the order of their code points. -/
def before : Text → Text → Bool
  | [], _ :: _ => true
  | c :: r, d :: s => c.toNat < d.toNat || (c == d && before r s)
  | _, [] => false

theorem length_dropTail_le (p : Char → Bool) (t : Text) : (dropTail p t).length ≤ t.length := by
  have h := (List.dropWhile_sublist p (l := t.reverse)).length_le
  simpa [dropTail] using h

theorem length_trim_le (t : Text) : (trim t).length ≤ t.length :=
  Nat.le_trans (length_dropTail_le _ _) (List.dropWhile_sublist isBlank).length_le

end Text

end DocReport

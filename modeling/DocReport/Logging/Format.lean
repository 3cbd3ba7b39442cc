import DocReport.Decimal.Rounded
import DocReport.Logging.Attribute
import DocReport.Text.DigitTable
import DocReport.Text.Word

/-!
Log formats: text in which a percent sign starts a directive. A directive names an attribute of the
record and says how it is written, and how wide and precise. One without a name is for all
attributes together, and only as long as no directive stands before it. A format that asks for
something that cannot be had writes nothing.
-/
namespace DocReport.Logging

/-- How a value is written. -/
structure Directive where
  /-- The signs before the width. -/
  flags : Text := []
  width : Nat := 0
  precision : Option Nat := none
  conversion : Char
  deriving DecidableEq, Repr

namespace Directive

def has (d : Directive) (flag : Char) : Bool :=
  d.flags.any (· == flag)

/-- Fills a text up with blanks to the width, on the right if the flags say so. -/
def pad (d : Directive) (t : Text) : Text :=
  let blanks := List.replicate (d.width - t.length) ' '
  if d.has '-' then t ++ blanks else blanks ++ t

/-- At most as many characters as the precision says. -/
def cut (d : Directive) (t : Text) : Text :=
  match d.precision with
  | some n => t.take n
  | none => t

/-- A number of which `sign` and `digits` are known; zeros fill it up between the two. -/
def padNumber (d : Directive) (sign digits : Text) : Text :=
  if d.has '0' && !d.has '-' then
    sign ++ List.replicate (d.width - sign.length - digits.length) '0' ++ digits
  else d.pad (sign ++ digits)

/-- Digits with zeros in front up to the precision. -/
def fill (d : Directive) (digits : Text) : Text :=
  List.replicate (d.precision.getD 0 - digits.length) '0' ++ digits

/-- The sign of a number. -/
def sign (d : Directive) (negative : Bool) : Text :=
  if negative then ['-'] else if d.has '+' then ['+'] else if d.has ' ' then [' '] else []

/-- Characters beyond ASCII by their numbers. -/
def escapeWide (c : Char) : Text :=
  let n := c.toNat
  if n < 0x80 then [c]
  else if n < 0x100 then '\\' :: 'x' :: Text.hexPadded 2 n
  else if n < 0x10000 then '\\' :: 'u' :: Text.hexPadded 4 n
  else '\\' :: 'U' :: Text.hexPadded 8 n

/-- A value as text. -/
def text? (d : Directive) (field : Field) : Option Text :=
  match d.conversion with
  | 's' => some (d.pad (d.cut field.text))
  | 'r' => some (d.pad (d.cut field.shown))
  | 'a' => some (d.pad (d.cut (field.shown.flatMap escapeWide)))
  | _ => none

/-- A whole number in decimal digits. -/
def decimal? (d : Directive) (negative : Bool) (n : Nat) : Option Text :=
  match d.conversion with
  | 'd' | 'i' | 'u' => some (d.padNumber (d.sign negative) (d.fill (Text.ofNat n)))
  | _ => none

/-- A whole number in the digits of another base, after a mark for the base if the flags ask for
it. -/
def inBase? (d : Directive) (n : Nat) : Option Text :=
  let write (base : Nat) (digit : Char → Char) : Text :=
    d.padNumber (d.sign false ++ if d.has '#' then ['0', d.conversion] else [])
      (d.fill ((Nat.toDigits base n).map digit))
  match d.conversion with
  | 'o' => some (write 8 id)
  | 'x' => some (write 16 id)
  | 'X' => some (write 16 Char.toUpper)
  | _ => none

/-- A number with a fraction or an exponent. -/
def real? (d : Directive) (x : Decimal.Binary) : Option Text :=
  let places := d.precision.getD 6
  let write (digits : Bool → Nat → Nat → Nat → Text) (letter : Char → Char) : Text :=
    d.padNumber (d.sign x.isNegative) ((x.magnitude (digits (d.has '#') places)).map letter)
  match d.conversion with
  | 'f' => some (write Decimal.fixed id)
  | 'F' => some (write Decimal.fixed Char.toUpper)
  | 'e' => some (write Decimal.scientific id)
  | 'E' => some (write Decimal.scientific Char.toUpper)
  | 'g' => some (write Decimal.general id)
  | 'G' => some (write Decimal.general Char.toUpper)
  | _ => none

/-- A single character, if there is one. -/
def character? (d : Directive) (c : Option Char) : Option Text :=
  if d.conversion = 'c' then c.map fun c => d.pad [c] else none

/-- The character with a number. -/
def ofCode? (n : Nat) : Option Char :=
  if n.isValidChar then some (Char.ofNat n) else none

/-- A value as a directive writes it. Whole numbers can be written in all ways, measured ones not in
other bases, and words only as text. -/
def write? (d : Directive) (field : Field) : Option Text :=
  (d.text? field).or <|
    match field with
    | .words t => d.character? (if t.length = 1 then t.head? else none)
    | .number n =>
      (d.decimal? false n).or <| (d.inBase? n).or <| (d.character? (ofCode? n)).or <|
        (Decimal.Binary.ofNat? n).bind d.real?
    | .measure x => (x.truncated?.bind (d.decimal? (x.isNegative && x.truncated? != some 0))).or
        (d.real? x)
    | .other _ => none

end Directive

/-- The signs that can stand before a width. -/
def isFlag (c : Char) : Bool :=
  c == '#' || c == '0' || c == '-' || c == ' ' || c == '+'

def isDigit (c : Char) : Bool :=
  '0' ≤ c && c ≤ '9'

/-- The number that decimal digits write. -/
def decimal (digits : Text) : Nat :=
  digits.foldl (fun n c => 10 * n + (c.toNat - '0'.toNat)) 0

/-- Cuts a text after its longest start of such characters. -/
def spanOf (p : Char → Bool) (t : Text) : Text × Text :=
  (t.takeWhile p, t.dropWhile p)

/-- The length of a name in parentheses that are balanced, without the last one; the first is not
in the text. -/
def nameLength (depth : Nat) : Text → Option Nat
  | [] => none
  | c :: rest =>
    if c = ')' then
      match depth with
      | 0 => some 0
      | depth + 1 => (nameLength depth rest).map (· + 1)
    else (nameLength (if c = '(' then depth + 1 else depth) rest).map (· + 1)

/-- The largest width and the largest precision. -/
def widthLimit : Nat := 0x7FFFFFFFFFFFFFFF
def precisionLimit : Nat := 0x7FFFFFFF

/-- How a directive goes on after the name of its attribute, with what follows it. -/
def readDirective (t : Text) : Option (Directive × Text) :=
  let flags := spanOf isFlag t
  let width := spanOf isDigit flags.2
  let precision : Option Nat × Text :=
    match width.2 with
    | '.' :: rest => (some (decimal (spanOf isDigit rest).1), (spanOf isDigit rest).2)
    | rest => (none, rest)
  let rest :=
    match precision.2 with
    | c :: rest => if c == 'h' || c == 'l' || c == 'L' then rest else c :: rest
    | [] => []
  if widthLimit < decimal width.1 || precision.1.any (precisionLimit < ·) then none
  else
    match rest with
    | c :: rest =>
      some (⟨flags.1, decimal width.1, precision.1, c⟩, rest)
    | [] => none

/-- What a format is made of. -/
inductive Piece where
  | character (c : Char)
  | directive (name : Option Text) (how : Directive)
  deriving DecidableEq, Repr

/-- The piece that a percent sign starts, with what follows it; the sign itself is not in the
text. -/
def readPiece (t : Text) : Option (Piece × Text) :=
  match t with
  | '%' :: rest => some (.character '%', rest)
  | '(' :: named => do
    let length ← nameLength 0 named
    let (how, rest) ← readDirective (named.drop (length + 1))
    some (.directive (some (named.take length)) how, rest)
  | _ => (readDirective t).map fun (how, rest) => (.directive none how, rest)

/-- Reads a format; `skip` characters of a piece are still to be passed over. -/
def readFrom : Nat → Text → Option (List Piece)
  | _, [] => some []
  | skip + 1, _ :: rest => readFrom skip rest
  | 0, c :: rest =>
    if c = '%' then do
      let (piece, after) ← readPiece rest
      let others ← readFrom (rest.length - after.length) rest
      some (piece :: others)
    else (readFrom 0 rest).map (.character c :: ·)

/-- Writes pieces. `whole` is what a directive without a name is for. -/
def writeAll (scene : Scene) (record : Record) (whole : Option Field) :
    List Piece → Option Text
  | [] => some []
  | .character c :: rest => (writeAll scene record whole rest).map (c :: ·)
  | .directive name how :: rest => do
    let field ← match name with
      | some name => (Attribute.ofName? name).map (Attribute.value scene record)
      | none => whole
    let written ← how.write? field
    let others ← writeAll scene record none rest
    some (written ++ others)

/-- Whether a format asks for the time of day. -/
def usesTime : Text → Bool
  | [] => false
  | c :: rest => "%(asctime)".toList.isPrefixOf (c :: rest) || usesTime rest

/-- A record in a format. -/
def render (format : Text) (scene : Scene) (record : Record) : Option Text := do
  let shown := if usesTime format then Attribute.timeless ++ [.time] else Attribute.timeless
  let pieces ← readFrom 0 format
  writeAll scene record (some (.other (Attribute.table scene record shown))) pieces

/-- Signs that end a directive, in any case of their letters. -/
def isConversion (c : Char) : Bool :=
  "diouxefgcrsa%".toList.any (· == c.toLower) || c == 'İ' || c == 'ı' || c == 'ſ'

/-- What follows a number or a star. -/
def afterAmount? (t : Text) : Option Text :=
  match t with
  | '*' :: rest => some rest
  | _ =>
    if (spanOf Text.isDecimalDigit t).1.isEmpty then none else some (spanOf Text.isDecimalDigit t).2

/-- Whether a text starts with a directive for an attribute. -/
def startsWithField : Text → Bool
  | '%' :: '(' :: t =>
    let name := spanOf Text.isWordCharacter t
    match name.2 with
    | ')' :: rest =>
      let rest := (spanOf isFlag rest).2
      let rest := (afterAmount? rest).getD rest
      let rest :=
        match rest with
        | '.' :: more => (afterAmount? more).getD rest
        | _ => rest
      !name.1.isEmpty && rest.head?.any isConversion
    | _ => false
  | _ => false

/-- Whether a format writes an attribute at all. -/
def hasField : Text → Bool
  | [] => false
  | c :: rest => startsWithField (c :: rest) || hasField rest

end DocReport.Logging

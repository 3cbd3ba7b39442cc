import DocReport.Report.Moment
import DocReport.Yaml.Cursor
import DocReport.Yaml.Value

/-!
What plain scalars mean: truth values, nothing, numbers in several notations, dates and times; all
else is text.
-/
namespace DocReport.Yaml

/-- Tags that a plain scalar can have without writing one. -/
inductive Core where
  | null | bool | int | float | timestamp | text | merge | value
  deriving DecidableEq, Repr

/-- The two truth values in words, in lower case. -/
def boolWords : List (Text × Bool) :=
  [("yes".toList, true), ("no".toList, false), ("true".toList, true), ("false".toList, false),
   ("on".toList, true), ("off".toList, false)]

/-- Whether a word is in lower case, in upper case, or in lower case after its first letter. -/
def isRegularCase (t : Text) : Bool :=
  t.all Char.isLower || t.all Char.isUpper ||
    (t.head?.any Char.isUpper && t.tail.all Char.isLower)

/-- The truth value that a word names. -/
def bool? (t : Text) : Option Bool :=
  if isRegularCase t then boolWords.lookup (Text.lowerAscii t) else none

/-- Whether a word means nothing. -/
def isNull (t : Text) : Bool :=
  [[], ['~'], "null".toList, "Null".toList, "NULL".toList].contains t

/-- Whether a word is digits, from the given class, with underscores between or behind. -/
def isDigits (isDigit : Char → Bool) (t : Text) : Bool :=
  !t.isEmpty && t.all fun c => isDigit c || c == '_'

/-- A word without its sign. -/
def dropSign (t : Text) : Text :=
  match t with
  | c :: r => if c == '-' || c == '+' then r else t
  | [] => []

/-- Whether a word is one or two digits below sixty. -/
def isSixtieth (t : Text) : Bool :=
  match t with
  | [c] => c.isDigit
  | [c, d] => '0' ≤ c && c ≤ '5' && d.isDigit
  | _ => false

/-- Whether a word is digits of which the first is no underscore. -/
def isDecimal (t : Text) : Bool :=
  t.head?.any Char.isDigit && isDigits Char.isDigit t

/-- Whether a word is a whole number: binary, octal, decimal, hexadecimal or by sixties. -/
def isInt (t : Text) : Bool :=
  let u := dropSign t
  match u with
  | '0' :: 'b' :: r => isDigits (fun c => c == '0' || c == '1') r
  | '0' :: 'x' :: r => isDigits (fun c => (hexDigit? c).isSome) r
  | ['0'] => true
  | '0' :: r => isDigits (fun c => '0' ≤ c && c ≤ '7') r
  | _ =>
    match Text.cutAll ':' u with
    | [digits] => isDecimal digits
    | digits :: parts => isDecimal digits && parts.all isSixtieth
    | [] => false
where
  hexDigit? (c : Char) : Option Unit :=
    if c.isDigit || ('a' ≤ c && c ≤ 'f') || ('A' ≤ c && c ≤ 'F') then some () else none

/-- Whether a text is an exponent with its sign, or nothing. -/
def isExponent (t : Text) : Bool :=
  match t with
  | [] => true
  | c :: sign :: digits =>
    (c == 'e' || c == 'E') && (sign == '+' || sign == '-') && !digits.isEmpty &&
      digits.all Char.isDigit
  | _ => false

/-- Whether a text is a fraction behind its point, with an exponent. -/
def isFraction (t : Text) : Bool :=
  isExponent (t.dropWhile fun c => c.isDigit || c == '_')

/-- Whether a word is a number with a point: decimal, by sixties, or none of the real numbers. -/
def isFloat (t : Text) : Bool :=
  let u := dropSign t
  if [".inf", ".Inf", ".INF"].any (·.toList == u) then true
  else if [".nan", ".NaN", ".NAN"].any (·.toList == t) then true
  else
    match Text.cutFirst '.' u with
    | (_, none) => false
    | ([], some r) => u == t && r.head?.any Char.isDigit && isFraction r
    | (whole, some r) =>
      match Text.cutAll ':' whole with
      | [digits] => isDecimal digits && isFraction r
      | digits :: parts =>
        isDecimal digits && parts.all isSixtieth && r.all fun c => c.isDigit || c == '_'
      | [] => false

/-- Digits at the front, between a least and a greatest number of them. -/
def figures? (least most : Nat) (t : Text) : Option (Nat × Text) :=
  let digits := (t.take most).takeWhile Char.isDigit
  if least ≤ digits.length then
    (Report.Moment.number? digits).map fun n => (n, t.drop digits.length)
  else none

/-- Drops a mark from the front. -/
def mark? (c : Char) (t : Text) : Option Text :=
  if t.head? == some c then some t.tail else none

/-- Reads a date that is written in full. -/
def fullDate? (t : Text) : Option (Day × Text) := do
  let (year, t) ← figures? 4 4 t
  let t ← mark? '-' t
  let (month, t) ← figures? 2 2 t
  let t ← mark? '-' t
  let (day, t) ← figures? 2 2 t
  some (⟨year, month, day⟩, t)

/-- Reads a date before a time: months and days may have one figure. -/
def looseDate? (t : Text) : Option (Day × Text) := do
  let (year, t) ← figures? 4 4 t
  let t ← mark? '-' t
  let (month, t) ← figures? 1 2 t
  let t ← mark? '-' t
  let (day, t) ← figures? 1 2 t
  some (⟨year, month, day⟩, t)

def isGap (c : Char) : Bool :=
  c == ' ' || c == '\t'

/-- Reads the distance to universal time at the end, in minutes. -/
def zone? (t : Text) : Option (Option Int) :=
  match t.dropWhile isGap with
  | [] => if t.isEmpty then some none else none
  | ['Z'] => some (some 0)
  | c :: r =>
    if c == '+' || c == '-' then do
      let (hours, r) ← figures? 1 2 r
      let sign : Int := if c == '-' then -1 else 1
      match r with
      | [] => some (some (sign * (hours * 60 : Nat)))
      | ':' :: r => do
        let (minutes, r) ← figures? 2 2 r
        if r.isEmpty then some (some (sign * (hours * 60 + minutes : Nat))) else none
      | _ => none
    else none

/-- Reads a time of day and the distance to universal time. -/
def clock? (t : Text) : Option Clock := do
  let t ←
    match t with
    | 'T' :: r | 't' :: r => some r
    | c :: _ => if isGap c then some (t.dropWhile isGap) else none
    | [] => none
  let (hour, t) ← figures? 1 2 t
  let t ← mark? ':' t
  let (minute, t) ← figures? 2 2 t
  let t ← mark? ':' t
  let (second, t) ← figures? 2 2 t
  let fraction := if t.head? == some '.' then t.tail.takeWhile Char.isDigit else []
  let t := if t.head? == some '.' then t.tail.dropWhile Char.isDigit else t
  let zone ← zone? t
  let digits := fraction.take 6
  let figure := (Report.Moment.number? (digits ++ List.replicate (6 - digits.length) '0')).getD 0
  some { hour, minute, second, fraction := figure, zone }

/-- Reads a date, or a date with a time of day. -/
def timestamp? (t : Text) : Option (Day × Option Clock) :=
  match fullDate? t with
  | some (day, []) => some (day, none)
  | _ => do
    let (day, t) ← looseDate? t
    let clock ← clock? t
    some (day, some clock)

/-- What a plain scalar is. -/
def core (t : Text) : Core :=
  if (bool? t).isSome then .bool
  else if isFloat t then .float
  else if isInt t then .int
  else if t == ['<', '<'] then .merge
  else if isNull t then .null
  else if (timestamp? t).isSome then .timestamp
  else if t == ['='] then .value
  else .text

/-- Digits in a base as a number; an underscore counts for nothing. -/
def digitsIn (base : Nat) (t : Text) : Nat :=
  t.foldl
    (fun n c =>
      if c == '_' then n
      else if c.isDigit then n * base + (c.toNat - '0'.toNat)
      else n * base + (c.toLower.toNat - 'a'.toNat + 10)) 0

/-- A number by sixties: each part counts sixty of the next. -/
def bySixties (parts : List Nat) : Nat :=
  parts.foldl (fun n part => n * 60 + part) 0

/-- The whole number that a word writes. -/
def intValue (t : Text) : Int :=
  let u := dropSign t
  let size : Nat :=
    match u with
    | '0' :: 'b' :: r => digitsIn 2 r
    | '0' :: 'x' :: r => digitsIn 16 r
    | '0' :: r => digitsIn 8 r
    | _ => bySixties ((Text.cutAll ':' u).map (digitsIn 10))
  if t.head? == some '-' then -(size : Int) else size

/-- The exponent that a text writes. -/
def exponentValue (t : Text) : Int :=
  match t with
  | _ :: sign :: digits =>
    if sign == '-' then -(digitsIn 10 digits : Int) else digitsIn 10 digits
  | _ => 0

/-- The number with a point that a word writes. -/
def floatValue (t : Text) : Decimal.Binary :=
  let negative := t.head? == some '-'
  let u := dropSign t
  if Text.lowerAscii u == ".inf".toList then .infinite negative
  else if Text.lowerAscii u == ".nan".toList then .undefined
  else
    let cut := Text.cutFirst '.' u
    let r := cut.2.getD []
    let fraction := (r.takeWhile fun c => c.isDigit || c == '_').filter (· != '_')
    let exponent := exponentValue (r.dropWhile fun c => c.isDigit || c == '_')
    let whole := bySixties ((Text.cutAll ':' cut.1).map (digitsIn 10))
    Decimal.Binary.ofDecimal negative (whole * Nat.pow 10 fraction.length + digitsIn 10 fraction)
      (exponent - (fraction.length : Int))

/-- Why a date or time of day does not exist. -/
def calendarFault? (day : Day) (clock : Option Clock) : Option Text :=
  if day.year = 0 then some "year 0 is out of range".toList
  else if day.month = 0 ∨ 12 < day.month then some "month must be in 1..12".toList
  else if day.day = 0 ∨ Report.Moment.daysInMonth day.year day.month < day.day then
    some "day is out of range for month".toList
  else
    match clock with
    | none => none
    | some c =>
      if 24 ≤ c.hour then some "hour must be in 0..23".toList
      else if 60 ≤ c.minute then some "minute must be in 0..59".toList
      else if 60 ≤ c.second then some "second must be in 0..59".toList
      else none

/-- The date or moment that a word writes. -/
def timestampValue (t : Text) : Except Fault Value :=
  match timestamp? t with
  | none => .error .malformed
  | some (day, clock) =>
    match calendarFault? day clock with
    | some message => .error (.noSuchValue message)
    | none =>
      match clock with
      | none => .ok (.date day)
      | some clock => .ok (.moment day clock)

end DocReport.Yaml

import DocReport.Text.Basic

/-!
Moments on the calendar, as the report shows them and as they are written in ISO form.
-/
namespace DocReport.Report

/-- A date with a time of day. -/
structure Moment where
  year : Nat
  month : Nat
  day : Nat
  hour : Nat := 0
  minute : Nat := 0
  second : Nat := 0
  deriving DecidableEq, Repr

namespace Moment

/-- Date and time; all but the year have two digits. -/
def toText (m : Moment) : Text :=
  Text.ofNat m.year ++ ['-'] ++ Text.ofNatPadded 2 m.month ++ ['-'] ++ Text.ofNatPadded 2 m.day ++
    [' '] ++ Text.ofNatPadded 2 m.hour ++ [':'] ++ Text.ofNatPadded 2 m.minute ++ [':'] ++
    Text.ofNatPadded 2 m.second

/-- The number that digits write. -/
def number? (digits : Text) : Option Nat :=
  if digits.all Char.isDigit && digits != [] then
    some (digits.foldl (fun n c => n * 10 + (c.toNat - '0'.toNat)) 0)
  else none

def isLeapYear (year : Nat) : Bool :=
  year % 4 == 0 && (year % 100 != 0 || year % 400 == 0)

def daysInMonth (year month : Nat) : Nat :=
  if month == 2 then if isLeapYear year then 29 else 28
  else if month == 4 || month == 6 || month == 9 || month == 11 then 30
  else 31

/-- Reads a number of the given width at the front. -/
def take? (width : Nat) (t : Text) : Option (Nat × Text) :=
  if t.length < width then none else (number? (t.take width)).map fun n => (n, t.drop width)

/-- Reads the date at the front, with or without hyphens. -/
def date? (t : Text) : Option (Moment × Text) := do
  let (year, t) ← take? 4 t
  let hyphens := t.head? == some '-'
  let (month, t) ← take? 2 (if hyphens then t.drop 1 else t)
  let t ← if hyphens then (if t.head? == some '-' then some (t.drop 1) else none) else some t
  let (day, t) ← take? 2 t
  if 1 ≤ year && 1 ≤ month && month ≤ 12 && 1 ≤ day && day ≤ daysInMonth year month then
    some (⟨year, month, day, 0, 0, 0⟩, t)
  else none

/-- Whether a text is a distance to universal time. -/
def isZone (t : Text) : Bool :=
  match t with
  | ['Z'] => true
  | c :: rest =>
    (c == '+' || c == '-') &&
      (rest.filter (· != ':')).all (fun d => d.isDigit || d == '.') && 2 ≤ rest.length
  | [] => true

/-- Whether a text is a part of a second and a distance to universal time, which are not kept. -/
def isFraction (t : Text) : Bool :=
  match t with
  | c :: rest =>
    if c == '.' || c == ',' then
      (rest.takeWhile Char.isDigit) != [] && isZone (rest.dropWhile Char.isDigit)
    else isZone t
  | [] => true

/-- Reads the time of day; seconds and minutes may be missing. -/
def time? (m : Moment) (t : Text) : Option Moment := do
  let (hour, t) ← take? 2 t
  let colons := t.head? == some ':'
  let next := fun (t : Text) =>
    if colons then (if t.head? == some ':' then take? 2 (t.drop 1) else none)
    else if t.head?.any Char.isDigit then take? 2 t
    else none
  let (minute, t) := (next t).getD (0, t)
  let (second, t) := (next t).getD (0, t)
  if hour < 24 && minute < 60 && second < 60 && isFraction t then
    some { m with hour, minute, second }
  else none

/-- Reads a moment. A distance to universal time is not applied. -/
def ofIso? (t : Text) : Option Moment :=
  match date? t with
  | none => none
  | some (date, []) => some date
  | some (date, _ :: rest) => time? date rest

/-- The date of a day, counted from the first of March of the year zero. Years begin in March here,
so that a leap day is the last of its year. -/
def ofDayNumber (days : Nat) : Moment :=
  let era := days / 146097
  let day := days % 146097
  let year := (day - day / 1460 + day / 36524 - day / 146096) / 365
  let dayOfYear := day - (365 * year + year / 4 - year / 100)
  let month := (5 * dayOfYear + 2) / 153
  { year := year + era * 400 + (if month < 10 then 0 else 1)
    month := if month < 10 then month + 3 else month - 9
    day := dayOfYear - (153 * month + 2) / 5 + 1 }

/-- The moment some seconds after the start of 1970. -/
def ofSeconds (seconds : Nat) : Moment :=
  { ofDayNumber (seconds / 86400 + 719468) with
    hour := seconds % 86400 / 3600, minute := seconds % 3600 / 60, second := seconds % 60 }

end Moment

/-- A moment with thousandths of a second. -/
structure Instant where
  moment : Moment
  millisecond : Nat := 0
  deriving DecidableEq, Repr

/-- An instant as log lines show it. -/
def Instant.toText (now : Instant) : Text :=
  now.moment.toText ++ [','] ++ Text.ofNatPadded 3 now.millisecond

end DocReport.Report

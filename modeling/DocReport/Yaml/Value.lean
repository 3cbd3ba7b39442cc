import DocReport.Decimal.Binary
import DocReport.Text.Quoted

/-!
Values that a YAML document can hold, with their names and their texts as messages and reports show
them.
-/
namespace DocReport.Yaml

/-- A day of the calendar. -/
structure Day where
  year : Nat
  month : Nat
  day : Nat
  deriving DecidableEq, Repr

/-- A time of day with millionths of a second and, if it is known, the distance to universal time
in minutes. -/
structure Clock where
  hour : Nat
  minute : Nat
  second : Nat
  fraction : Nat := 0
  zone : Option Int := none
  deriving DecidableEq, Repr

/-- A value. -/
inductive Value where
  | null
  | bool (value : Bool)
  | int (value : Int)
  | float (value : Decimal.Binary)
  | text (value : Text)
  | date (day : Day)
  | moment (day : Day) (clock : Clock)
  | list (items : List Value)
  | map (entries : List (Value × Value))
  deriving Repr, Inhabited

namespace Value

/-- The name of a value's type in messages. -/
def typeName : Value → Text
  | .null => "NoneType".toList
  | .bool _ => "bool".toList
  | .int _ => "int".toList
  | .float _ => "float".toList
  | .text _ => "str".toList
  | .date _ => "datetime.date".toList
  | .moment .. => "datetime.datetime".toList
  | .list _ => "list".toList
  | .map _ => "dict".toList

/-- Whether a value counts as something: not nothing, not zero and not empty. -/
def isTruthy : Value → Bool
  | .null => false
  | .bool value => value
  | .int value => value != 0
  | .float value => !value.isZero
  | .text value => !value.isEmpty
  | .date _ | .moment .. => true
  | .list items => !items.isEmpty
  | .map entries => !entries.isEmpty

/-- Whether a value can be told apart by looking at it alone, as names of things are. -/
def isAtomic : Value → Bool
  | .list _ | .map _ => false
  | _ => true

end Value

namespace Day

/-- A day in figures. -/
def toText (d : Day) : Text :=
  Text.ofNatPadded 4 d.year ++ ['-'] ++ Text.ofNatPadded 2 d.month ++ ['-'] ++
    Text.ofNatPadded 2 d.day

/-- The figures of a day as a list. -/
def figures (d : Day) : Text :=
  Text.join [',', ' '] ([d.year, d.month, d.day].map Text.ofNat)

end Day

namespace Clock

/-- The distance to universal time in hours and minutes. -/
def zoneText : Option Int → Text
  | none => []
  | some minutes =>
    (if minutes < 0 then '-' else '+') :: Text.ofNatPadded 2 (minutes.natAbs / 60) ++ [':'] ++
      Text.ofNatPadded 2 (minutes.natAbs % 60)

/-- A time of day in figures. -/
def toText (c : Clock) : Text :=
  Text.ofNatPadded 2 c.hour ++ [':'] ++ Text.ofNatPadded 2 c.minute ++ [':'] ++
    Text.ofNatPadded 2 c.second ++
    (if c.fraction = 0 then [] else '.' :: Text.ofNatPadded 6 c.fraction) ++ zoneText c.zone

/-- The figures of a time of day as a list; seconds of zero are left out. -/
def figures (c : Clock) : Text :=
  let parts :=
    if c.fraction ≠ 0 then [c.hour, c.minute, c.second, c.fraction]
    else if c.second ≠ 0 then [c.hour, c.minute, c.second]
    else [c.hour, c.minute]
  let zone : Text :=
    match c.zone with
    | none => []
    | some 0 => ", tzinfo=datetime.timezone.utc".toList
    | some minutes =>
      let seconds := minutes * 60
      let days := if seconds < 0 then "days=-1, ".toList else []
      let within := if seconds < 0 then seconds + 86400 else seconds
      ", tzinfo=datetime.timezone(datetime.timedelta(".toList ++ days ++ "seconds=".toList ++
        Text.ofInt within ++ "))".toList
  Text.join [',', ' '] (parts.map Text.ofNat) ++ zone

end Clock

namespace Value

mutual

/-- A value as it stands inside another one. -/
def quoted : Value → Text
  | .null => "None".toList
  | .bool value => if value then "True".toList else "False".toList
  | .int value => Text.ofInt value
  | .float value => value.toText
  | .text value => Text.quoted value
  | .date day => "datetime.date(".toList ++ day.figures ++ [')']
  | .moment day clock =>
    "datetime.datetime(".toList ++ day.figures ++ ", ".toList ++ clock.figures ++ [')']
  | .list items => '[' :: Text.join [',', ' '] (quotedItems items) ++ [']']
  | .map entries => '\x7b' :: Text.join [',', ' '] (quotedEntries entries) ++ ['\x7d']

/-- The items of a list. -/
def quotedItems : List Value → List Text
  | [] => []
  | item :: rest => item.quoted :: quotedItems rest

/-- The entries of a mapping. -/
def quotedEntries : List (Value × Value) → List Text
  | [] => []
  | (key, value) :: rest => (key.quoted ++ ": ".toList ++ value.quoted) :: quotedEntries rest

end

/-- A value as text. -/
def toText : Value → Text
  | .text value => value
  | .date day => day.toText
  | .moment day clock => day.toText ++ ' ' :: clock.toText
  | other => other.quoted

/-- Whether two keys are the same. -/
def sameKey : Value → Value → Bool
  | .null, .null => true
  | .bool a, .bool b => a == b
  | .int a, .int b => a == b
  | .bool a, .int b => (if a then 1 else 0) == b
  | .int a, .bool b => a == (if b then 1 else 0)
  | .float a, .float b => a == b
  | .text a, .text b => a == b
  | .date a, .date b => a == b
  | .moment a c, .moment b d => a == b && c == d
  | _, _ => false

/-- Sets an entry of a mapping; a key that is there keeps its place. -/
def insert (key value : Value) : List (Value × Value) → List (Value × Value)
  | [] => [(key, value)]
  | (old, previous) :: rest =>
    if sameKey old key then (old, value) :: rest else (old, previous) :: insert key value rest

/-- The entry of a mapping under a text. -/
def entry? (key : Text) (entries : List (Value × Value)) : Option Value :=
  (entries.find? fun e => sameKey e.1 (.text key)).map (·.2)

end Value

end DocReport.Yaml

import DocReport.Decimal.Binary
import DocReport.Logging.Record
import DocReport.Text.Quoted

/-!
What can be told about a record: what it says itself, and besides that how its message was put
together, where in the program it was made, when, and by which process. The latter is for the
surroundings to say. Traces of failures are left out.
-/
namespace DocReport.Logging

/-- A value that is told about a record: words, a number, a measured number, or something else,
which only has a written form. -/
inductive Field where
  | words (text : Text)
  | number (value : Nat)
  | measure (value : Decimal.Binary)
  | other (shown : Text)
  deriving DecidableEq, Repr

/-- A value as it is shown in messages, where words have quotes. -/
def Field.shown : Field → Text
  | .words t => Text.quoted t
  | .number n => Text.ofNat n
  | .measure x => x.toText
  | .other shown => shown

/-- A value as it is written on its own. -/
def Field.text : Field → Text
  | .words t => t
  | field => field.shown

/-- What the surroundings say about a record. -/
structure Details where
  /-- The message before its arguments were filled in, if that is another text. -/
  template : Option Text := none
  /-- The arguments of the message, as they are shown. -/
  arguments : Text := "()".toList
  path : Text := []
  file : Text := []
  unit : Text := []
  line : Nat := 0
  function : Text := []
  /-- Seconds since the start of 1970. -/
  created : Decimal.Binary := .finite false 0 0
  /-- Thousandths of a second since the last second. -/
  fraction : Decimal.Binary := .finite false 0 0
  /-- Thousandths of a second since logging began. -/
  elapsed : Decimal.Binary := .finite false 0 0
  thread : Nat := 0
  threadName : Text := "MainThread".toList
  processName : Text := "MainProcess".toList
  process : Nat := 0
  deriving DecidableEq, Repr

/-- The time at which records are made, and what the surroundings say about each. -/
structure Scene where
  time : Text
  details : Record → Details := fun _ => {}

/-- A scene of which only the time is known. -/
instance : Coe Text Scene where
  coe time := { time }

/-- What formats can ask for. -/
inductive Attribute where
  | origin | template | arguments | levelWord | level | path | file | unit
  | failure | trace | stack | line | function | created | fraction | elapsed
  | thread | threadName | processName | process | message | time
  deriving DecidableEq, Repr

namespace Attribute

/-- The name of an attribute in formats. -/
def name : Attribute → Text
  | origin => "name".toList
  | template => "msg".toList
  | arguments => "args".toList
  | levelWord => "levelname".toList
  | level => "levelno".toList
  | path => "pathname".toList
  | file => "filename".toList
  | unit => "module".toList
  | failure => "exc_info".toList
  | trace => "exc_text".toList
  | stack => "stack_info".toList
  | line => "lineno".toList
  | function => "funcName".toList
  | created => "created".toList
  | fraction => "msecs".toList
  | elapsed => "relativeCreated".toList
  | thread => "thread".toList
  | threadName => "threadName".toList
  | processName => "processName".toList
  | process => "process".toList
  | message => "message".toList
  | time => "asctime".toList

/-- The attribute with a name. -/
def ofName? (name : Text) : Option Attribute :=
  match String.ofList name with
  | "name" => some origin
  | "msg" => some template
  | "args" => some arguments
  | "levelname" => some levelWord
  | "levelno" => some level
  | "pathname" => some path
  | "filename" => some file
  | "module" => some unit
  | "exc_info" => some failure
  | "exc_text" => some trace
  | "stack_info" => some stack
  | "lineno" => some line
  | "funcName" => some function
  | "created" => some created
  | "msecs" => some fraction
  | "relativeCreated" => some elapsed
  | "thread" => some thread
  | "threadName" => some threadName
  | "processName" => some processName
  | "process" => some process
  | "message" => some message
  | "asctime" => some time
  | _ => none

theorem ofName?_name (a : Attribute) : ofName? a.name = some a := by
  cases a <;> decide +kernel

/-- All attributes but the time of day, in the order in which they are shown together. -/
def timeless : List Attribute :=
  [origin, template, arguments, levelWord, level, path, file, unit, failure, trace, stack, line,
    function, created, fraction, elapsed, thread, threadName, processName, process, message]

/-- The value of an attribute. -/
def value (scene : Scene) (record : Record) (asked : Attribute) : Field :=
  let details := scene.details record
  match asked with
  | origin => .words record.origin.name
  | template => .words (details.template.getD record.message)
  | arguments => .other details.arguments
  | levelWord => .words record.level.word
  | level => .number record.level
  | path => .words details.path
  | file => .words details.file
  | unit => .words details.unit
  | failure | trace | stack => .other "None".toList
  | line => .number details.line
  | function => .words details.function
  | created => .measure details.created
  | fraction => .measure details.fraction
  | elapsed => .measure details.elapsed
  | thread => .number details.thread
  | threadName => .words details.threadName
  | processName => .words details.processName
  | process => .number details.process
  | message => .words record.message
  | time => .words scene.time

/-- Attributes with their values, as they are shown together. -/
def table (scene : Scene) (record : Record) (attributes : List Attribute) : Text :=
  ['\x7b'] ++ Text.join ", ".toList (attributes.map fun a =>
    Text.quoted a.name ++ ": ".toList ++ (a.value scene record).shown) ++ ['\x7d']

end Attribute

end DocReport.Logging

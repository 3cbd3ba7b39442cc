import DocReport.Failure
import DocReport.Logging.Format
import DocReport.Yaml.Value

/-!
The logger: the least level that it lets through, and handlers that write what comes through to the
console or to a file.
-/
namespace DocReport.Logging

open Yaml (Value)
open Files (FileSystem Path)

/-- Where a handler writes. -/
inductive Sink where
  | console
  | file (path : Path)
  deriving DecidableEq, Repr

/-- A handler writes the records that reach its level. -/
structure Handler where
  sink : Sink
  level : Level
  format : Text
  deriving DecidableEq, Repr

/-- The logger. Level zero means that none was set. -/
structure Logger where
  level : Level := 0
  handlers : List Handler := []
  deriving DecidableEq, Repr

/-- What log records are written to: the console and the files. A record that a handler cannot
write is reported where errors are printed; the wording of the report is left out. -/
structure Surface where
  console : Text := []
  files : FileSystem
  reports : List (Sink × Record) := []
  deriving DecidableEq, Repr

namespace Surface

/-- Writes a line where a handler writes. -/
def writeLine (surface : Surface) (sink : Sink) (line : Text) : Surface :=
  match sink with
  | .console => { surface with console := surface.console ++ line ++ ['\n'] }
  | .file path =>
    match surface.files.append path (Text.toOctets (line ++ ['\n'])) with
    | .ok files => { surface with files }
    | .error _ => surface

/-- Reports that a record cannot be written. -/
def report (surface : Surface) (sink : Sink) (record : Record) : Surface :=
  { surface with reports := surface.reports ++ [(sink, record)] }

/-- Writes a record by one handler. -/
def handle (scene : Scene) (record : Record) (surface : Surface) (handler : Handler) : Surface :=
  if handler.level ≤ record.level then
    match render handler.format scene record with
    | some line => surface.writeLine handler.sink line
    | none => surface.report handler.sink record
  else surface

end Surface

namespace Logger

/-- The least level that comes through: warnings, if none was set. -/
def threshold (logger : Logger) : Level :=
  if logger.level = 0 then .warning else logger.level

/-- Writes a record by all handlers, if it comes through. -/
def emit (logger : Logger) (scene : Scene) (surface : Surface) (record : Record) : Surface :=
  if logger.threshold ≤ record.level then
    logger.handlers.foldl (Surface.handle scene record) surface
  else surface

theorem emit_of_lt (logger : Logger) (scene : Scene) (surface : Surface) {record : Record}
    (low : record.level < logger.threshold) : logger.emit scene surface record = surface := by
  simp [emit, Nat.not_le.mpr low]

theorem emit_no_handlers (level : Level) (scene : Scene) (surface : Surface) (record : Record) :
    emit ⟨level, []⟩ scene surface record = surface := by
  simp [emit]

/-- Writes records in order. -/
def emitAll (logger : Logger) (scene : Scene) (surface : Surface) (records : List Record) :
    Surface :=
  records.foldl (logger.emit scene) surface

end Logger

/-- What the name of a level stands for. -/
inductive Named where
  | level (level : Level)
  | text (value : Text)
  | table
  deriving DecidableEq, Repr

/-- The capitals of a character, as far as names of levels have them. -/
def capitals (c : Char) : Text :=
  if c = 'ı' then ['I']
  else if c = 'ſ' then ['S']
  else if c = 'ﬅ' ∨ c = 'ﬆ' then ['S', 'T']
  else [c.toUpper]

/-- What a name stands for, in any case of its letters. A name that is not known stands for the
level of information; one name stands for a text instead, and one for a table. -/
def named (name : Text) : Named :=
  match String.ofList (name.flatMap capitals) with
  | "CRITICAL" | "FATAL" => .level .critical
  | "ERROR" => .level .error
  | "WARNING" | "WARN" => .level .warning
  | "DEBUG" => .level .debug
  | "NOTSET" => .level 0
  | "BASIC_FORMAT" => .text "%(levelname)s:%(name)s:%(message)s".toList
  | "_STYLES" => .table
  | _ => .level .info

/-- The level that a setting names. -/
def levelOf : Value → Except Failure Level
  | .text name =>
    match named name with
    | .level level => .ok level
    | .text value => .error (.unknownLevel value)
    | .table => .error (.wrongType .level "dict".toList)
  | other => .error (.wrongType .upperCase other.typeName)

/-- The format that a setting gives; one that is empty writes the message alone. -/
def formatOf (setting : Value) : Except Failure Text :=
  if setting.isTruthy then
    match setting with
    | .text format => if hasField format then .ok format else .error (.unusableFormat format)
    | other => .error (.wrongType .pattern other.typeName)
  else .ok "%(message)s".toList

/-- The log file that a setting names, if any, made if it is not there. -/
def openLog (files : FileSystem) (setting : Value) : Except Failure (Option Path × FileSystem) :=
  if setting.isTruthy then
    match setting with
    | .text name =>
      let path := files.settled (Path.ofText name)
      match files.append path [] with
      | .ok files => .ok (some path, files)
      | .error fault => .error (.access fault)
    | other => .error (.wrongType .fileName other.typeName)
  else .ok (none, files)

/-- What is left of a set-up: how far it got, and why not further. -/
structure Installed where
  logger : Logger
  surface : Surface
  failure : Option Failure := none

/-- Sets the logger up anew: handlers that were there before go first, then level, format, console
and file come in this order, and each is in force even if a later one fails. -/
def install (scene : Scene) (level format file : Value) (logger : Logger) (surface : Surface) :
    Installed :=
  match levelOf level with
  | .error failure => ⟨{ logger with handlers := [] }, surface, some failure⟩
  | .ok least =>
    match formatOf format with
    | .error failure => ⟨⟨least, []⟩, surface, some failure⟩
    | .ok format =>
      let console : Handler := ⟨.console, least, format⟩
      match openLog surface.files file with
      | .error failure => ⟨⟨least, [console]⟩, surface, some failure⟩
      | .ok (path, files) =>
        let written := path.toList.map fun path => (⟨.file path, least, format⟩ : Handler)
        let logger : Logger := ⟨least, console :: written⟩
        let note : Record :=
          ⟨.debug, .program, "Logging initialized at level ".toList ++ level.toText⟩
        ⟨logger, logger.emit scene { surface with files } note, none⟩

end DocReport.Logging

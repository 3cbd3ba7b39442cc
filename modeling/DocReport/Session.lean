import DocReport.Logging.Logger
import DocReport.Report.Moment
import DocReport.Settings

/-!
A run of the program: the files it works on, its logger, what it has printed so far, and the time.
-/
namespace DocReport

open Files (FileSystem)

/-- The state of a run. Printed lines and log lines share the console. -/
structure Session where
  surface : Logging.Surface
  logger : Logging.Logger := {}
  errors : Text := []
  now : Report.Instant
  /-- What the surroundings say about the records that are made now. -/
  details : Record → Logging.Details := fun _ => {}

namespace Session

/-- A run that has not printed anything yet. -/
def start (files : FileSystem) (now : Report.Instant)
    (details : Record → Logging.Details := fun _ => {}) : Session :=
  { surface := { files }, now, details }

/-- The scene of the records that are made now. -/
def scene (s : Session) : Logging.Scene :=
  ⟨s.now.toText, s.details⟩

def files (s : Session) : FileSystem :=
  s.surface.files

/-- Prints a line. -/
def print (s : Session) (line : Text) : Session :=
  { s with surface := { s.surface with console := s.surface.console ++ line ++ ['\n'] } }

@[simp] theorem files_print (s : Session) (line : Text) : (s.print line).files = s.files := rfl

/-- Prints a line where errors are printed. -/
def complain (s : Session) (line : Text) : Session :=
  { s with errors := s.errors ++ line ++ ['\n'] }

@[simp] theorem files_complain (s : Session) (line : Text) :
    (s.complain line).files = s.files := rfl

/-- Prints lines in order. -/
def printAll (s : Session) (lines : List Text) : Session :=
  lines.foldl print s

@[simp] theorem files_printAll (s : Session) (lines : List Text) :
    (s.printAll lines).files = s.files := by
  induction lines generalizing s with
  | nil => rfl
  | cons line rest ih => simpa [printAll] using ih (s.print line)

/-- Logs records in order. -/
def log (s : Session) (records : List Record) : Session :=
  { s with surface := s.logger.emitAll s.scene s.surface records }

/-- Sets the files. -/
def withFiles (s : Session) (files : FileSystem) : Session :=
  { s with surface := { s.surface with files } }

@[simp] theorem files_withFiles (s : Session) (files : FileSystem) :
    (s.withFiles files).files = files := rfl

/-- Sets the logger up as the settings say. -/
def installLogger (s : Session) (settings : Settings.Logs) : Session × Option Failure :=
  let done :=
    Logging.install s.scene settings.level settings.format settings.file s.logger s.surface
  ({ s with logger := done.logger, surface := done.surface }, done.failure)

end Session

end DocReport

import DocReport.Files.Collection
import DocReport.Report.Assembly
import DocReport.Source.Reader

/-!
The report of a project: its source files are read, the report is assembled from them and stored.
-/
namespace DocReport.Report

open Files

/-- Reads the source file at a path. -/
def readSource (fs : FileSystem) (path : Text) : Logged (Except Failure SourceFile) :=
  let place := Path.ofText path
  if fs.exists? place then
    match fs.read place with
    | .error fault => pure (.error (.access fault))
    | .ok octets =>
      match Text.Utf8.decodeMarked octets with
      | .error fault => pure (.error (.undecodable fault))
      | .ok text => do
        let file ← Source.readLogged path (Text.unifyLineEnds text)
        pure (.ok file)
  else pure (.error (.noSuchFile path))

/-- Reads source files in order. One that is no text is left out, with a warning. -/
def readSources (fs : FileSystem) : List Path → Logged (Except Failure (List SourceFile))
  | [] => pure (.ok [])
  | path :: rest => do
    let file ← readSource fs path.toText
    match file with
    | .ok file => do
      let others ← readSources fs rest
      pure (others.map (file :: ·))
    | .error (.undecodable fault) => do
      Logged.say .warning .report
        ("Skipping ".toList ++ path.toText ++ ": ".toList ++ fault.message)
      readSources fs rest
    | .error failure => pure (.error failure)

/-- The report on source files. -/
def compose (fs : FileSystem) (setup : Setup) (files : List Path) :
    Logged (Except Failure Text) := do
  let sources ← readSources fs files
  match sources with
  | .error failure => pure (.error failure)
  | .ok sources => do
    let report ← assemble fs setup sources
    pure (.ok report)

/-- Stores a report, in a directory that is made if it is missing; the directory stays even if the
report cannot be stored. -/
def store (fs : FileSystem) (path : Path) (report : Text) : FileSystem × Option Failure :=
  match fs.makeDirectory path.parent with
  | .error fault => (fs, some (.access fault))
  | .ok fs =>
    match fs.write path (Text.toOctets report) with
    | .error fault => (fs, some (.access fault))
    | .ok fs => (fs, none)

/-- The note that a report on some number of files was stored. -/
def storedNote (path : Path) (count : Nat) : Record :=
  ⟨.info, .report, "Wrote documentation: ".toList ++ path.toText ++ " (".toList ++
    Text.ofNat count ++ " files)".toList⟩

/-- Composes and stores a report. -/
def write (fs : FileSystem) (setup : Setup) (path : Path) (files : List Path) :
    Logged (FileSystem × Option Failure) := do
  let report ← compose fs setup files
  match report with
  | .error failure => pure (fs, some failure)
  | .ok report =>
    match store fs path report with
    | (fs, some failure) => pure (fs, some failure)
    | (fs, none) => ⟨(fs, none), [storedNote path files.length]⟩

end DocReport.Report

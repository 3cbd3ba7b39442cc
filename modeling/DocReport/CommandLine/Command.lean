import DocReport.Report.Project
import DocReport.Session

/-!
The commands: one writes the report of a project, the other lists the members that it documents.
-/
namespace DocReport.CommandLine

open Files (Path)

/-- How a run ends: with an exit code, and with a failure if one was left to the caller. -/
structure Outcome where
  session : Session
  exitCode : Nat := 0
  failure : Option Failure := none

/-- How settings ask for markup to be rendered. -/
def renderOptions (settings : Settings.Rendering) : Markdown.Options :=
  { codeLanguage := settings.codeLanguage.toText
    preserveParagraphs := settings.preserveParagraphs.isTruthy
    inlineSpacing := settings.inlineSpacing.isTruthy }

/-- Ends a run in which no report could be made. The trace of the failure, which the log has below
the record, is left out. -/
def abandon (failure : Failure) (session : Session) : Outcome :=
  { session :=
      (session.log [⟨.error, .commands, "Documentation generation failed".toList⟩]).complain
        ("An unexpected error occurred: ".toList ++ failure.message)
    exitCode := 1 }

/-- The file for the report: the one that is asked for, or else the one that the settings name, in
the directory of the root. -/
def outputPath (session : Session) (settings : Settings.Output) (root : Text)
    (output : Option Text) : Except Failure Path :=
  match output with
  | some (c :: rest) => .ok (Path.ofText (c :: rest))
  | _ =>
    let root := Path.ofText root
    let directory := if session.files.isFile root then root.parent else root
    match settings.file with
    | .text name => .ok (directory.join (Path.ofText name))
    | other => .error (.wrongType .pathPart other.typeName)

/-- Writes the report on source files. -/
def writeReport (settings : Settings) (root : Text) (path : Path) (files : List Path)
    (session : Session) : Outcome :=
  let setup : Report.Setup :=
    { title := settings.output.title.toText, moment := session.now.moment, root := some root
      options := renderOptions settings.rendering }
  let composed := Report.compose session.files setup files
  let session := session.log composed.records
  match composed.value with
  | .error failure => abandon failure session
  | .ok report =>
    match Report.store session.files path report with
    | (stored, some failure) => abandon failure (session.withFiles stored)
    | (stored, none) =>
      { session :=
          ((session.withFiles stored).log [Report.storedNote path files.length]).print
            ("Successfully generated Markdown documentation at '".toList ++ path.toText ++
              ['\'']) }

/-- Writes the report of a project, or only says which files it would be on. -/
def generate (settings : Settings) (root : Text) (output : Option Text) (dryRun : Bool)
    (session : Session) : Outcome :=
  match Files.collect session.files root settings.selection with
  | .error failure => abandon failure session
  | .ok [] => { session := session.print "No C# source files found to document.".toList }
  | .ok files =>
    let session := session.print
      ("Found ".toList ++ Text.ofNat files.length ++ " source files".toList)
    if dryRun then
      { session :=
          (session.printAll
            (files.map fun file => "  Would process: ".toList ++ file.toText)).print
              "Dry run complete. No files written.".toList }
    else
      match outputPath session settings.output root output with
      | .error failure => abandon failure session
      | .ok path => writeReport settings root path files session

/-- The line for a member in a listing. -/
def memberLine (member : Member) (line : Nat) : Text :=
  "  ".toList ++ member.signature ++ "  [".toList ++ member.documentationId ++
    "]  (line ".toList ++ Text.ofNat line ++ [')']

/-- Lists the members that declarations declare, and counts them. -/
def listMembers (index : Compilation.Index) :
    List Declaration → Session × Nat → Session × Nat
  | [], listed => listed
  | d :: rest, (session, count) =>
    let member := Compilation.member? index d
    let session := session.log member.records
    match member.value with
    | none => listMembers index rest (session, count)
    | some member => listMembers index rest (session.print (memberLine member d.line), count + 1)

/-- Lists the documented members of files, each file under its path, and counts them. -/
def listFiles (index : Compilation.Index) : List SourceFile → Session × Nat → Session × Nat
  | [], listed => listed
  | file :: rest, (session, count) =>
    if file.documented.isEmpty then listFiles index rest (session, count)
    else
      listFiles index rest (listMembers index file.documented (session.print file.path, count))

/-- Lists the documented members of a project. -/
def members (settings : Settings) (root : Text) (session : Session) : Outcome :=
  match Files.collect session.files root settings.selection with
  | .error failure => { session, exitCode := 1, failure := some failure }
  | .ok files =>
    let sources := Report.readSources session.files files
    let session := session.log sources.records
    match sources.value with
    | .error failure => { session, exitCode := 1, failure := some failure }
    | .ok sources =>
      let index := Compilation.build sources
      let (session, count) := listFiles index.value sources (session.log index.records, 0)
      { session :=
          (session.print []).print
            ("Total: ".toList ++ Text.ofNat count ++ " documented members".toList) }

end DocReport.CommandLine

import DocReport.Failure
import DocReport.Logging.Record
import DocReport.Yaml.Document

/-!
Settings: what a settings file says under each key, and a default for every key that it leaves out.
A value is kept as it is written; whether it fits shows when it is used.
-/
namespace DocReport

open Yaml (Value)
open Files (FileSystem Path)

namespace Settings

/-- A text as a value. -/
def word (s : String) : Value :=
  .text s.toList

/-- Which files below a directory are sources. -/
structure Selection where
  extensions : Value := .list [word ".cs"]
  excludedDirectories : Value := .list [word "bin", word "obj"]
  excludedFiles : Value := .list []

/-- How markup is rendered. -/
structure Rendering where
  codeLanguage : Value := word "csharp"
  preserveParagraphs : Value := .bool false
  inlineSpacing : Value := .bool false

/-- Where the report goes and what it is called. -/
structure Output where
  file : Value := word "documentation.md"
  title : Value := word "Project Documentation"

/-- What is logged, in which form, and into which file. -/
structure Logs where
  level : Value := word "INFO"
  format : Value := word "%(asctime)s - %(name)s - %(levelname)s - %(message)s"
  file : Value := .null

end Settings

/-- All settings, by section. -/
structure Settings where
  selection : Settings.Selection := {}
  rendering : Settings.Rendering := {}
  output : Settings.Output := {}
  logs : Settings.Logs := {}

namespace Settings

/-- The entries of a mapping. -/
abbrev Entries := List (Value × Value)

/-- The entries of a value that has to be a mapping. -/
def entries : Value → Except Failure Entries
  | .map entries => .ok entries
  | other => .error (.wrongType .entries other.typeName)

/-- The entries of a section; a section that is not there has none. -/
def sectionEntries (name : String) (all : Entries) : Except Failure Entries :=
  match Value.entry? name.toList all with
  | none => .ok []
  | some value => entries value

/-- The value under a key, or its default. -/
def get (given : Entries) (key : String) (default : Value) : Value :=
  (Value.entry? key.toList given).getD default

def Selection.ofEntries (given : Entries) : Selection :=
  let default : Selection := {}
  { extensions := get given "extensions" default.extensions
    excludedDirectories := get given "exclude_dirs" default.excludedDirectories
    excludedFiles := get given "exclude_files" default.excludedFiles }

def Rendering.ofEntries (given : Entries) : Rendering :=
  let default : Rendering := {}
  { codeLanguage := get given "code_language" default.codeLanguage
    preserveParagraphs := get given "preserve_paragraphs" default.preserveParagraphs
    inlineSpacing := get given "inline_spacing" default.inlineSpacing }

def Output.ofEntries (given : Entries) : Output :=
  let default : Output := {}
  { file := get given "output_file" default.file
    title := get given "title" default.title }

def Logs.ofEntries (given : Entries) : Logs :=
  let default : Logs := {}
  { level := get given "level" default.level
    format := get given "format" default.format
    file := get given "file" default.file }

/-- The settings in the value of a document. A value that counts as nothing sets nothing. -/
def ofValue (value : Value) : Except Failure Settings := do
  let all ← if value.isTruthy then entries value else .ok []
  let selection ← sectionEntries "parser" all
  let rendering ← sectionEntries "render" all
  let output ← sectionEntries "output" all
  let logs ← sectionEntries "logging" all
  .ok
    { selection := .ofEntries selection
      rendering := .ofEntries rendering
      output := .ofEntries output
      logs := .ofEntries logs }

/-- The value of a settings file. -/
def readValue (fs : FileSystem) (path : Path) : Except Failure Value :=
  match fs.read path with
  | .error fault => .error (.access fault)
  | .ok octets =>
    match Text.Utf8.decode octets with
    | .error fault => .error (.undecodable fault)
    | .ok text =>
      match Yaml.load (Text.unifyLineEnds text) with
      | .error .malformed => .error .malformedSettings
      | .error (.noSuchValue message) => .error (.noSuchValue message)
      | .ok value => .ok value

/-- The place of the settings that come with the program; they are the defaults. -/
def bundledPath : Text :=
  "configs/config.yaml".toList

/-- The note that settings were found. -/
def loadedNote (path : Text) : Record :=
  ⟨.info, .settings, "Loaded configuration from ".toList ++ path⟩

/-- Settings from a file, or those that come with the program if no file is named. A file that is
not there leaves the defaults. -/
def load (fs : FileSystem) (path : Option Text) : Logged (Except Failure Settings) :=
  match path with
  | none | some [] => ⟨.ok {}, [loadedNote bundledPath]⟩
  | some path =>
    let path := Path.ofText path
    if fs.exists? path then
      match readValue fs path with
      | .error failure => pure (.error failure)
      | .ok value => ⟨ofValue value, [loadedNote path.toText]⟩
    else
      ⟨.ok {},
        [⟨.warning, .settings,
          "Config file not found at ".toList ++ path.toText ++ ", using defaults".toList⟩]⟩

end Settings

end DocReport

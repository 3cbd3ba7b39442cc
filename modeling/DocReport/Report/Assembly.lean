import DocReport.Files.FileSystem
import DocReport.Report.Moment
import DocReport.Section.Extraction

/-!
The report of a compilation: a header, then the sections of every file in order.
-/
namespace DocReport.Report

open Files

/-- What a report depends on besides the files: its title, when it is made, the directory that file
headings are relative to, and how markup is rendered. -/
structure Setup where
  title : Text := "Project Documentation".toList
  moment : Moment
  root : Option Text := none
  options : Markdown.Options := {}

/-- The line for a file without documentation. -/
def placeholder : Text :=
  "_No XML comments found in this file._".toList

/-- A path as its heading shows it. If the root is a file, paths are relative to its directory. -/
def headingPath (fs : FileSystem) (root : Option Text) (path : Text) : Text :=
  match root with
  | none => (Path.ofText path).toText
  | some root =>
    let root := Path.ofText root
    ((Path.ofText path).relativeTo (if fs.isFile root then root.parent else root)).toText

/-- The section of a documented declaration. -/
def section? (options : Markdown.Options) (index : Compilation.Index) (d : Declaration) :
    Logged (Option Section) := do
  let member ← Compilation.member? index d
  match member with
  | none => pure none
  | some member => Section.ofMember? options member

/-- The sections of documented declarations, in order. -/
def sections (options : Markdown.Options) (index : Compilation.Index) :
    List Declaration → Logged (List Section)
  | [] => pure []
  | d :: rest => do
    let first ← section? options index d
    let others ← sections options index rest
    pure (first.toList ++ others)

/-- The lines for one file. -/
def fileLines (fs : FileSystem) (setup : Setup) (index : Compilation.Index) (file : SourceFile) :
    Logged (List Text) := do
  let path := headingPath fs setup.root file.path
  Logged.say .info .report ("Processing '".toList ++ path ++ "'...".toList)
  let heading := ["# File: `".toList ++ path ++ "`".toList, []]
  if file.documented.isEmpty then pure (heading ++ [placeholder, [], separator, []])
  else do
    let found ← sections setup.options index file.documented
    pure (heading ++ found.map Section.toMarkdown)

/-- The lines for all files. -/
def allLines (fs : FileSystem) (setup : Setup) (index : Compilation.Index) :
    List SourceFile → Logged (List Text)
  | [] => pure []
  | file :: rest => do
    let first ← fileLines fs setup index file
    let others ← allLines fs setup index rest
    pure (first ++ others)

/-- The lines above the first file. -/
def headerLines (setup : Setup) : List Text :=
  ["# ".toList ++ setup.title,
   "_Generated on ".toList ++ setup.moment.toText ++ " UTC_".toList, []]

/-- The report of a compilation. -/
def assemble (fs : FileSystem) (setup : Setup) (files : List SourceFile) : Logged Text := do
  let index ← Compilation.build files
  let body ← allLines fs setup index files
  pure (Text.unlines (headerLines setup ++ body) ++ ['\n'])

end DocReport.Report

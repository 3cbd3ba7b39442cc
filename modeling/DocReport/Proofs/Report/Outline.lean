import DocReport.Report.Assembly
import DocReport.Proofs.Text.Basic

/-!
A report as its header and a row of entries: a heading for each file, and below it the sections of
its members or the line that says there are none. The report is the text of the header followed by
that of every entry, so reports can be compared entry by entry.
-/
namespace DocReport.Report

open Files

/-- What stands below the header of a report. -/
inductive Entry where
  | heading (path : Text)
  | noComments
  | member (s : Section)
  deriving DecidableEq, Repr

/-- Lines, each with its line end. -/
def linesText (lines : List Text) : Text :=
  lines.flatMap (· ++ ['\n'])

theorem linesText_append (lines others : List Text) :
    linesText (lines ++ others) = linesText lines ++ linesText others :=
  List.flatMap_append

theorem unlines_append_end {lines : List Text} (some : lines ≠ []) :
    Text.unlines lines ++ ['\n'] = linesText lines := by
  unfold Text.unlines
  induction lines with
  | nil => exact absurd rfl some
  | cons line rest ih =>
    cases rest with
    | nil => simp [Text.join, linesText]
    | cons next rest =>
      have others : Text.join ['\n'] (next :: rest) ++ ['\n'] = linesText (next :: rest) :=
        ih (by simp)
      rw [Text.join_cons_cons, List.append_assoc, others]
      simp [linesText]

/-- The lines of an entry. -/
def Entry.lines : Entry → List Text
  | .heading path => ["# File: `".toList ++ path ++ "`".toList, []]
  | .noComments => [placeholder, [], separator, []]
  | .member s => [s.toMarkdown]

/-- An entry as it stands in the report. -/
def Entry.text (entry : Entry) : Text :=
  linesText entry.lines

/-- Entries one after the other. -/
def entriesText (entries : List Entry) : Text :=
  entries.flatMap Entry.text

theorem entriesText_append (entries others : List Entry) :
    entriesText (entries ++ others) = entriesText entries ++ entriesText others :=
  List.flatMap_append

theorem entriesText_eq_linesText (entries : List Entry) :
    entriesText entries = linesText (entries.flatMap Entry.lines) :=
  List.flatMap_assoc.symm

/-- The text above the first file. -/
def headerText (setup : Setup) : Text :=
  linesText (headerLines setup)

section Outline

variable (fs : FileSystem) (setup : Setup) (index : Compilation.Index)

/-- The entry of a declaration, if it has a section. -/
def memberEntries (options : Markdown.Options) (d : Declaration) : List Entry :=
  ((section? options index d).value.map Entry.member).toList

/-- The entries of a file. -/
def fileEntries (file : SourceFile) : List Entry :=
  .heading (headingPath fs setup.root file.path) ::
    if file.documented.isEmpty then [.noComments]
    else file.documented.flatMap (memberEntries index setup.options)

/-- The entries of all files, in order. -/
def outline (files : List SourceFile) : List Entry :=
  files.flatMap (fileEntries fs setup index)

theorem lines_memberEntries (ds : List Declaration) :
    (ds.flatMap (memberEntries index setup.options)).flatMap Entry.lines =
      (sections setup.options index ds).value.map Section.toMarkdown := by
  induction ds with
  | nil => rfl
  | cons d rest ih =>
    rw [List.flatMap_cons, List.flatMap_append, ih, sections, Logged.value_bind, Logged.value_bind,
      Logged.value_pure, List.map_append, memberEntries]
    cases (section? setup.options index d).value <;> rfl

theorem lines_fileEntries (file : SourceFile) :
    (fileEntries fs setup index file).flatMap Entry.lines =
      (fileLines fs setup index file).value := by
  unfold fileEntries fileLines
  rw [Logged.value_bind, List.flatMap_cons]
  split
  · rfl
  · rw [lines_memberEntries]
    rfl

theorem lines_outline (files : List SourceFile) :
    (outline fs setup index files).flatMap Entry.lines =
      (allLines fs setup index files).value := by
  induction files with
  | nil => rfl
  | cons file rest ih =>
    rw [outline, List.flatMap_cons, List.flatMap_append, lines_fileEntries]
    exact congrArg _ ih

end Outline

/-- A report is its header and, behind it, the entries of its files. -/
theorem assemble_value (fs : FileSystem) (setup : Setup) (files : List SourceFile) :
    (assemble fs setup files).value =
      headerText setup ++
        entriesText (outline fs setup (Compilation.Index.ofFiles files) files) := by
  have report : (assemble fs setup files).value = Text.unlines (headerLines setup ++
      (allLines fs setup (Compilation.Index.ofFiles files) files).value) ++ ['\n'] := rfl
  have some : headerLines setup ++
      (allLines fs setup (Compilation.Index.ofFiles files) files).value ≠ [] := by
    simp [headerLines]
  rw [report, unlines_append_end some, linesText_append, entriesText_eq_linesText, lines_outline,
    headerText]

end DocReport.Report

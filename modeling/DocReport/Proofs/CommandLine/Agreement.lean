import DocReport.Proofs.CommandLine.Listing
import DocReport.Proofs.Files.Writing
import DocReport.Proofs.Report.Layout

/-!
The listing of a project and its report. Both go through the declarations of the same source files,
so they name the same members in the same order: the report has a section for each member in the
listing whose documentation is there and can be read.
-/
namespace DocReport.CommandLine

open Files (FileSystem Path)
open Compilation (Index)
open Report (headingPath isReadable sectionText)

/-- What the report of a project depends on besides its files. -/
def reportSetup (settings : Settings) (root : Text) (session : Session) : Report.Setup :=
  { title := settings.output.title.toText, moment := session.now.moment, root := some root
    options := renderOptions settings.rendering }

theorem compose_eq_ok {fs : FileSystem} {setup : Report.Setup} {files : List Path} {report : Text}
    (composed : (Report.compose fs setup files).value = .ok report) :
    report = (Report.assemble fs setup (files.filterMap (sourceAt? fs))).value := by
  rw [Report.compose, Logged.value_bind] at composed
  cases read : (Report.readSources fs files).value with
  | error failure => rw [read] at composed; cases composed
  | ok sources =>
    rw [read] at composed
    cases composed
    rw [readSources_eq_ok read]

/-- A report is stored by making its directory and writing it there. -/
theorem store_eq_none {fs stored : FileSystem} {path : Path} {report : Text}
    (done : Report.store fs path report = (stored, none)) :
    ∃ ready, fs.makeDirectory path.parent = .ok ready ∧
      ready.write path (Text.toOctets report) = .ok stored := by
  unfold Report.store at done
  cases made : fs.makeDirectory path.parent with
  | error fault => rw [made] at done; cases done
  | ok ready =>
    rw [made] at done
    dsimp only at done
    cases written : ready.write path (Text.toOctets report) with
    | error fault => rw [written] at done; cases done
    | ok after =>
      rw [written] at done
      cases done
      exact ⟨ready, rfl, written⟩

theorem read_store {fs stored : FileSystem} {path : Path} {report : Text}
    (done : Report.store fs path report = (stored, none)) :
    stored.read path = .ok (Text.toOctets report) := by
  obtain ⟨ready, -, written⟩ := store_eq_none done
  exact FileSystem.read_write written

/-- The records on composing a report. -/
def composeRecords (settings : Settings) (root : Text) (files : List Path) (session : Session) :
    List Record :=
  (Report.compose session.files (reportSetup settings root session) files).records

/-- A report is written in three steps: it is composed, with records on the way, it is stored, and
that is noted. -/
theorem writeReport_eq_ok {settings : Settings} {root : Text} {path : Path}
    {files : List Path} {session : Session}
    (done : (writeReport settings root path files session).exitCode = 0) :
    ∃ report stored,
      (Report.compose session.files (reportSetup settings root session) files).value = .ok report ∧
      Report.store (session.log (composeRecords settings root files session)).files path report =
        (stored, none) ∧
      (writeReport settings root path files session).session.files =
        (((session.log (composeRecords settings root files session)).withFiles stored).log
          [Report.storedNote path files.length]).files := by
  unfold writeReport composeRecords at *
  dsimp only at done ⊢
  rw [← reportSetup] at done ⊢
  cases composed :
      (Report.compose session.files (reportSetup settings root session) files).value with
  | error failure => rw [composed] at done; cases done
  | ok report =>
    rw [composed] at done
    dsimp only at done ⊢
    generalize session.log _ = noted at done ⊢
    rcases kept : Report.store noted.files path report with ⟨stored, failure⟩
    cases failure with
    | some failure => rw [kept] at done; cases done
    | none => exact ⟨report, stored, rfl, kept, rfl⟩

/-- A report that was written stands at its path; only log lines can have come after it. -/
theorem writeReport_beginsWith {settings : Settings} {root : Text} {path : Path}
    {files : List Path} {session : Session}
    (done : (writeReport settings root path files session).exitCode = 0) :
    (writeReport settings root path files session).session.files.BeginsWith path
      (Text.toOctets (Report.assemble session.files (reportSetup settings root session)
        (files.filterMap (sourceAt? session.files))).value) := by
  obtain ⟨report, stored, composed, kept, ends⟩ := writeReport_eq_ok done
  have begins : stored.BeginsWith path (Text.toOctets report) :=
    ⟨[], by rw [List.append_nil]; exact read_store kept⟩
  rw [← compose_eq_ok composed, ends]
  exact Logging.Logger.emitAll_beginsWith begins _ _ _

theorem outputPath_print (session : Session) (line : Text) (settings : Settings.Output)
    (root : Text) (output : Option Text) :
    outputPath (session.print line) settings root output =
      outputPath session settings root output := rfl

/-- A run that succeeds in reporting on a project has collected its files; unless there are none, it
knows where the report goes and writes it there. -/
theorem generate_of_success {settings : Settings} {root : Text} {output : Option Text}
    {session : Session} (done : (generate settings root output false session).exitCode = 0) :
    ∃ files, Files.collect session.files root settings.selection = .ok files ∧
      (files ≠ [] → ∃ path, outputPath session settings.output root output = .ok path ∧
        generate settings root output false session =
          writeReport settings root path files (session.print
            ("Found ".toList ++ Text.ofNat files.length ++ " source files".toList))) := by
  unfold generate at done ⊢
  cases collected : Files.collect session.files root settings.selection with
  | error failure => rw [collected] at done; cases done
  | ok files =>
    rw [collected] at done
    refine ⟨files, rfl, fun some => ?_⟩
    obtain ⟨file, rest, rfl⟩ := List.exists_cons_of_ne_nil some
    dsimp only at done ⊢
    rw [if_neg Bool.false_ne_true] at done ⊢
    rw [outputPath_print] at done ⊢
    cases leads : outputPath session settings.output root output with
    | error failure => rw [leads] at done; cases done
    | ok path => exact ⟨path, rfl, rfl⟩

/-- A report is made of all collected files that are text, unless there are none. -/
theorem generate_beginsWith {settings : Settings} {root : Text} {output : Option Text}
    {session : Session} {files : List Path} (some : files ≠ [])
    (collected : Files.collect session.files root settings.selection = .ok files)
    (done : (generate settings root output false session).exitCode = 0) :
    ∃ path, outputPath session settings.output root output = .ok path ∧
      (generate settings root output false session).session.files.BeginsWith path
        (Text.toOctets (Report.assemble session.files (reportSetup settings root session)
          (files.filterMap (sourceAt? session.files))).value) := by
  obtain ⟨found, collected', writes⟩ := generate_of_success done
  cases collected.symm.trans collected'
  obtain ⟨path, leads, written⟩ := writes some
  rw [written] at done ⊢
  exact ⟨path, leads, writeReport_beginsWith done⟩

/-- A namespace and a type with comments that can be read, and a field with one that cannot. -/
def shopSource : Text :=
  "/// Goods.\nnamespace Shop\x7b\n/// <summary>Cash</summary>\nclass Till\x7b\n".toList ++
    "/// <c>\nint sum;\x7d\x7d".toList

/-- A project with one source file, beside a file of the same kind that is no text. -/
def shopFiles : FileSystem :=
  { here := [['w']]
    items := [([['w']], .directory), ([['w'], "a.cs".toList], .file (Text.toOctets shopSource)),
      ([['w'], "b.cs".toList], .file [0xFF])] }

def shop : Session :=
  .start shopFiles { moment := { year := 2024, month := 2, day := 29 } }

/-- What the settings admit if nothing else is set. -/
def shopFilter : Files.Filter :=
  ⟨[".cs".toList], ["bin".toList, "obj".toList], []⟩

theorem collect_shop :
    Files.collect shop.files ['.'] {} = .ok [⟨[], ["a.cs".toList]⟩, ⟨[], ["b.cs".toList]⟩] := by
  have found : (shop.files.filesBelow [['w']]).filter shopFilter.admits =
      [["a.cs".toList], ["b.cs".toList]] := by
    decide +kernel
  have below : Files.collectBelow shop.files [['w']] shopFilter =
      [["a.cs".toList], ["b.cs".toList]] := by
    rw [Files.collectBelow, found]
    exact List.mergeSort_of_pairwise (by decide +kernel)
  have walked : Files.collect shop.files ['.'] {} =
      .ok ((Files.collectBelow shop.files [['w']] shopFilter).map fun parts =>
        (Path.ofText ['.']).join ⟨[], parts⟩) := rfl
  rw [walked, below]
  rfl

/-- The report has a section for the type, but none for its field. -/
def shopReport : Text :=
  "# Project Documentation\n_Generated on 2024-02-29 00:00:00 UTC_\n\n".toList ++
    "# File: `a.cs`\n\n## `Till`\n\nCash\n\n---\n\n".toList

end DocReport.CommandLine

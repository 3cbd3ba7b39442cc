import Mathlib.Control.Monad.Basic
import DocReport.Proofs.CommandLine.Request

/-!
Running the program again. A report is written inside the tree that is searched for sources, and a
log file may grow beside it, so a second run starts from other files than the first. As long as
report and log are no sources and the settings are in a file of their own, it still reads the same
settings and sources, and so it leaves the same report.
-/
namespace DocReport.CommandLine

open Files (FileSystem Path)
open Files.FileSystem (Keeps)

section Composing

variable {fs after : FileSystem} {files : List Path} {setup : Report.Setup}

theorem readSource_of_read {path : Text} {octets : Text.Octets}
    (held : fs.read (Path.ofText path) = .ok octets)
    (same : after.read (Path.ofText path) = .ok octets) :
    Report.readSource after path = Report.readSource fs path := by
  have found : fs.exists? (Path.ofText path) = true :=
    FileSystem.exists?_iff.2 (.inl (FileSystem.isFile_iff.2 ⟨octets, held⟩))
  have foundStill : after.exists? (Path.ofText path) = true :=
    FileSystem.exists?_iff.2 (.inl (FileSystem.isFile_iff.2 ⟨octets, same⟩))
  simp only [Report.readSource, found, foundStill, held, same]

/-- A file that cannot be opened stops the reading. -/
theorem readSource_of_unreadable {path : Text} {fault : Files.AccessFault}
    (broken : fs.read (Path.ofText path) = .error fault) :
    ∃ failure, (Report.readSource fs path).value = .error failure ∧
      ∀ fault, failure ≠ .undecodable fault := by
  unfold Report.readSource
  dsimp only
  split
  · rw [broken]
    exact ⟨_, rfl, by simp⟩
  · exact ⟨_, rfl, by simp⟩

/-- Where sources are read without a failure, every file was opened. -/
theorem read_of_readSources {sources : List SourceFile}
    (done : (Report.readSources fs files).value = .ok sources) {path : Path}
    (member : path ∈ files) : ∃ octets, fs.read (Path.ofText path.toText) = .ok octets := by
  induction files generalizing sources with
  | nil => cases member
  | cons first rest ih =>
    rw [Report.readSources, Logged.value_bind] at done
    cases opened : fs.read (Path.ofText first.toText) with
    | error fault =>
      obtain ⟨failure, ends, fatal⟩ := readSource_of_unreadable opened
      rw [ends] at done
      exfalso
      revert done
      split
      · rename_i same; cases same
      · rename_i fault same
        cases same
        exact absurd rfl (fatal fault)
      · exact fun done => by cases done
    | ok octets =>
      rcases List.mem_cons.1 member with rfl | inside
      · exact ⟨octets, opened⟩
      · revert done
        split
        · intro done
          rw [Logged.value_bind, Logged.value_pure] at done
          cases others : (Report.readSources fs rest).value with
          | error failure => rw [others] at done; cases done
          | ok found => exact ih others inside
        · exact fun done => ih done inside
        · exact fun done => by cases done

theorem readSources_congr
    (same : ∀ p ∈ files, Report.readSource after p.toText = Report.readSource fs p.toText) :
    Report.readSources after files = Report.readSources fs files := by
  induction files with
  | nil => rfl
  | cons first rest ih =>
    have others := ih fun p member => same p (List.mem_cons_of_mem first member)
    simp only [Report.readSources, same first List.mem_cons_self, others]

/-- A report depends on the files only through its headings. -/
theorem assemble_congr
    (headings : Report.headingPath after setup.root = Report.headingPath fs setup.root)
    (sources : List SourceFile) :
    Report.assemble after setup sources = Report.assemble fs setup sources := by
  have lines (index : Compilation.Index) (some : List SourceFile) :
      Report.allLines after setup index some = Report.allLines fs setup index some := by
    induction some with
    | nil => rfl
    | cons file rest ih => simp only [Report.allLines, Report.fileLines, headings, ih]
  simp only [Report.assemble, lines]

theorem compose_congr
    (same : ∀ p ∈ files, Report.readSource after p.toText = Report.readSource fs p.toText)
    (headings : Report.headingPath after setup.root = Report.headingPath fs setup.root) :
    Report.compose after setup files = Report.compose fs setup files := by
  simp only [Report.compose, readSources_congr same, assemble_congr headings]

end Composing

section Writing

variable {settings : Settings} {root : Text} {path : Path} {files : List Path} {session : Session}

theorem log_keeps (session : Session) (records : List Record) :
    Keeps session.logger.files session.files (session.log records).files :=
  session.logger.emitAll_keeps _ _ _

/-- The report of a project, as it is stored. -/
def reportOctets (settings : Settings) (root : Text) (files : List Path) (session : Session) :
    Text.Octets :=
  Text.toOctets (Report.assemble session.files (reportSetup settings root session)
    (files.filterMap (sourceAt? session.files))).value

/-- What writing a report leaves behind: the report and its directory are there, nothing but the
report and the log has changed, and the report is whole unless the log goes to the same file. -/
theorem writeReport_keeps (done : (writeReport settings root path files session).exitCode = 0) :
    let after := (writeReport settings root path files session).session.files
    Keeps (path :: session.logger.files) session.files after ∧
    after.isFile path = true ∧ after.isDirectory path.parent = true ∧
    ((∀ log ∈ session.logger.files, after.place log ≠ after.place path) →
      after.read path = .ok (reportOctets settings root files session)) := by
  obtain ⟨report, stored, composed, kept, ends⟩ := writeReport_eq_ok done
  obtain ⟨made, makes, written⟩ := store_eq_none kept
  have held : stored.read path = .ok (Text.toOctets report) := read_store kept
  have logs : session.logger.files ⊆ path :: session.logger.files := List.subset_cons_self _ _
  have first := log_keeps session (composeRecords settings root files session)
  obtain ⟨second, parent⟩ :=
    FileSystem.makeDirectory_eq_ok (path :: session.logger.files) makes
  have third : Keeps (path :: session.logger.files) made stored :=
    FileSystem.keeps_update written List.mem_cons_self
  have last := log_keeps
    ((session.log (composeRecords settings root files session)).withFiles stored)
    [Report.storedNote path files.length]
  rw [ends]
  refine ⟨(((first.mono logs).trans second).trans third).trans (last.mono logs),
    last.isFile (FileSystem.isFile_of_update written), last.isDirectory (third.isDirectory parent),
    fun apart => ?_⟩
  rw [reportOctets, ← compose_eq_ok composed]
  exact last.read apart held

/-- A report that can be composed is written where its file is there already. -/
theorem writeReport_again {report : Text}
    (composed :
      (Report.compose session.files (reportSetup settings root session) files).value = .ok report)
    (there : session.files.isFile path = true)
    (parent : session.files.isDirectory path.parent = true) :
    (writeReport settings root path files session).exitCode = 0 := by
  have noted := log_keeps session (composeRecords settings root files session)
  have makes := FileSystem.makeDirectory_of_isDirectory (noted.isDirectory parent)
  obtain ⟨stored, written⟩ :=
    FileSystem.exists_update (noted.isFile there) fun _ => Text.toOctets report
  have kept : Report.store (session.log (composeRecords settings root files session)).files path
      report = (stored, none) := by
    simp only [Report.store, makes, FileSystem.write, written]
  unfold composeRecords at kept
  unfold writeReport
  dsimp only
  rw [← reportSetup, composed]
  dsimp only
  rw [kept]

end Writing

theorem outputPath_congr {session later : Session} {settings : Settings.Output} {root : Text}
    {output : Option Text}
    (same : later.files.isFile (Path.ofText root) = session.files.isFile (Path.ofText root)) :
    outputPath later settings root output = outputPath session settings root output := by
  simp only [outputPath, same]

namespace Generation

variable {request : Request} {fs after later : FileSystem} {now : Report.Instant}
  {details others : Record → Logging.Details}

/-- The files that a run writes to: its report and its log. -/
def written {session : Session} (plan : Generation request session) : List Path :=
  plan.path :: plan.ready.logger.files

/-- The report that a run writes. -/
def report {session : Session} (plan : Generation request session) : Text.Octets :=
  reportOctets plan.settings request.root plan.files plan.ready

/-- Report, log and settings are different files, and neither report nor log is a source. -/
structure Apart {session : Session} (plan : Generation request session) (after : FileSystem) :
    Prop where
  log : ∀ log ∈ plan.ready.logger.files, after.place log ≠ after.place plan.path
  settings : ∀ file, plan.settingsFile = some file → ∀ p ∈ plan.written,
    after.place p ≠ after.place (Path.ofText file)
  sources : ∀ p ∈ plan.written, ∀ place, after.place p = .ok place →
    Files.qualifies after request.root plan.settings.selection place = false

/-- What is left of a run that has written its report: the report could be composed, nothing but
report and log has changed since the run was prepared, and both are there. -/
structure Done (plan : Generation request (.start fs now details)) (after : FileSystem) : Prop where
  composed : ∃ report, (Report.compose plan.ready.files
    (reportSetup plan.settings request.root plan.ready) plan.files).value = .ok report
  keeps : Keeps plan.written plan.ready.files after
  there : ∀ p ∈ plan.written, after.isFile p = true
  parent : after.isDirectory plan.path.parent = true

variable {plan : Generation request (.start fs now details)}

theorem Done.extend (done : plan.Done after) (keeps : Keeps plan.written after later) :
    plan.Done later where
  composed := done.composed
  keeps := done.keeps.trans keeps
  there p member := keeps.isFile (done.there p member)
  parent := keeps.isDirectory done.parent

theorem Done.exists? (done : plan.Done after) {p : Path} (member : p ∈ plan.written) :
    after.exists? p = true :=
  FileSystem.exists?_iff.2 (.inl (done.there p member))

theorem Done.rooted (done : plan.Done after) :
    after.exists? (Path.ofText request.root) = true :=
  done.keeps.exists? plan.rooted

/-- Between the start of a run and its end only report and log change. -/
theorem Done.keeps_start (done : plan.Done after) : Keeps plan.written fs after := by
  obtain ⟨-, kept, -⟩ := prepare_keeps plan.prepared
  exact (kept.mono (List.subset_cons_self _ _)).trans done.keeps

/-- Files that are apart once stay so, whatever is written to report and log. -/
theorem Apart.extend (apart : plan.Apart after) (done : plan.Done after)
    (keeps : Keeps plan.written after later) : plan.Apart later where
  log log member := by
    rw [keeps.place_eq (done.exists? (List.mem_cons_of_mem _ member)),
      keeps.place_eq (done.exists? List.mem_cons_self)]
    exact apart.log log member
  settings file asked p member := by
    have found := (settingsPath_eq_ok plan.located).2 file asked
    have foundStill := done.keeps_start.isFile found.2
    rw [keeps.place_eq (done.exists? member),
      keeps.place_eq (FileSystem.exists?_iff.2 (.inl foundStill))]
    exact apart.settings file asked p member
  sources p member place leads := by
    rw [keeps.place_eq (done.exists? member)] at leads
    rw [Files.qualifies_of_keeps keeps done.rooted]
    exact apart.sources p member place leads

/-- Sources are spared by what a run writes. -/
theorem Apart.spares (apart : plan.Apart after) {place : List Text}
    (source : Files.qualifies after request.root plan.settings.selection place = true) :
    after.Spares plan.written place := by
  intro p member leads
  rw [apart.sources p member place leads] at source
  cases source

theorem Done.collect (done : plan.Done after) (apart : plan.Apart after) :
    Files.collect after request.root plan.settings.selection = .ok plan.files :=
  (Files.collect_of_keeps done.keeps plan.rooted fun _ source => apart.spares source).trans
    plan.collected

theorem Done.outputPath {session : Session} (done : plan.Done session.files) :
    outputPath session plan.settings.output request.root request.output = .ok plan.path :=
  (outputPath_congr (done.keeps.isFile_eq plan.rooted)).trans plan.leads

theorem Done.load (done : plan.Done after) (apart : plan.Apart after) :
    (Settings.load after plan.settingsFile).value = .ok plan.settings := by
  obtain ⟨-, -, -, -, loaded, -⟩ := prepare_eq_ok plan.prepared
  have same : Settings.load after plan.settingsFile = Settings.load fs plan.settingsFile :=
    load_again plan.located done.keeps_start apart.settings
  rw [same, loaded]

/-- The sources of a run are called by names if all files are so at its start: the log file, which
may be new, is no source. -/
theorem names_of_source (proper : fs.wellNamed = true) (done : plan.Done after)
    (apart : plan.Apart after) {file : List Text} (listed : file ∈ plan.ready.files.files)
    (source : Files.qualifies plan.ready.files request.root plan.settings.selection file = true) :
    ∀ part ∈ file, Path.isName part = true := by
  obtain ⟨-, kept, -⟩ := prepare_keeps plan.prepared
  have same := kept.order (Files.qualifies plan.ready.files request.root plan.settings.selection)
    fun place source p member => by
      have later := (Files.qualifies_of_keeps done.keeps plan.rooted place).trans source
      exact done.keeps.spares (apart.spares later) p (List.mem_cons_of_mem _ member)
  have before : file ∈ fs.files :=
    (List.mem_filter.1 (same ▸ List.mem_filter.2 ⟨listed, source⟩)).1
  simp only [FileSystem.wellNamed, List.all_eq_true] at proper
  exact proper file before

/-- Every source is read as the run read it. -/
theorem Done.readSource (proper : fs.wellNamed = true) (done : plan.Done after)
    (apart : plan.Apart after) {p : Path} (member : p ∈ plan.files) :
    Report.readSource after p.toText = Report.readSource plan.ready.files p.toText := by
  obtain ⟨report, composed⟩ := done.composed
  obtain ⟨octets, held⟩ : ∃ octets,
      plan.ready.files.read (Path.ofText p.toText) = .ok octets := by
    rw [Report.compose, Logged.value_bind] at composed
    cases read : (Report.readSources plan.ready.files plan.files).value with
    | error failure => rw [read] at composed; cases composed
    | ok sources => exact read_of_readSources read member
  obtain ⟨place, leads, -⟩ := FileSystem.read_eq_ok.1 held
  -- What was collected is a source, and neither report nor log is one.
  have source := Files.qualifies_of_collected plan.collected
    (fun _ listed source => names_of_source proper done apart listed source) member leads
  have spared := apart.spares ((Files.qualifies_of_keeps done.keeps plan.rooted place).trans source)
  refine readSource_of_read held (done.keeps.read (fun other written => ?_) held)
  rw [done.keeps.place leads]
  exact spared other written

theorem Done.compose (proper : fs.wellNamed = true) (done : plan.Done after)
    (apart : plan.Apart after) :
    Report.compose after (reportSetup plan.settings request.root plan.ready) plan.files =
      Report.compose plan.ready.files (reportSetup plan.settings request.root plan.ready)
        plan.files := by
  refine compose_congr (fun p member => done.readSource proper apart member) (funext fun path => ?_)
  simp only [reportSetup, Report.headingPath, done.keeps.isFile_eq plan.rooted]

/-- What is left of a run that succeeds. -/
theorem done_of_success {arguments : List Text} (asked : request? arguments = some request)
    (plan : Generation request (.start fs now details))
    (success : (run arguments (.start fs now details)).exitCode = 0) :
    let after := (run arguments (.start fs now details)).session.files
    plan.Done after ∧
      ((∀ log ∈ plan.ready.logger.files, after.place log ≠ after.place plan.path) →
        after.read plan.path = .ok plan.report) := by
  rw [run_of_request asked, plan.answer_eq] at success ⊢
  obtain ⟨report, -, composed, -⟩ := writeReport_eq_ok success
  obtain ⟨keeps, there, parent, held⟩ := writeReport_keeps success
  obtain ⟨-, -, logs⟩ := prepare_keeps plan.prepared
  refine ⟨⟨⟨report, composed⟩, keeps, fun p member => ?_, parent⟩, held⟩
  rcases List.mem_cons.1 member with rfl | log
  · exact there
  · exact keeps.isFile (logs p log)

/-- After a run that has written its report, the same run comes to write one again, to the same
path and on the same files. -/
theorem Done.again (done : plan.Done after) (apart : plan.Apart after) :
    ∃ again : Generation request (.start after now others),
      again.settings = plan.settings ∧ again.files = plan.files ∧ again.path = plan.path ∧
      again.ready.logger = plan.ready.logger ∧ Keeps plan.written after again.ready.files := by
  have logs : plan.ready.logger.files ⊆ plan.written := List.subset_cons_self _ _
  obtain ⟨ready, prepared, logger⟩ :=
    prepare_again plan.prepared done.keeps logs (done.load apart)
  obtain ⟨-, kept, -⟩ := prepare_keeps prepared
  rw [logger] at kept
  have keeps := kept.mono logs
  have doneReady := done.extend keeps
  exact ⟨{
    settingsFile := plan.settingsFile, settings := plan.settings, ready, files := plan.files
    path := plan.path, located := settingsPath_again plan.located done.keeps_start, prepared
    given := plan.given, rooted := doneReady.rooted
    collected := doneReady.collect (apart.extend done keeps), nonempty := plan.nonempty
    leads := doneReady.outputPath }, rfl, rfl, rfl, logger, keeps⟩

/-- The second run composes what the first one did. -/
theorem Done.compose_again (proper : fs.wellNamed = true) (done : plan.Done after)
    (apart : plan.Apart after) {again : Generation request (.start after now others)}
    (settings : again.settings = plan.settings) (files : again.files = plan.files)
    (keeps : Keeps plan.written after again.ready.files) :
    Report.compose again.ready.files (reportSetup again.settings request.root again.ready)
        again.files =
      Report.compose plan.ready.files (reportSetup plan.settings request.root plan.ready)
        plan.files := by
  have setup : reportSetup again.settings request.root again.ready =
      reportSetup plan.settings request.root plan.ready := by
    simp only [reportSetup, settings, (prepare_keeps again.prepared).1,
      (prepare_keeps plan.prepared).1]
  rw [setup, files]
  exact (done.extend keeps).compose proper (apart.extend done keeps)

end Generation

/-- A report can be written again. A run that is asked for a report and succeeds has found nothing
to report on, or it has come to write its report in the one way there is. If report, log and
settings are different files then and neither report nor log is a source, the same run at the same
time, whatever else the surroundings say, collects the same files, succeeds, and leaves the report
as it was. Files have to have names that paths can spell, since sources are opened by the text of
their paths. -/
theorem report_same_when_repeated {arguments : List Text} {request : Request}
    (asked : request? arguments = some request) (fs : FileSystem) (proper : fs.wellNamed = true)
    (now : Report.Instant) (details others : Record → Logging.Details)
    (success : (run arguments (.start fs now details)).exitCode = 0) :
    let after := (run arguments (.start fs now details)).session.files
    let final := (run arguments (.start after now others)).session.files
    FindsNothing request (.start fs now details) ∨
    ∃ plan : Generation request (.start fs now details),
      (∀ other : Generation request (.start fs now details), other = plan) ∧
      (plan.Apart after →
        ∃ again : Generation request (.start after now others),
          again.files = plan.files ∧ again.path = plan.path ∧
          (run arguments (.start after now others)).exitCode = 0 ∧
          after.read plan.path = .ok plan.report ∧ final.read plan.path = .ok plan.report) := by
  intro after final
  refine (generation_of_success (run_of_request asked _ ▸ success)).imp_right ?_
  rintro ⟨plan⟩
  refine ⟨plan, plan.unique, fun apart => ?_⟩
  obtain ⟨done, held⟩ := Generation.done_of_success asked plan success
  -- Once the second run is prepared, only the log differs from what the first run left.
  obtain ⟨again, settings, files, path, logger, keeps⟩ := @Generation.Done.again
    request fs after now details others plan done apart
  have doneReady := done.extend keeps
  have apartReady := apart.extend done keeps
  have composes := done.compose_again proper apart settings files keeps
  obtain ⟨report, composed⟩ := done.composed
  have composedAgain := (congrArg Logged.value composes).trans composed
  have sameReport : again.report = plan.report := by
    rw [Generation.report, Generation.report, reportOctets, reportOctets,
      ← compose_eq_ok composed, ← compose_eq_ok composedAgain]
  have successAgain : (run arguments (.start after now others)).exitCode = 0 := by
    rw [run_of_request asked, again.answer_eq]
    refine writeReport_again composedAgain ?_ ?_
    · exact path ▸ doneReady.there plan.path List.mem_cons_self
    · exact path ▸ doneReady.parent
  obtain ⟨doneAgain, heldAgain⟩ := Generation.done_of_success asked again successAgain
  have written : again.written = plan.written := by
    rw [Generation.written, Generation.written, path, logger]
  -- The note on the second report goes to the log, which is still apart from the report.
  have keepsFinal : Keeps plan.written again.ready.files final := written ▸ doneAgain.keeps
  have apartFinal := apartReady.extend doneReady keepsFinal
  refine ⟨again, files, path, successAgain, held apart.log, ?_⟩
  rw [← path, ← sameReport]
  refine heldAgain fun log member => ?_
  rw [path]
  exact apartFinal.log log (logger ▸ member)

/-- A project with one source file, and beside it settings that put the log among the sources. -/
def deskFiles : FileSystem :=
  { here := [['w']]
    items := [([['w']], .directory),
      ([['w'], ['c']], .file (Text.toOctets "logging: \x7bfile: s/l\x7d".toList)),
      ([['w'], ['s']], .directory),
      ([['w'], ['s'], "a.cs".toList], .file (Text.toOctets "/// Wide.\nclass Desk;".toList))] }

/-- The report goes among the sources too, into a directory that is not there yet. -/
def deskArguments : List Text :=
  ["--config".toList, ['c'], "generate".toList, ['s'], "-o".toList, "s/d/r.md".toList]

def deskRequest : Request :=
  { program := { switches := [⟨.config, ['c']⟩], words := deskArguments.drop 2 }
    root := ['s']
    output := some "s/d/r.md".toList }

def deskTime : Report.Instant :=
  { moment := { year := 2025, month := 6, day := 1 } }

/-- The settings that the settings file holds. -/
def deskSettings : Settings :=
  match (Settings.load deskFiles (some ['c'])).value with
  | .ok settings => settings
  | .error _ => {}

def deskLogger : Logging.Logger :=
  Logging.setUp .info "%(asctime)s - %(name)s - %(levelname)s - %(message)s".toList
    (some ⟨[], [['s'], ['l']]⟩)

def deskReady : Session :=
  readied deskTime (fun _ => {}) deskSettings.logs.level deskLogger
    (deskFiles.put [['w'], ['s'], ['l']] (.file []))

theorem prepare_desk :
    prepare (some ['c']) (.start deskFiles deskTime) = .ok (deskSettings, deskReady) := by
  have loaded : (Settings.load deskFiles (some ['c'])).value = .ok deskSettings := by
    have readable : (Settings.load deskFiles (some ['c'])).value.isOk = true := by decide +kernel
    unfold deskSettings
    cases held : (Settings.load deskFiles (some ['c'])).value with
    | ok settings => rfl
    | error failure => rw [held] at readable; cases readable
  exact prepare_of_opened loaded (by decide +kernel) (by decide +kernel) (by decide +kernel)

theorem collect_desk :
    Files.collect deskReady.files ['s'] deskSettings.selection =
      .ok [⟨[], [['s'], "a.cs".toList]⟩] := by
  have filtered : Files.Filter.ofSelection deskSettings.selection = .ok shopFilter := by
    decide +kernel
  have leads : deskReady.files.place (Path.ofText ['s']) = .ok [['w'], ['s']] := by
    decide +kernel
  have found : (deskReady.files.filesBelow [['w'], ['s']]).filter shopFilter.admits =
      [["a.cs".toList]] := by
    decide +kernel
  rw [Files.collect_below (by decide +kernel) leads filtered, Files.collectBelow, found,
    List.mergeSort_singleton]
  rfl

def deskPlan : Generation deskRequest (.start deskFiles deskTime) where
  settingsFile := some ['c']
  settings := deskSettings
  ready := deskReady
  files := [⟨[], [['s'], "a.cs".toList]⟩]
  path := ⟨[], [['s'], ['d'], "r.md".toList]⟩
  located := by decide +kernel
  prepared := prepare_desk
  given := by decide
  rooted := by decide +kernel
  collected := collect_desk
  nonempty := by simp
  leads := by decide +kernel

/-- How the run ends. -/
def deskOutcome : Outcome :=
  writeReport deskPlan.settings deskRequest.root deskPlan.path deskPlan.files
    (deskPlan.ready.print
      ("Found ".toList ++ Text.ofNat deskPlan.files.length ++ " source files".toList))

theorem run_desk (asked : request? deskArguments = some deskRequest) :
    run deskArguments (.start deskFiles deskTime) = deskOutcome := by
  rw [run_of_request asked, deskPlan.answer_eq, deskOutcome]

theorem apart_desk : deskPlan.Apart deskOutcome.session.files where
  log := by decide +kernel
  settings file same := by
    cases same
    decide +kernel
  sources p member place leads := by
    have none : deskPlan.written.all (fun p => !(deskOutcome.session.files.place p).toOption.any
        (Files.qualifies deskOutcome.session.files deskRequest.root
          deskPlan.settings.selection)) = true := by
      decide +kernel
    have never := List.all_eq_true.1 none p member
    rw [leads] at never
    simpa [Except.toOption] using never

def deskReport : Text :=
  "# Project Documentation\n_Generated on 2025-06-01 00:00:00 UTC_\n\n# File: `a.cs`\n\n".toList ++
    "## `Desk`\n\n---\n\n".toList

/-- What the surroundings say about the second run. -/
def deskDetails (_ : Record) : Logging.Details :=
  { line := 7, process := 4711 }

theorem report_same_when_repeated_desk :
    request? deskArguments = some deskRequest ∧ deskFiles.wellNamed = true ∧
    (run deskArguments (.start deskFiles deskTime)).exitCode = 0 ∧
    let after := (run deskArguments (.start deskFiles deskTime)).session.files
    deskPlan.Apart after ∧
    ∃ again : Generation deskRequest (.start after deskTime deskDetails),
      again.files = deskPlan.files ∧ again.path = deskPlan.path ∧
      (run deskArguments (.start after deskTime deskDetails)).exitCode = 0 ∧
      after.read deskPlan.path = .ok (Text.toOctets deskReport) ∧
      (run deskArguments (.start after deskTime deskDetails)).session.files.read deskPlan.path =
        .ok (Text.toOctets deskReport) := by
  have asked : request? deskArguments = some deskRequest := by decide +kernel
  have proper : deskFiles.wellNamed = true := by decide +kernel
  have success : (run deskArguments (.start deskFiles deskTime)).exitCode = 0 := by
    rw [run_desk asked]
    decide +kernel
  have apart : deskPlan.Apart (run deskArguments (.start deskFiles deskTime)).session.files :=
    (run_desk asked).symm ▸ apart_desk
  have report : deskPlan.report = Text.toOctets deskReport := by decide +kernel
  refine ⟨asked, proper, success, apart, ?_⟩
  obtain ⟨plan, only, repeated⟩ := (report_same_when_repeated asked deskFiles proper deskTime
    (fun _ => {}) deskDetails success).resolve_left deskPlan.not_findsNothing
  rw [← only deskPlan, report] at repeated
  exact repeated apart

end DocReport.CommandLine

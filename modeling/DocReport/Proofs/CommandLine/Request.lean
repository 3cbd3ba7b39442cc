import DocReport.CommandLine.Run
import DocReport.Proofs.CommandLine.Agreement
import DocReport.Proofs.Files.Selection
import DocReport.Proofs.Logging.Installation

/-!
Runs that are asked for a report. What they are asked for shows in their arguments alone; whether
they come to write the report depends on the settings, on the root and on what is found there.
-/
namespace DocReport.CommandLine

open Files (FileSystem Path)
open Files.FileSystem (Keeps)

/-- What is asked for: the program's own arguments, the root, and the file for the report if one is
given. -/
structure Request where
  program : Arguments
  root : Text
  output : Option Text
  deriving DecidableEq, Repr

/-- The report that arguments ask for, if they ask for one to be written. -/
def request? (arguments : List Text) : Option Request :=
  match Callee.program.grammar.parse arguments with
  | .error _ => none
  | .ok program =>
    match program.inquiry?, program.words with
    | none, name :: rest =>
      if Callee.ofName? name = some .generate then
        match Callee.generate.grammar.parse rest with
        | .error _ => none
        | .ok asked =>
          if asked.inquiry? = none ∧ asked.words.drop 1 = [] ∧ asked.has .dryRun = false then
            some ⟨program, asked.words.head?.getD ['.'], asked.value? .output⟩
          else none
      else none
    | _, _ => none

/-- Does what is asked for. -/
def Request.answer (request : Request) (session : Session) : Outcome :=
  match settingsPath request.program session with
  | .error fault => refuse .program fault session
  | .ok path =>
    match prepare path session with
    | .error outcome => outcome
    | .ok (settings, session) =>
      if request.root = [] ∨ !session.files.exists? (Path.ofText request.root) then
        refuse .generate (.noSuchPath request.root) session
      else generate settings request.root request.output false session

theorem request?_eq_some {arguments : List Text} {request : Request}
    (asked : request? arguments = some request) :
    ∃ program name rest given,
      Callee.program.grammar.parse arguments = .ok program ∧ program.inquiry? = none ∧
      program.words = name :: rest ∧ Callee.ofName? name = some .generate ∧
      Callee.generate.grammar.parse rest = .ok given ∧ given.inquiry? = none ∧
      given.words.drop 1 = [] ∧ given.has .dryRun = false ∧
      request = ⟨program, given.words.head?.getD ['.'], given.value? .output⟩ := by
  unfold request? at asked
  split at asked
  · cases asked
  · rename_i program parsed
    split at asked
    · rename_i name rest inquiry words
      split at asked
      · rename_i command
        split at asked
        · cases asked
        · rename_i given taken
          split at asked
          · rename_i plain
            exact ⟨program, name, rest, given, parsed, inquiry, words, command, taken, plain.1,
              plain.2.1, plain.2.2, (Option.some.inj asked).symm⟩
          · cases asked
      · cases asked
    · cases asked

theorem read_of_parse {callee : Callee} {arguments : List Text} {given : Arguments}
    (parsed : callee.grammar.parse arguments = .ok given) (plain : given.inquiry? = none)
    (session : Session) : read callee arguments session = .ok given := by
  simp only [read, parsed, plain]

/-- A run that is asked for a report does nothing else. -/
theorem run_of_request {arguments : List Text} {request : Request}
    (asked : request? arguments = some request) (session : Session) :
    run arguments session = request.answer session := by
  obtain ⟨program, name, rest, given, parsed, noInquiry, words, command, taken, plain, noSurplus,
    noDryRun, rfl⟩ := request?_eq_some asked
  have nonempty : arguments ≠ [] := by
    rintro rfl
    cases parsed
    cases words
  have opened : readProgram arguments session =
      match settingsPath program session with
      | .error fault => .error (refuse .program fault session)
      | .ok path => .ok (program, path) := by
    rw [readProgram, read_of_parse parsed noInquiry]
    rfl
  rw [run, if_neg nonempty, opened, Request.answer]
  dsimp only
  cases settingsPath program session with
  | error fault => rfl
  | ok path =>
    simp only [words, command]
    cases prepare path session with
    | error outcome => rfl
    | ok result =>
      simp only [runCommand, read_of_parse taken plain, noSurplus, noDryRun, ne_eq,
        not_true_eq_false, if_false]

/-- A run that cannot be prepared fails. -/
theorem exitCode_of_prepare_error {file : Option Text} {session : Session} {outcome : Outcome}
    (failed : prepare file session = .error outcome) : outcome.exitCode ≠ 0 := by
  unfold prepare at failed
  dsimp only at failed
  split at failed
  · cases failed
    exact Nat.one_ne_zero
  · split at failed
    · cases failed
      exact Nat.one_ne_zero
    · cases failed

/-- A run that comes to write a report: the settings that it finds, its session once these are in
force, the files that it collects and the path that its report goes to. -/
structure Generation (request : Request) (session : Session) where
  settingsFile : Option Text
  settings : Settings
  ready : Session
  files : List Path
  path : Path
  located : settingsPath request.program session = .ok settingsFile
  prepared : prepare settingsFile session = .ok (settings, ready)
  given : request.root ≠ []
  rooted : ready.files.exists? (Path.ofText request.root) = true
  collected : Files.collect ready.files request.root settings.selection = .ok files
  nonempty : files ≠ []
  leads : outputPath ready settings.output request.root request.output = .ok path

/-- A run in which there is nothing to report on: the settings admit no file below the root. -/
def FindsNothing (request : Request) (session : Session) : Prop :=
  ∃ settingsFile settings ready, settingsPath request.program session = .ok settingsFile ∧
    prepare settingsFile session = .ok (settings, ready) ∧
    Files.collect ready.files request.root settings.selection = .ok []

/-- A run comes to write a report in one way only, for each part follows from those before it. -/
theorem Generation.unique {request : Request} {session : Session}
    (plan other : Generation request session) : other = plan := by
  obtain ⟨_, _, _, _, _, located, prepared, _, _, collected, _, leads⟩ := plan
  obtain ⟨_, _, _, _, _, located', prepared', _, _, collected', _, leads'⟩ := other
  cases located.symm.trans located'
  cases prepared.symm.trans prepared'
  cases collected.symm.trans collected'
  cases leads.symm.trans leads'
  rfl

/-- Where there is nothing to report on, a run does not come to write a report. -/
theorem Generation.not_findsNothing {request : Request} {session : Session}
    (plan : Generation request session) : ¬ FindsNothing request session := by
  rintro ⟨settingsFile, settings, ready, located, prepared, collected⟩
  obtain ⟨_, _, _, _, _, located', prepared', _, _, collected', nonempty, _⟩ := plan
  cases located.symm.trans located'
  cases prepared.symm.trans prepared'
  cases collected.symm.trans collected'
  exact nonempty rfl

/-- A run that succeeds comes to write its report, unless there is nothing to report on. -/
theorem generation_of_success {request : Request} {session : Session}
    (success : (request.answer session).exitCode = 0) :
    FindsNothing request session ∨ Nonempty (Generation request session) := by
  unfold Request.answer at success
  cases located : settingsPath request.program session with
  | error fault => rw [located] at success; cases success
  | ok settingsFile =>
    rw [located] at success
    dsimp only at success
    cases prepared : prepare settingsFile session with
    | error outcome =>
      rw [prepared] at success
      exact absurd success (exitCode_of_prepare_error prepared)
    | ok result =>
      obtain ⟨settings, ready⟩ := result
      rw [prepared] at success
      dsimp only at success
      split at success
      · cases success
      · rename_i usable
        simp only [not_or, Bool.not_eq_true', Bool.not_eq_false] at usable
        obtain ⟨files, collected, writes⟩ := generate_of_success success
        by_cases none : files = []
        · exact .inl ⟨settingsFile, settings, ready, located, prepared, none ▸ collected⟩
        · obtain ⟨path, leads, -⟩ := writes none
          exact .inr ⟨{
            settingsFile, settings, ready, files, path, located, prepared, given := usable.1
            rooted := usable.2, collected, nonempty := none, leads }⟩

/-- A run that comes to write a report writes it. -/
theorem Generation.answer_eq {request : Request} {session : Session}
    (plan : Generation request session) :
    request.answer session =
      writeReport plan.settings request.root plan.path plan.files
        (plan.ready.print
          ("Found ".toList ++ Text.ofNat plan.files.length ++ " source files".toList)) := by
  have found : ¬(request.root = [] ∨ !plan.ready.files.exists? (Path.ofText request.root)) := by
    simp [plan.given, plan.rooted]
  obtain ⟨file, rest, shape⟩ := List.exists_cons_of_ne_nil plan.nonempty
  simp only [Request.answer, plan.located, plan.prepared, if_neg found, generate, plan.collected,
    shape, if_neg Bool.false_ne_true, outputPath_print, plan.leads]

section Settings

variable {arguments : Arguments} {session later : Session} {file : Option Text}
  {written : List Path}

/-- A settings file that is asked for is a file. -/
theorem settingsPath_eq_ok (done : settingsPath arguments session = .ok file) :
    arguments.value? .config = file ∧
      ∀ path, file = some path → path ≠ [] ∧ session.files.isFile (Path.ofText path) = true := by
  unfold settingsPath at done
  split at done
  · rename_i missing
    cases done
    exact ⟨missing, by simp⟩
  · rename_i path asked
    split at done
    · cases done
    · rename_i usable
      split at done
      · cases done
      · rename_i noDirectory
        cases done
        simp only [not_or, Bool.not_eq_true', Bool.not_eq_false] at usable
        refine ⟨asked, fun other same => ?_⟩
        cases same
        refine ⟨usable.1, ?_⟩
        rcases FileSystem.exists?_iff.1 usable.2 with found | directory
        · exact found
        · exact absurd directory noDirectory

theorem settingsPath_again (done : settingsPath arguments session = .ok file)
    (keeps : Keeps written session.files later.files) :
    settingsPath arguments later = .ok file := by
  obtain ⟨asked, usable⟩ := settingsPath_eq_ok done
  rw [settingsPath, asked]
  cases file with
  | none => rfl
  | some path =>
    obtain ⟨nonempty, found⟩ := usable path rfl
    have still := keeps.isFile found
    simp [nonempty, FileSystem.exists?_iff.2 (.inl still),
      FileSystem.not_isDirectory_of_isFile still]

/-- Settings stay what they are if nothing is written to their file. -/
theorem load_again {after : FileSystem} (done : settingsPath arguments session = .ok file)
    (keeps : Keeps written session.files after)
    (apart : ∀ path, file = some path → ∀ p ∈ written,
      after.place p ≠ after.place (Path.ofText path)) :
    Settings.load after file = Settings.load session.files file := by
  obtain ⟨-, usable⟩ := settingsPath_eq_ok done
  match file with
  | none => rfl
  | some [] => rfl
  | some (c :: rest) =>
    obtain ⟨-, found⟩ := usable (c :: rest) rfl
    obtain ⟨content, held⟩ := FileSystem.isFile_iff.1 found
    have heldStill := keeps.read (apart (c :: rest) rfl) held
    simp only [Settings.load, Settings.readValue, held, heldStill,
      FileSystem.exists?_iff.2 (.inl found), FileSystem.exists?_iff.2 (.inl (keeps.isFile found))]

end Settings

section Preparation

variable {fs after : FileSystem} {now : Report.Instant} {details others : Record → Logging.Details}
  {file : Option Text} {settings : Settings} {ready : Session} {written : List Path}

open Logging (levelOf formatOf openLog setUp setUpNote)

/-- Before a logger is set up, nothing is logged. -/
theorem log_start (fs : FileSystem) (now : Report.Instant) (details : Record → Logging.Details)
    (records : List Record) :
    (Session.start fs now details).log records = .start fs now details := by
  have silent (scene : Logging.Scene) (surface : Logging.Surface) :
      Logging.Logger.emitAll {} scene surface records = surface := by
    unfold Logging.Logger.emitAll
    induction records with
    | nil => rfl
    | cons record rest ih =>
      rw [List.foldl_cons, Logging.Logger.emit_no_handlers]
      exact ih
  rw [Session.log]
  exact congrArg (fun surface => ({ surface, now, details } : Session)) (silent _ _)

/-- The session in which a logger has just been set up. -/
def readied (now : Report.Instant) (details : Record → Logging.Details) (level : Yaml.Value)
    (logger : Logging.Logger) (opened : FileSystem) : Session :=
  { surface := logger.emit ⟨now.toText, details⟩ { files := opened } (setUpNote level), logger, now,
    details }

theorem prepare_of_opened {least : Level} {pattern : Text} {log : Option Path}
    {opened : FileSystem} (loaded : (Settings.load fs file).value = .ok settings)
    (leveled : levelOf settings.logs.level = .ok least)
    (formatted : formatOf settings.logs.format = .ok pattern)
    (done : openLog fs settings.logs.file = .ok (log, opened)) :
    prepare file (.start fs now details) =
      .ok (settings, readied now details settings.logs.level (setUp least pattern log) opened) := by
  have same : openLog (Session.start fs now details).surface.files settings.logs.file =
      .ok (log, opened) := done
  have loadedHere : (Settings.load (Session.start fs now details).files file).value =
      .ok settings := loaded
  simp only [prepare, log_start, loadedHere, Session.installLogger,
    Logging.install_of_opened leveled formatted same]
  rfl

/-- What is needed for a run to be prepared: settings that can be read, and a level, a format and a
log file that can be used. -/
theorem prepare_eq_ok (done : prepare file (.start fs now details) = .ok (settings, ready)) :
    ∃ least pattern log opened, (Settings.load fs file).value = .ok settings ∧
      levelOf settings.logs.level = .ok least ∧ formatOf settings.logs.format = .ok pattern ∧
      openLog fs settings.logs.file = .ok (log, opened) ∧
      ready = readied now details settings.logs.level (setUp least pattern log) opened := by
  have start := done
  unfold prepare at done
  dsimp only at done
  rw [log_start] at done
  cases loaded : (Settings.load fs file).value with
  | error failure =>
    have loadedHere : (Settings.load (Session.start fs now details).files file).value =
        .error failure := loaded
    rw [loadedHere] at done
    cases done
  | ok found =>
    have loadedHere : (Settings.load (Session.start fs now details).files file).value =
        .ok found := loaded
    rw [loadedHere] at done
    dsimp only at done
    rcases installed : (Session.start fs now details).installLogger found.logs with
      ⟨session, failure⟩
    rw [installed] at done
    cases failure with
    | some failure => cases done
    | none =>
      obtain ⟨least, pattern, log, opened, leveled, formatted, openedLog⟩ :=
        Logging.install_eq_done (congrArg Prod.snd installed)
      rw [prepare_of_opened loaded leveled formatted openedLog] at start
      cases start
      exact ⟨least, pattern, log, opened, rfl, leveled, formatted, openedLog, rfl⟩

/-- Preparing a run touches no files but the log file, which is there then. -/
theorem prepare_keeps (done : prepare file (.start fs now details) = .ok (settings, ready)) :
    ready.now = now ∧ Keeps ready.logger.files fs ready.files ∧
      ∀ log ∈ ready.logger.files, ready.files.isFile log = true := by
  obtain ⟨least, pattern, log, opened, -, -, -, openedLog, rfl⟩ := prepare_eq_ok done
  obtain ⟨kept, there⟩ := Logging.openLog_eq_ok openedLog
  have noted := (setUp least pattern log).emit_keeps ⟨now.toText, details⟩ { files := opened }
    (setUpNote settings.logs.level)
  rw [Logging.files_setUp] at noted
  refine ⟨rfl, ?_, fun path member => ?_⟩
  · exact (Logging.files_setUp least pattern log).symm ▸ kept.trans noted
  · exact noted.isFile (there path (Logging.files_setUp least pattern log ▸ member))

/-- A run that was prepared can be prepared again, with the same logger, if its settings stay. -/
theorem prepare_again (done : prepare file (.start fs now details) = .ok (settings, ready))
    (keeps : Keeps written ready.files after) (logs : ready.logger.files ⊆ written)
    (loaded : (Settings.load after file).value = .ok settings) :
    ∃ again, prepare file (.start after now others) = .ok (settings, again) ∧
      again.logger = ready.logger := by
  obtain ⟨least, pattern, log, opened, -, leveled, formatted, openedLog, rfl⟩ := prepare_eq_ok done
  have noted := (setUp least pattern log).emit_keeps ⟨now.toText, details⟩ { files := opened }
    (setUpNote settings.logs.level)
  obtain ⟨reopened, openedAgain⟩ := Logging.openLog_again openedLog ((noted.mono logs).trans keeps)
  exact ⟨_, prepare_of_opened loaded leveled formatted openedAgain, rfl⟩

end Preparation

end DocReport.CommandLine

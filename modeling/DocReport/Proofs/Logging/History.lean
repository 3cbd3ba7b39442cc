import DocReport.Proofs.Logging.Installation
import DocReport.Proofs.Logging.PlainFormat
import DocReport.Session
import Mathlib.Control.Monad.Basic

/-!
What is logged after any history of set-ups and records. A set-up that succeeds leaves one handler
for the console and one for the log file if there is one, whatever earlier ones left behind; until
the next set-up each record that comes through and that the format can write is written once to
each of them, and nothing else is written. One that the format cannot write is reported instead,
once for each of them; plain formats can write all records.
-/
namespace DocReport

namespace Logging

open Files (FileSystem Path)
open Text (Octets)
open Yaml (Value)

/-! ### What one record adds -/

/-- The least level that is written: that of warnings, if none was set. -/
def effective (least : Level) : Level :=
  if least = 0 then .warning else least

/-- What a record adds where it is written: its line, if it reaches the level and the format can
write it. -/
def lineOf (least : Level) (format : Text) (scene : Scene) (record : Record) : Text :=
  if effective least ≤ record.level then
    match render format scene record with
    | some line => line ++ ['\n']
    | none => []
  else []

/-- Whether a record reaches the level and the format cannot write it. -/
def isLost (least : Level) (format : Text) (scene : Scene) (record : Record) : Bool :=
  effective least ≤ record.level && (render format scene record).isNone

/-- A text was added to the console and to the log file, which did not move, and to no other
file, and for each of the two the lost records were reported. -/
structure Written (log : Option Path) (text : Text) (lost : List Record) (before after : Surface) :
    Prop where
  console : after.console = before.console ++ text
  file : ∀ path ∈ log, ∃ place content,
    before.files.place path = .ok place ∧ after.files.place path = .ok place ∧
    before.files.at? place = some (.file content) ∧
    after.files.at? place = some (.file (content ++ Text.toOctets text))
  others : ∀ place, before.files.Spares log.toList place →
    after.files.at? place = before.files.at? place
  reports : after.reports = before.reports ++ lost.flatMap fun record =>
    (.console, record) :: log.toList.map fun path => (.file path, record)

section Lines

variable {log : Option Path} {before middle after : Surface} {text more : Text}
  {lost others : List Record}

theorem toOctets_append (s t : Text) :
    Text.toOctets (s ++ t) = Text.toOctets s ++ Text.toOctets t :=
  List.flatMap_append

namespace Written

theorem refl (there : ∀ path ∈ log, before.files.isFile path = true) :
    Written log [] [] before before where
  console := (List.append_nil _).symm
  file path member := by
    obtain ⟨content, held⟩ := FileSystem.isFile_iff.1 (there path member)
    obtain ⟨place, leads, found⟩ := FileSystem.read_eq_ok.1 held
    exact ⟨place, content, leads, leads, found, by rw [found]; simp [Text.toOctets]⟩
  others _ _ := rfl
  reports := (List.append_nil _).symm

theorem trans (first : Written log text lost before middle)
    (second : Written log more others middle after) :
    Written log (text ++ more) (lost ++ others) before after where
  console := by rw [second.console, first.console, List.append_assoc]
  file path member := by
    obtain ⟨place, content, leads, leads', held, held'⟩ := first.file path member
    obtain ⟨again, longer, leads'', final, held'', done⟩ := second.file path member
    rw [leads', Except.ok.injEq] at leads''
    subst leads''
    rw [held', Option.some.injEq, Files.Item.file.injEq] at held''
    subst held''
    exact ⟨place, content, leads, final, held,
      by rw [done, toOctets_append, List.append_assoc]⟩
  others place spared := by
    refine (second.others place fun path member same => ?_).trans (first.others place spared)
    obtain ⟨spot, _, leads, leads', -, -⟩ := first.file path (Option.mem_toList.1 member)
    rw [leads', Except.ok.injEq] at same
    exact spared path member (same ▸ leads)
  reports := by rw [second.reports, first.reports, List.flatMap_append, List.append_assoc]

theorem isFile (written : Written log text lost before after) {path : Path} (member : path ∈ log) :
    after.files.isFile path = true := by
  obtain ⟨place, content, -, leads, -, held⟩ := written.file path member
  exact FileSystem.isFile_iff.2 ⟨_, FileSystem.read_eq_ok.2 ⟨place, leads, held⟩⟩

end Written

/-- A line goes to the console, and then to the log file if there is one. -/
theorem written_writeLine (there : ∀ path ∈ log, before.files.isFile path = true) (line : Text) :
    Written log (line ++ ['\n']) [] before
      (log.toList.foldl (fun surface path => surface.writeLine (.file path) line)
        (before.writeLine .console line)) := by
  cases log with
  | none =>
    exact ⟨List.append_assoc _ _ _, nofun, fun _ _ => rfl, (List.append_nil _).symm⟩
  | some path =>
    obtain ⟨content, held⟩ := FileSystem.isFile_iff.1 (there path rfl)
    obtain ⟨place, leads, found⟩ := FileSystem.read_eq_ok.1 held
    have free : before.files.at? place ≠ some .directory := by simp [found]
    have appended : before.files.append path (Text.toOctets (line ++ ['\n'])) =
        .ok (before.files.put place (.file (content ++ Text.toOctets (line ++ ['\n'])))) := by
      simp only [FileSystem.append, FileSystem.update, leads, found]
    simp only [Option.toList_some, List.foldl_cons, List.foldl_nil, Surface.writeLine, appended]
    refine ⟨List.append_assoc _ _ _, ?_, fun spot spared => ?_, (List.append_nil _).symm⟩
    · rintro other same
      cases same
      exact ⟨place, content, leads, FileSystem.place_put free _ leads, found,
        FileSystem.at?_put_self _ _ (FileSystem.ne_nil_of_not_directory free)⟩
    · refine FileSystem.at?_put_of_ne _ _ fun same => ?_
      exact spared path (by simp) (same ▸ leads)

/-- A record that cannot be written is reported for the console, and then for the log file if
there is one. -/
theorem written_report (there : ∀ path ∈ log, before.files.isFile path = true) (record : Record) :
    Written log [] [record] before
      (log.toList.foldl (fun surface path => surface.report (.file path) record)
        (before.report .console record)) := by
  cases log with
  | none => exact ⟨(List.append_nil _).symm, nofun, fun _ _ => rfl, rfl⟩
  | some path =>
    obtain ⟨console, file, others, -⟩ := Written.refl there
    exact ⟨console, file, others, List.append_assoc _ _ _⟩

/-- The step: one record, written or reported by a logger that was set up. -/
theorem written_emit (there : ∀ path ∈ log, before.files.isFile path = true) (least : Level)
    (format : Text) (scene : Scene) (record : Record) :
    Written log (lineOf least format scene record) ([record].filter (isLost least format scene))
      before ((setUp least format log).emit scene before record) := by
  by_cases passes : effective least ≤ record.level
  · -- What comes through the logger comes through its handlers, whose level is not higher.
    have reaches : least ≤ record.level := by
      unfold effective at passes
      split at passes
      · rename_i unset
        exact unset ▸ Nat.zero_le _
      · exact passes
    have emitted : (setUp least format log).emit scene before record =
        (setUp least format log).handlers.foldl (Surface.handle scene record) before :=
      if_pos passes
    rw [emitted, lineOf, if_pos passes]
    cases written : render format scene record with
    | none =>
      have each : (setUp least format log).handlers.foldl (Surface.handle scene record) before =
          log.toList.foldl (fun surface path => surface.report (.file path) record)
            (before.report .console record) := by
        cases log <;> simp [setUp, Surface.handle, reaches, written]
      have lost : [record].filter (isLost least format scene) = [record] := by
        simp [isLost, passes, written]
      rw [each, lost]
      exact written_report there record
    | some line =>
      have each : (setUp least format log).handlers.foldl (Surface.handle scene record) before =
          log.toList.foldl (fun surface path => surface.writeLine (.file path) line)
            (before.writeLine .console line) := by
        cases log <;> simp [setUp, Surface.handle, reaches, written]
      have lost : [record].filter (isLost least format scene) = [] := by
        simp [isLost, written]
      rw [each, lost]
      exact written_writeLine there line
  · have low : record.level < (setUp least format log).threshold := Nat.lt_of_not_le passes
    have lost : [record].filter (isLost least format scene) = [] := by simp [isLost, passes]
    rw [Logger.emit_of_lt _ _ _ low, lineOf, if_neg passes, lost]
    exact .refl there

end Lines

/-! ### What was set up -/

theorem countP_console_setUp (least : Level) (format : Text) (log : Option Path) :
    (setUp least format log).handlers.countP (·.file?.isNone) = 1 := by
  cases log <;> rfl

theorem level_of_mem_setUp {least : Level} {format : Text} {log : Option Path} {handler : Handler}
    (member : handler ∈ (setUp least format log).handlers) : handler.level = least := by
  rcases List.mem_cons.1 member with rfl | later
  · rfl
  · obtain ⟨path, -, rfl⟩ := List.mem_map.1 later
    rfl

/-- The log file that a setting names, if any. -/
def logFile? (fs : FileSystem) : Value → Option Path
  | .text (c :: name) => some (fs.settled (Path.ofText (c :: name)))
  | _ => none

theorem log_of_openLog {fs opened : FileSystem} {setting : Value} {log : Option Path}
    (done : openLog fs setting = .ok (log, opened)) :
    log = logFile? fs setting ∧ (logFile? fs setting).isSome = setting.isTruthy := by
  rcases openLog_cases done with ⟨bare, rfl, -⟩ | ⟨name, rfl, given, rfl, -⟩
  · have none : logFile? fs setting = none := by
      cases setting with
      | text name =>
        cases name with
        | nil => rfl
        | cons c name => cases bare
      | _ => rfl
    rw [none, bare]
    exact ⟨rfl, rfl⟩
  · cases name with
    | nil => cases given
    | cons c name => exact ⟨rfl, rfl⟩

end Logging

namespace Session

open Files (FileSystem)
open Logging (Part Written setUp lineOf isLost logFile? levelOf formatOf)

/-- When something is asked, and what the surroundings say then about the records that are made. -/
structure Occasion where
  now : Report.Instant
  details : Record → Logging.Details := fun _ => {}

def Occasion.scene (occasion : Occasion) : Logging.Scene :=
  ⟨occasion.now.toText, occasion.details⟩

/-- What can be asked of the logger. -/
inductive Call where
  | setUp (occasion : Occasion) (settings : Settings.Logs)
  | log (occasion : Occasion) (record : Record)

/-- The run on another occasion. -/
def during (s : Session) (occasion : Occasion) : Session :=
  { s with now := occasion.now, details := occasion.details }

/-- Does what was asked; a set-up may fail on the way. -/
def call (s : Session) : Call → Session
  | .setUp occasion settings => ((s.during occasion).installLogger settings).1
  | .log occasion record => (s.during occasion).log [record]

/-- Does one thing after the other. -/
def history (s : Session) (calls : List Call) : Session :=
  calls.foldl call s

/-- A set-up that succeeds leaves the logger that its level, format and file describe, and its log
file is there. -/
theorem call_setUp {s : Session} {occasion : Occasion} {settings : Settings.Logs}
    (done : ((s.during occasion).installLogger settings).2 = none) :
    ∃ least pattern, levelOf settings.level = .ok least ∧ formatOf settings.format = .ok pattern ∧
      (logFile? s.files settings.file).isSome = settings.file.isTruthy ∧
      (s.call (.setUp occasion settings)).logger =
        setUp least pattern (logFile? s.files settings.file) ∧
      ∀ path ∈ logFile? s.files settings.file,
        (s.call (.setUp occasion settings)).files.isFile path = true := by
  obtain ⟨least, pattern, log, opened, leveled, formatted, logged⟩ := Logging.install_eq_done done
  obtain ⟨rfl, given⟩ := Logging.log_of_openLog logged
  have installed := @Logging.install_of_opened opened settings.file _ occasion.scene settings.level
    settings.format s.logger s.surface least pattern leveled formatted logged
  have logger : (s.call (.setUp occasion settings)).logger = setUp least pattern _ :=
    congrArg Logging.Installed.logger installed
  have surface : (s.call (.setUp occasion settings)).surface =
      (setUp least pattern _).emit _ _ _ :=
    congrArg Logging.Installed.surface installed
  refine ⟨least, pattern, leveled, formatted, given, logger, fun path member => ?_⟩
  rw [files, surface]
  exact (Logging.Logger.emit_keeps _ _ _ _).isFile
    ((Logging.openLog_eq_ok logged).2 path (Option.mem_toList.2 member))

/-- The lines of records that are logged one after the other. -/
def linesOf (least : Level) (pattern : Text) (entries : List (Occasion × Record)) : Text :=
  entries.flatMap fun entry => lineOf least pattern entry.1.scene entry.2

/-- The records among them that are lost. -/
def lostAmong (least : Level) (pattern : Text) (entries : List (Occasion × Record)) :
    List Record :=
  (entries.filter fun entry => isLost least pattern entry.1.scene entry.2).map (·.2)

/-- The run: records that are logged one after the other, each on its own occasion. -/
theorem written_history {s : Session} {least : Level} {pattern : Text}
    {log : Option Files.Path} (own : s.logger = setUp least pattern log)
    (there : ∀ path ∈ log, s.files.isFile path = true) (later : List (Occasion × Record)) :
    Written log (linesOf least pattern later) (lostAmong least pattern later) s.surface
      (s.history (later.map fun entry => .log entry.1 entry.2)).surface := by
  induction later generalizing s with
  | nil => exact .refl there
  | cons entry rest ih =>
    obtain ⟨occasion, record⟩ := entry
    have first : Written log (lineOf least pattern occasion.scene record)
        ([record].filter (isLost least pattern occasion.scene)) s.surface
        (s.call (.log occasion record)).surface := by
      have emitted := Logging.written_emit there least pattern occasion.scene record
      rwa [← own] at emitted
    have others := ih (s := s.call (.log occasion record)) own fun path member =>
      first.isFile member
    have lost : lostAmong least pattern ((occasion, record) :: rest) =
        [record].filter (isLost least pattern occasion.scene) ++ lostAmong least pattern rest := by
      cases gone : isLost least pattern occasion.scene record <;> simp [lostAmong, gone]
    rw [lost]
    exact first.trans others

/-- In a plain format nothing is lost. -/
theorem lostAmong_spelled (least : Level) (parts : List Part)
    (entries : List (Occasion × Record)) :
    lostAmong least (parts.flatMap Part.spelled) entries = [] := by
  simp [lostAmong, isLost, Logging.render_spelled]

/-- In a plain format every record that reaches the level has its line. -/
theorem linesOf_spelled (least : Level) (parts : List Part) (entries : List (Occasion × Record)) :
    linesOf least (parts.flatMap Part.spelled) entries =
      (entries.filter fun entry => Logging.effective least ≤ entry.2.level).flatMap fun entry =>
        parts.flatMap (Part.filled entry.1.scene entry.2) ++ ['\n'] := by
  induction entries with
  | nil => rfl
  | cons entry rest ih =>
    unfold linesOf at ih ⊢
    rw [List.flatMap_cons, ih]
    by_cases reaches : Logging.effective least ≤ entry.2.level
    · simp [lineOf, Logging.render_spelled, reaches]
    · simp [lineOf, reaches]

/-- After any history, once the logger is set up with some level, it has that level, one handler
for the console, one for the log file exactly if a file is named, and no other; all have the level.
What is logged from then on is added to the console and to the log file, each line once and in
order, and to no other file. A record that reaches the level and that the format cannot write adds
no line; it is reported once for each handler. A plain format can write every record. -/
theorem records_written_once_after_setUp (files : FileSystem) (start : Occasion)
    (earlier : List Call) (occasion : Occasion) (settings : Settings.Logs)
    (done : ((((Session.start files start.now start.details).history earlier).during
      occasion).installLogger settings).2 = none) :
    let before := (Session.start files start.now start.details).history earlier
    let ready := before.call (.setUp occasion settings)
    let log := logFile? before.files settings.file
    ∃ least pattern, levelOf settings.level = .ok least ∧ formatOf settings.format = .ok pattern ∧
      ready.logger.level = least ∧
      ready.logger.handlers.countP (·.file?.isNone) = 1 ∧
      ready.logger.files = log.toList ∧ log.isSome = settings.file.isTruthy ∧
      (∀ handler ∈ ready.logger.handlers, handler.level = least) ∧
      (∀ later : List (Occasion × Record),
        Written log (linesOf least pattern later) (lostAmong least pattern later)
          ready.surface (ready.history (later.map fun entry => .log entry.1 entry.2)).surface) ∧
      ∀ parts : List Part, pattern = parts.flatMap Part.spelled → ∀ later,
        lostAmong least pattern later = [] ∧
        linesOf least pattern later =
          (later.filter fun entry => Logging.effective least ≤ entry.2.level).flatMap fun entry =>
            parts.flatMap (Part.filled entry.1.scene entry.2) ++ ['\n'] := by
  intro before ready log
  obtain ⟨least, pattern, leveled, formatted, given, own, there⟩ := call_setUp done
  refine ⟨least, pattern, leveled, formatted, ?_, ?_, ?_, given, ?_, written_history own there, ?_⟩
  · rw [own]
    rfl
  · rw [own, Logging.countP_console_setUp]
  · rw [own, Logging.files_setUp]
  · rw [own]
    exact fun handler => Logging.level_of_mem_setUp
  · rintro parts rfl later
    exact ⟨lostAmong_spelled least parts later, linesOf_spelled least parts later⟩

def noon : Occasion :=
  { now := { moment := { year := 2025, month := 7, day := 1, hour := 12 } } }

/-- A set-up with a log file, a record, and a set-up that gets as far as its format. -/
def brokenStart : List Call :=
  [.setUp noon { file := Settings.word "a" }, .log noon ⟨.error, .report, "old".toList⟩,
    .setUp noon { format := Settings.word "plain" }]

/-- No level is set, and the log goes to another file. -/
def plainSettings : Settings.Logs :=
  { level := Settings.word "notset", format := Settings.word "%(message)s"
    file := Settings.word "b" }

def lowRecord : Record :=
  ⟨.info, .report, "low".toList⟩

def highRecord : Record :=
  ⟨.warning, .other "xmldoc_md.x".toList, "up".toList⟩

theorem records_written_once_to_second_file :
    let before := (Session.start (.startingAt []) noon.now noon.details).history brokenStart
    let ready := before.call (.setUp noon plainSettings)
    ((before.during noon).installLogger plainSettings).2 = none ∧
    Written (some ⟨[], [['b']]⟩) "up\n".toList [] ready.surface
      (ready.history [.log noon lowRecord, .log noon highRecord]).surface := by
  intro before ready
  have done : ((before.during noon).installLogger plainSettings).2 = none := by decide +kernel
  obtain ⟨least, pattern, leveled, formatted, -, -, -, -, -, written, plain⟩ :=
    records_written_once_after_setUp (.startingAt []) noon brokenStart noon plainSettings done
  have unset : least = 0 := Except.ok.inj (leveled.symm.trans (by decide +kernel))
  have same : pattern = [Part.field .message].flatMap Part.spelled :=
    Except.ok.inj (formatted.symm.trans (by decide +kernel))
  have named : logFile? before.files plainSettings.file = some ⟨[], [['b']]⟩ := by decide +kernel
  have added := written [(noon, lowRecord), (noon, highRecord)]
  obtain ⟨kept, lines⟩ := plain _ same [(noon, lowRecord), (noon, highRecord)]
  rw [named, kept, lines, unset] at added
  exact ⟨done, added⟩

/-- A format with a percent sign too many. -/
def percentSettings : Settings.Logs :=
  { format := Settings.word "%(message)s 100%" }

/-- The format passes the set-up, but a record that reaches the level is not written, only
reported. -/
theorem record_lost_by_format :
    let before := Session.start (.startingAt []) noon.now noon.details
    let ready := before.call (.setUp noon percentSettings)
    ((before.during noon).installLogger percentSettings).2 = none ∧
    levelOf percentSettings.level = .ok .info ∧
    ready.logger.handlers.countP (·.file?.isNone) = 1 ∧
    (ready.call (.log noon highRecord)).surface =
      { ready.surface with reports := [(.console, highRecord)] } := by
  intro before ready
  refine ⟨?_, ?_, ?_, ?_⟩ <;> decide +kernel

end Session

end DocReport

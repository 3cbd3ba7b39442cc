import DocReport.Proofs.Files.Frame

/-!
What logging does to files. Records go to the files of the handlers only, and a logger that was set
up once can be set up again: its file is there, and so the same handlers come out.
-/
namespace DocReport.Logging

open Files (FileSystem Path)
open Files.FileSystem (Keeps)
open Yaml (Value)

/-- The file that a handler writes to. -/
def Handler.file? (handler : Handler) : Option Path :=
  match handler.sink with
  | .console => none
  | .file path => some path

/-- The files that a logger writes to. -/
def Logger.files (logger : Logger) : List Path :=
  logger.handlers.filterMap Handler.file?

section Writing

variable {written : List Path}

theorem Surface.writeLine_keeps (surface : Surface) {handler : Handler}
    (covered : ∀ path, handler.file? = some path → path ∈ written) (line : Text) :
    Keeps written surface.files (surface.writeLine handler.sink line).files := by
  unfold writeLine
  cases sink : handler.sink with
  | console => exact .refl _ _
  | file path =>
    have member : path ∈ written := covered path (by simp [Handler.file?, sink])
    dsimp only
    cases done : surface.files.append path (Text.toOctets (line ++ ['\n'])) with
    | ok files => exact FileSystem.keeps_update done member
    | error fault => exact .refl _ _

theorem Surface.handle_keeps (surface : Surface) {handler : Handler}
    (covered : ∀ path, handler.file? = some path → path ∈ written) (scene : Scene)
    (record : Record) :
    Keeps written surface.files (surface.handle scene record handler).files := by
  unfold handle
  split
  · split
    · exact writeLine_keeps surface covered _
    · exact .refl _ _
  · exact .refl _ _

theorem Surface.handleAll_keeps (surface : Surface) {handlers : List Handler}
    (covered : ∀ handler ∈ handlers, ∀ path, handler.file? = some path → path ∈ written)
    (scene : Scene) (record : Record) :
    Keeps written surface.files (handlers.foldl (handle scene record) surface).files := by
  induction handlers generalizing surface with
  | nil => exact .refl _ _
  | cons handler rest ih =>
    have first := handle_keeps surface (covered handler List.mem_cons_self) scene record
    have others := ih (surface.handle scene record handler) fun other member =>
      covered other (List.mem_cons_of_mem handler member)
    exact first.trans others

theorem Logger.emit_keeps (logger : Logger) (scene : Scene) (surface : Surface) (record : Record) :
    Keeps logger.files surface.files (logger.emit scene surface record).files := by
  unfold emit
  split
  · refine Surface.handleAll_keeps surface (fun handler member path named => ?_) scene record
    exact List.mem_filterMap.2 ⟨handler, member, named⟩
  · exact .refl _ _

/-- Whatever is logged, only the logger's own files change. -/
theorem Logger.emitAll_keeps (logger : Logger) (scene : Scene) (surface : Surface)
    (records : List Record) :
    Keeps logger.files surface.files (logger.emitAll scene surface records).files := by
  unfold emitAll
  induction records generalizing surface with
  | nil => exact .refl _ _
  | cons record rest ih =>
    exact (logger.emit_keeps scene surface record).trans (ih (logger.emit scene surface record))

end Writing

section Setup

variable {fs after opened : FileSystem} {setting : Value} {log : Option Path}

theorem settled_of_here (same : after.here = fs.here) (p : Path) :
    after.settled p = fs.settled p := by
  simp only [FileSystem.settled, same]

/-- Either no log file is named, or it is opened at its settled path. -/
theorem openLog_cases (done : openLog fs setting = .ok (log, opened)) :
    (setting.isTruthy = false ∧ log = none ∧ opened = fs) ∨
    ∃ name, setting = .text name ∧ setting.isTruthy = true ∧
      log = some (fs.settled (Path.ofText name)) ∧
      fs.append (fs.settled (Path.ofText name)) [] = .ok opened := by
  unfold openLog at done
  cases given : setting.isTruthy with
  | false =>
    simp only [given, Bool.false_eq_true, if_false, Except.ok.injEq, Prod.mk.injEq] at done
    exact .inl ⟨rfl, done.1.symm, done.2.symm⟩
  | true =>
    right
    rw [if_pos given] at done
    cases setting with
    | text name =>
      dsimp only at done
      cases appended : fs.append (fs.settled (Path.ofText name)) [] with
      | error fault => rw [appended] at done; cases done
      | ok files =>
        rw [appended] at done
        cases done
        exact ⟨name, rfl, rfl, rfl, appended⟩
    | _ => cases done

/-- A log file that was opened is there, and nothing else has changed. -/
theorem openLog_eq_ok (done : openLog fs setting = .ok (log, opened)) :
    Keeps log.toList fs opened ∧ ∀ path ∈ log.toList, opened.isFile path = true := by
  rcases openLog_cases done with ⟨-, rfl, rfl⟩ | ⟨name, -, -, rfl, appended⟩
  · exact ⟨.refl _ _, by simp⟩
  · refine ⟨FileSystem.keeps_update appended (by simp), fun path named => ?_⟩
    rw [List.mem_singleton.1 named]
    exact FileSystem.isFile_of_update appended

/-- A log file can be opened again as long as it is there. -/
theorem openLog_again {written : List Path} (done : openLog fs setting = .ok (log, opened))
    (keeps : Keeps written opened after) :
    ∃ reopened, openLog after setting = .ok (log, reopened) := by
  obtain ⟨kept, there⟩ := openLog_eq_ok done
  have here : after.here = fs.here := keeps.here.trans kept.here
  rcases openLog_cases done with ⟨bare, rfl, -⟩ | ⟨name, rfl, given, rfl, -⟩
  · exact ⟨after, by simp [openLog, bare]⟩
  · have file : after.isFile (fs.settled (Path.ofText name)) = true :=
      keeps.isFile (there _ (by simp))
    obtain ⟨reopened, again⟩ := FileSystem.exists_update file fun old => old ++ []
    refine ⟨reopened, ?_⟩
    rw [openLog, if_pos given]
    simp only [settled_of_here here, FileSystem.append, again]

/-- The logger that is set up with a level, a format and maybe a file. -/
def setUp (least : Level) (format : Text) (log : Option Path) : Logger :=
  ⟨least, ⟨.console, least, format⟩ :: log.toList.map fun path => ⟨.file path, least, format⟩⟩

@[simp] theorem files_setUp (least : Level) (format : Text) (log : Option Path) :
    (setUp least format log).files = log.toList := by
  cases log <;> rfl

/-- The note that a logger leaves when it is set up. -/
def setUpNote (level : Value) : Record :=
  ⟨.debug, .program, "Logging initialized at level ".toList ++ level.toText⟩

variable {scene : Scene} {level format : Value} {logger : Logger} {surface : Surface}

theorem install_of_opened {least : Level} {pattern : Text} (leveled : levelOf level = .ok least)
    (formatted : formatOf format = .ok pattern)
    (done : openLog surface.files setting = .ok (log, opened)) :
    install scene level format setting logger surface =
      ⟨setUp least pattern log, (setUp least pattern log).emit scene
        { surface with files := opened } (setUpNote level), none⟩ := by
  simp only [install, leveled, formatted, done]
  rfl

/-- A logger is set up exactly if its level, its format and its file can be used. -/
theorem install_eq_done
    (done : (install scene level format setting logger surface).failure = none) :
    ∃ least pattern log opened, levelOf level = .ok least ∧ formatOf format = .ok pattern ∧
      openLog surface.files setting = .ok (log, opened) := by
  unfold install at done
  cases leveled : levelOf level with
  | error failure => simp [leveled] at done
  | ok least =>
    cases formatted : formatOf format with
    | error failure => simp [leveled, formatted] at done
    | ok pattern =>
      cases openedLog : openLog surface.files setting with
      | error failure => simp [leveled, formatted, openedLog] at done
      | ok result => exact ⟨least, pattern, result.1, result.2, rfl, rfl, rfl⟩

end Setup

end DocReport.Logging

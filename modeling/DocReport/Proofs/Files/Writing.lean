import DocReport.Session

/-!
What stays of a file that was written. A path leads through directories only, and writing a file
makes and removes none, so every path leads to the same place afterwards. The content that was
written is read back, and log lines, which go to the end of files, can only be added to it.
-/
namespace DocReport

namespace Files.FileSystem

open Text (Octets)

variable {fs after : FileSystem} {p other : Path} {change : Octets → Octets}

/-- Writing to a file puts it at its place, where no directory is. -/
theorem update_eq_ok (done : fs.update p change = .ok after) :
    ∃ place old, fs.place p = .ok place ∧ fs.at? place ≠ some .directory ∧
      (∀ content, fs.at? place = some (.file content) → old = content) ∧
      after = fs.put place (.file (change old)) := by
  unfold update at done
  cases leads : fs.place p with
  | error obstacle => rw [leads] at done; cases done
  | ok place =>
    rw [leads] at done
    dsimp only at done
    cases found : fs.at? place with
    | none =>
      rw [found] at done
      dsimp only at done
      split at done
      · cases done
        exact ⟨place, [], rfl, by simp [found], by simp [found], rfl⟩
      · cases done
    | some item =>
      cases item with
      | directory => rw [found] at done; cases done
      | file content =>
        rw [found] at done
        cases done
        refine ⟨place, content, rfl, by simp [found], fun same held => ?_, rfl⟩
        rw [found] at held
        cases held
        rfl

/-- The root is a directory, so what is no directory lies below it. -/
theorem ne_nil_of_not_directory {place : List Text} (free : fs.at? place ≠ some .directory) :
    place ≠ [] := by
  intro root
  exact free (by rw [root]; rfl)

theorem isDirectoryAt_put {place : List Text} (free : fs.at? place ≠ some .directory)
    (content : Octets) (spot : List Text) :
    (fs.put place (.file content)).isDirectoryAt spot = fs.isDirectoryAt spot := by
  unfold isDirectoryAt
  by_cases here : spot = place
  · rw [here, at?_put_self _ _ (ne_nil_of_not_directory free), beq_false_of_ne free]
    rfl
  · rw [at?_put_of_ne _ _ here]

/-- A path still leads to its place if no directory is gone. -/
theorem walk_of_directories
    (kept : ∀ place, fs.isDirectoryAt place = true → after.isDirectoryAt place = true)
    {parts here place : List Text} (leads : fs.walk here parts = .ok place) :
    after.walk here parts = .ok place := by
  induction parts generalizing here with
  | nil => exact leads
  | cons part rest ih =>
    rw [walk] at leads ⊢
    by_cases directory : fs.isDirectoryAt here = true
    · rw [if_pos directory] at leads
      rw [if_pos (kept here directory)]
      by_cases up : part = ['.', '.']
      · rw [if_pos up] at leads ⊢
        exact ih leads
      · rw [if_neg up] at leads ⊢
        exact ih leads
    · rw [if_neg directory] at leads
      split at leads <;> cases leads

theorem place_put {place : List Text} (free : fs.at? place ≠ some .directory) (content : Octets)
    {found : List Text} (leads : fs.place p = .ok found) :
    (fs.put place (.file content)).place p = .ok found :=
  walk_of_directories (fun spot directory => (isDirectoryAt_put free content spot).trans directory)
    leads

theorem read_eq_ok {content : Octets} :
    fs.read p = .ok content ↔
      ∃ place, fs.place p = .ok place ∧ fs.at? place = some (.file content) := by
  unfold read
  cases fs.place p with
  | error obstacle => simp
  | ok place =>
    cases held : fs.at? place with
    | none => simp [held]
    | some item => cases item <;> simp [held]

/-- What was written is read back. -/
theorem read_write {content : Octets} (done : fs.write p content = .ok after) :
    after.read p = .ok content := by
  obtain ⟨place, old, leads, free, -, rfl⟩ := update_eq_ok done
  exact read_eq_ok.2 ⟨place, place_put free _ leads,
    at?_put_self fs _ (ne_nil_of_not_directory free)⟩

/-- Writing at the end of a file adds to what is read from any file, or leaves it as it was. -/
theorem read_append {content added : Octets} (held : fs.read p = .ok content)
    (done : fs.append other added = .ok after) :
    after.read p = .ok content ∨ after.read p = .ok (content ++ added) := by
  obtain ⟨mine, leads, found⟩ := read_eq_ok.1 held
  obtain ⟨place, old, -, free, kept, rfl⟩ := update_eq_ok done
  have still := place_put free (old ++ added) leads
  by_cases same : mine = place
  · subst same
    have old_eq : old = content := kept content found
    right
    rw [read_eq_ok]
    exact ⟨mine, still, by rw [at?_put_self fs _ (ne_nil_of_not_directory free), old_eq]⟩
  · left
    rw [read_eq_ok]
    exact ⟨mine, still, by rw [at?_put_of_ne fs _ same, found]⟩

/-- What is read at a path begins with some content. -/
def BeginsWith (fs : FileSystem) (p : Path) (content : Octets) : Prop :=
  ∃ more, fs.read p = .ok (content ++ more)

theorem BeginsWith.append {content added : Octets} (begins : fs.BeginsWith p content)
    (done : fs.append other added = .ok after) : after.BeginsWith p content := by
  obtain ⟨more, held⟩ := begins
  rcases read_append held done with same | longer
  · exact ⟨more, same⟩
  · exact ⟨more ++ added, by rw [longer, List.append_assoc]⟩

end Files.FileSystem

namespace Logging

open Files (Path)
open Text (Octets)

variable {p : Path} {content : Octets} {surface : Surface}

theorem Surface.writeLine_beginsWith (begins : surface.files.BeginsWith p content) (sink : Sink)
    (line : Text) : (surface.writeLine sink line).files.BeginsWith p content := by
  unfold writeLine
  cases sink with
  | console => exact begins
  | file log =>
    dsimp only
    cases done : surface.files.append log (Text.toOctets (line ++ ['\n'])) with
    | ok files => exact begins.append done
    | error fault => exact begins

theorem Surface.handle_beginsWith (begins : surface.files.BeginsWith p content) (scene : Scene)
    (record : Record) (handler : Handler) :
    (surface.handle scene record handler).files.BeginsWith p content := by
  unfold handle
  split
  · split
    · exact writeLine_beginsWith begins _ _
    · exact begins
  · exact begins

theorem Logger.emit_beginsWith (begins : surface.files.BeginsWith p content) (logger : Logger)
    (scene : Scene) (record : Record) :
    (logger.emit scene surface record).files.BeginsWith p content := by
  unfold emit
  split
  · induction logger.handlers generalizing surface with
    | nil => exact begins
    | cons handler rest ih => exact ih (Surface.handle_beginsWith begins scene record handler)
  · exact begins

/-- However much is logged, files only grow at their ends. -/
theorem Logger.emitAll_beginsWith (begins : surface.files.BeginsWith p content) (logger : Logger)
    (scene : Scene) (records : List Record) :
    (logger.emitAll scene surface records).files.BeginsWith p content := by
  unfold emitAll
  induction records generalizing surface with
  | nil => exact begins
  | cons record rest ih => exact ih (logger.emit_beginsWith begins scene record)

end Logging

end DocReport

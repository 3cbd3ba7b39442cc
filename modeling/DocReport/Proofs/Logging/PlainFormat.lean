import DocReport.Logging.Format
import Mathlib.Data.List.Basic

/-!
Plain formats: characters, and attributes that are written as they are. Every record can be written
in a plain format, and what is written is each character and the text of each attribute in turn.
-/
namespace DocReport.Logging

/-- A part of a plain format. -/
inductive Part where
  | character (c : Char)
  | field (a : Attribute)
  deriving DecidableEq, Repr

namespace Part

/-- How a part is spelled in a format, where a percent sign stands twice. -/
def spelled : Part → Text
  | .character c => if c = '%' then ['%', '%'] else [c]
  | .field a => '%' :: '(' :: a.name ++ [')', 's']

/-- What is written for a part. -/
def filled (scene : Scene) (record : Record) : Part → Text
  | .character c => [c]
  | .field a => (a.value scene record).text

/-- What a part is read as. -/
def piece : Part → Piece
  | .character c => .character c
  | .field a => .directive (some a.name) ⟨[], 0, none, 's'⟩

end Part

/-! ### Reading -/

theorem nameLength_append {name : Text} (plain : ∀ c ∈ name, c ≠ '(' ∧ c ≠ ')') (rest : Text) :
    nameLength 0 (name ++ ')' :: rest) = some name.length := by
  induction name with
  | nil => rfl
  | cons c name ih =>
    obtain ⟨unopened, unclosed⟩ := plain c List.mem_cons_self
    have others := ih fun d member => plain d (List.mem_cons_of_mem c member)
    rw [List.cons_append, nameLength, if_neg unclosed, if_neg unopened, others]
    rfl

theorem Attribute.name_plain (a : Attribute) : ∀ c ∈ a.name, c ≠ '(' ∧ c ≠ ')' := by
  have plain : a.name.all (fun c => c != '(' && c != ')') = true := by
    cases a <;> decide +kernel
  simpa using plain

theorem readDirective_cons_s (rest : Text) :
    readDirective ('s' :: rest) = some (⟨[], 0, none, 's'⟩, rest) := by
  simp [readDirective, spanOf, isFlag, isDigit, decimal, widthLimit]

theorem readPiece_attribute (a : Attribute) (rest : Text) :
    readPiece ('(' :: a.name ++ ')' :: 's' :: rest) =
      some (.directive (some a.name) ⟨[], 0, none, 's'⟩, rest) := by
  have after : (a.name ++ ')' :: 's' :: rest).drop (a.name.length + 1) = 's' :: rest := by
    simp [← List.drop_drop]
  rw [List.cons_append, readPiece, nameLength_append a.name_plain]
  dsimp only [Option.bind_eq_bind, Option.bind_some]
  rw [after, readDirective_cons_s, List.take_left]
  rfl

/-- Characters of a piece that was read are passed over. -/
theorem readFrom_append (front rest : Text) :
    readFrom front.length (front ++ rest) = readFrom 0 rest := by
  induction front with
  | nil => rfl
  | cons c front ih => exact ih

/-- A percent sign and what belongs to it are read as one piece. -/
theorem readFrom_percent {front rest : Text} {piece : Piece}
    (read : readPiece (front ++ rest) = some (piece, rest)) :
    readFrom 0 ('%' :: front ++ rest) = (readFrom 0 rest).map (piece :: ·) := by
  have length : (front ++ rest).length - rest.length = front.length := by simp
  rw [List.cons_append, readFrom, if_pos rfl, read]
  dsimp only [Option.bind_eq_bind, Option.bind_some]
  rw [length, readFrom_append]
  cases readFrom 0 rest <;> rfl

theorem readFrom_spelled (part : Part) (rest : Text) :
    readFrom 0 (part.spelled ++ rest) = (readFrom 0 rest).map (part.piece :: ·) := by
  cases part with
  | character c =>
    by_cases percent : c = '%'
    · subst percent
      exact @readFrom_percent ['%'] rest _ rfl
    · rw [Part.spelled, if_neg percent, List.singleton_append, readFrom, if_neg percent]
      rfl
  | field a =>
    refine @readFrom_percent ('(' :: a.name ++ [')', 's']) rest _ ?_
    rw [List.append_assoc]
    exact readPiece_attribute a rest

theorem readFrom_flatMap_spelled (parts : List Part) :
    readFrom 0 (parts.flatMap Part.spelled) = some (parts.map Part.piece) := by
  induction parts with
  | nil => rfl
  | cons part rest ih => rw [List.flatMap_cons, readFrom_spelled, ih]; rfl

/-! ### Writing -/

theorem write?_text (field : Field) :
    Directive.write? ⟨[], 0, none, 's'⟩ field = some field.text := by
  simp [Directive.write?, Directive.text?, Directive.pad, Directive.cut, Directive.has]

theorem writeAll_pieces (scene : Scene) (record : Record) (whole : Option Field)
    (parts : List Part) :
    writeAll scene record whole (parts.map Part.piece) =
      some (parts.flatMap (Part.filled scene record)) := by
  induction parts generalizing whole with
  | nil => rfl
  | cons part rest ih =>
    cases part with
    | character c =>
      rw [List.map_cons, Part.piece, writeAll, ih]
      rfl
    | field a =>
      rw [List.map_cons, Part.piece, writeAll, Attribute.ofName?_name]
      dsimp only [Option.map_some, Option.bind_eq_bind, Option.bind_some]
      rw [write?_text, ih]
      rfl

/-- Every record can be written in a plain format. -/
theorem render_spelled (parts : List Part) (scene : Scene) (record : Record) :
    render (parts.flatMap Part.spelled) scene record =
      some (parts.flatMap (Part.filled scene record)) := by
  rw [render, readFrom_flatMap_spelled]
  exact writeAll_pieces scene record _ parts

end DocReport.Logging

import DocReport.Proofs.Text.Cut
import DocReport.Symbol.Identity

/-!
Identifiers, and how type argument lists come off a display name again.
-/
namespace DocReport.Symbol

/-- Marks that stand between or around identifiers, never inside one. -/
def separators : List Char :=
  ['.', ':', ',', ';', '?', '&', '#', '~', '\x60', '(', ')', '[', ']', '\x7b', '\x7d', '<', '>']

/-- An identifier: not empty, without white space and separators. -/
def IsIdentifier (name : Text) : Prop :=
  name ≠ [] ∧ ∀ c ∈ name, Text.isBlank c = false ∧ c ∉ separators

instance (name : Text) : Decidable (IsIdentifier name) :=
  @instDecidableAnd _ _ inferInstance (List.decidableBAll _ name)

theorem IsIdentifier.not_mem {name : Text} (identifier : IsIdentifier name) {c : Char}
    (mark : c ∈ separators) : c ∉ name :=
  fun member => (identifier.2 c member).2 mark

theorem IsIdentifier.trim {name : Text} (identifier : IsIdentifier name) : Text.trim name = name :=
  Text.trim_eq_self fun c member => (identifier.2 c member).1

/-- Marks that documentation IDs and written types are made of besides names. -/
def nameMarks : Text :=
  ['.', '\x60', '(', ')', ',', '~', '<', '>', '\x7b', '\x7d', '[', ']', '?', '#', ':']

/-- A name that can stand in a documentation ID: not empty, without white space and marks. -/
def IsName (name : Text) : Prop :=
  name ≠ [] ∧ Text.Avoids nameMarks name

instance (name : Text) : Decidable (IsName name) :=
  inferInstanceAs (Decidable (_ ∧ _))

/-- Angle brackets and braces, which enclose type arguments. -/
def isArgumentBracket (c : Char) : Bool :=
  c == '<' || c == '\x7b' || c == '>' || c == '\x7d'

theorem IsIdentifier.no_bracket {name : Text} (identifier : IsIdentifier name) :
    ∀ c ∈ name, isArgumentBracket c = false := by
  intro c member
  have mark := (identifier.2 c member).2
  simp only [separators, List.mem_cons, not_or] at mark
  simp [isArgumentBracket, mark]

theorem IsName.no_bracket {name : Text} (named : IsName name) :
    ∀ c ∈ name, isArgumentBracket c = false := by
  intro c member
  have mark := (named.2 c member).2
  simp only [nameMarks, List.mem_cons, not_or] at mark
  simp [isArgumentBracket, mark]

/-- Text without brackets is kept outside type arguments and dropped inside. -/
theorem dropArgumentsFrom_append (depth : Int) {t : Text}
    (plain : ∀ c ∈ t, isArgumentBracket c = false) (r : Text) :
    dropArgumentsFrom depth (t ++ r) =
      (if depth = 0 then t else []) ++ dropArgumentsFrom depth r := by
  induction t with
  | nil => simp
  | cons c rest ih =>
    have first := plain c List.mem_cons_self
    simp only [isArgumentBracket, Bool.or_eq_false_iff, beq_eq_false_iff_ne] at first
    have others := ih fun d member => plain d (List.mem_cons_of_mem _ member)
    rw [List.cons_append, dropArgumentsFrom, if_neg (by simp [first]), if_neg (by simp [first])]
    split
    · rename_i outside
      rw [others, if_pos outside, List.cons_append]
    · rename_i inside
      rw [others, if_neg inside]

theorem dropArguments_eq_self {t : Text} (plain : ∀ c ∈ t, isArgumentBracket c = false) :
    dropArguments t = t := by
  have kept := dropArgumentsFrom_append 0 plain []
  rw [List.append_nil, if_pos rfl] at kept
  rw [dropArguments, kept]
  exact List.append_nil t

/-- The display name of a type without its type parameters is its name again. -/
theorem dropArguments_displayName {name : Text} {typeParameters : List Text}
    (plain : ∀ c ∈ name, isArgumentBracket c = false)
    (parameters : ∀ p ∈ typeParameters, ∀ c ∈ p, isArgumentBracket c = false) :
    dropArguments (displayName name typeParameters) = name := by
  unfold displayName
  split
  · exact dropArguments_eq_self plain
  · have commas : ∀ c ∈ [',', ' '], isArgumentBracket c = false := by
      simp [isArgumentBracket]
    have inner : ∀ c ∈ Text.join [',', ' '] typeParameters, isArgumentBracket c = false := by
      intro c member
      rcases Text.mem_join member with between | ⟨parameter, belongs, inside⟩
      · exact commas c between
      · exact parameters parameter belongs c inside
    rw [dropArguments, List.append_assoc, List.append_assoc,
      dropArgumentsFrom_append 0 plain, if_pos rfl]
    have opened : ∀ r, dropArgumentsFrom 0 (['<'] ++ r) = dropArgumentsFrom 1 r := fun _ => rfl
    rw [opened, dropArgumentsFrom_append 1 inner, if_neg (by decide)]
    simp [dropArgumentsFrom]

end DocReport.Symbol

import DocReport.Compilation.Binding
import DocReport.Proofs.Symbol.AnyText

/-!
References whose parameter types are written as in documentation IDs. The name of a text is its own
name, whatever the text is, and the names of the types in a list are cut apart again where the types
were. So a reference asks for the same key whether it has the types as in the source or as in the
ID.
-/
namespace DocReport.Compilation

open DocReport.Symbol

/-- The text that a reference has for its parameter types: what follows the first parenthesis, up to
the closing ones at the end. -/
def parameterText (reference : Text) : Text :=
  Text.dropTail (· == ')') ((Text.cutFirst '(' reference).2.getD [])

/-- A reference with its parameter types written as in documentation IDs. One without a parameter
list stays as it is. -/
def respelled (reference : Text) : Text :=
  match (Text.cutFirst '(' reference).2.getD [] with
  | [] => reference
  | _ =>
    (Text.cutFirst '(' reference).1 ++ ['('] ++ listName (parameterText reference) ++ [')']

/-- The key that a reference with a parameter list asks for. -/
theorem lookupName_of_list {name written : Text} (opens : '(' ∉ name) (nonempty : written ≠ []) :
    lookupName (name ++ '(' :: written) =
      Text.trim (dropArguments name) ++ ['('] ++ listName (Text.dropTail (· == ')') written) ++
        [')'] := by
  obtain ⟨c, rest, rfl⟩ := List.exists_cons_of_ne_nil nonempty
  simp only [lookupName, Text.cutFirst_append opens, Option.getD_some]
  rfl

theorem dropTail_parenthesis {list : Text} (closed : list.getLast? ≠ some ')') :
    Text.dropTail (· == ')') (list ++ [')']) = list := by
  rw [dropTail_append_gone (by simp)]
  rcases List.eq_nil_or_concat' list with rfl | ⟨front, c, rfl⟩
  · rfl
  · have kept : (c == ')') = false := by simpa using closed
    exact @Text.dropTail_append_kept (· == ')') c kept front []

/-- A reference has no parameter list, or a name and what is written in the list. -/
theorem reference_cases (reference : Text) :
    (Text.cutFirst '(' reference).2.getD [] = [] ∨
      ∃ name written, written ≠ [] ∧ '(' ∉ name ∧ reference = name ++ '(' :: written := by
  cases cut : (Text.cutFirst '(' reference).2 with
  | none => exact .inl rfl
  | some written =>
    obtain ⟨whole, absent⟩ := Text.cutFirst_some (Prod.ext rfl cut)
    by_cases empty : written = []
    · exact .inl empty
    · exact .inr ⟨_, written, empty, absent, whole⟩

/-- Types written as in documentation IDs are looked up under the same key. -/
theorem lookupName_respelled {reference : Text}
    (closed : (listName (parameterText reference)).getLast? ≠ some ')') :
    lookupName (respelled reference) = lookupName reference := by
  rcases reference_cases reference with bare | ⟨name, written, nonempty, opens, rfl⟩
  · simp only [respelled, bare]
  · have list : parameterText (name ++ '(' :: written) = Text.dropTail (· == ')') written := by
      rw [parameterText, Text.cutFirst_append opens, Option.getD_some]
    have text : respelled (name ++ '(' :: written) =
        name ++ '(' :: (listName (Text.dropTail (· == ')') written) ++ [')']) := by
      obtain ⟨c, rest, rfl⟩ := List.exists_cons_of_ne_nil nonempty
      simp [respelled, Text.cutFirst_append opens, list]
    rw [list] at closed
    rw [text, lookupName_of_list opens (by simp), dropTail_parenthesis closed, listName_listName,
      lookupName_of_list opens nonempty]

/-- The name of any text is its own name, so a reference that has its parameter types as in
documentation IDs asks for the same key as one that has them as in the source. Only names that end
in a parenthesis are left out, since all parentheses at the end of a reference close its list. -/
theorem names_are_their_own_names :
    (∀ written, typeName (typeName written) = typeName written) ∧
    ∀ reference, (listName (parameterText reference)).getLast? ≠ some ')' →
      lookupName (respelled reference) = lookupName reference :=
  ⟨typeName_typeName, fun _ closed => lookupName_respelled closed⟩

/-- A reference with brackets that do not match, a stray annotation and odd spaces. -/
theorem names_are_their_own_names_unbalanced :
    typeName (typeName " > Row< long ,int ?>[ , ] ??".toList) =
      typeName " > Row< long ,int ?>[ , ] ??".toList ∧
    typeName " > Row< long ,int ?>[ , ] ??".toList =
      "> Row\x7bSystem.Int64,System.Nullable\x7bSystem.Int32\x7d\x7d[,]".toList ∧
    respelled "Add(Row<long>,int?)".toList =
      "Add(Row\x7bSystem.Int64\x7d,System.Nullable\x7bSystem.Int32\x7d)".toList ∧
    lookupName (respelled "Add(Row<long>,int?)".toList) =
      lookupName "Add(Row<long>,int?)".toList :=
  ⟨names_are_their_own_names.1 _, by decide +kernel, by decide +kernel,
    names_are_their_own_names.2 _ (by decide +kernel)⟩

end DocReport.Compilation

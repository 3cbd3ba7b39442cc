import DocReport.Proofs.Compilation.EnclosingType
import DocReport.Proofs.Compilation.Escape
import DocReport.Proofs.Symbol.Qualified

/-!
References with a parameter list. The key of a method is built from its declared parameters, the
key asked for from the text of the reference, which is unescaped, cut at its parentheses and commas
and translated type by type. Both are the same text, so a method is found among its overloads by
its parameter types.
-/
namespace DocReport.Compilation

open DocReport.Symbol

/-- The declaration stands directly in the scope. The empty text is the global scope, so it is not
the scope of a declaration that stands in a type without a name. -/
def DeclaredIn (m : Declaration) (scope : Text) : Prop :=
  scope = Text.joinDots (scopeParts m) ∧ (scope = [] → scopeParts m = [])

instance (m : Declaration) (scope : Text) : Decidable (DeclaredIn m scope) :=
  inferInstanceAs (Decidable (_ ∧ _))

theorem qualify_append (scope name rest : Text) :
    qualify scope (name ++ rest) = qualify scope name ++ rest := by
  unfold qualify
  split
  · rfl
  · simp only [List.append_assoc]

theorem plainKey_of_declaredIn {m : Declaration} {scope : Text} (here : DeclaredIn m scope) :
    plainKey m = qualify scope m.name := by
  obtain ⟨rfl, globally⟩ := here
  unfold plainKey qualify
  split
  · rename_i empty
    rw [globally (List.isEmpty_iff.1 empty)]
    rfl
  · rename_i named
    have parts : scopeParts m ≠ [] := by
      intro none
      rw [none] at named
      exact named rfl
    rw [Text.joinDots, Text.join_concat _ _ parts]
    rfl

/-- The key that a name with a parameter list asks for. -/
theorem lookupName_list {name list : Text} (opens : '(' ∉ name) (closes : ')' ∉ list) :
    lookupName (name ++ ['('] ++ list ++ [')']) =
      Text.trim (dropArguments name) ++ ['('] ++
        Text.join [','] ((splitArguments list).map typeName) ++ [')'] := by
  have cut : Text.cutFirst '(' (name ++ ['('] ++ list ++ [')']) = (name, some (list ++ [')'])) := by
    have whole := Text.cutFirst_append opens (list ++ [')'])
    simpa using whole
  have kept : Text.dropTail (· == ')') (list ++ [')']) = list := by
    have last : Text.dropTail (· == ')') (list ++ [')']) = Text.dropTail (· == ')') list := by
      simp [Text.dropTail]
    rw [last, Text.dropTail_eq_self]
    intro c member
    rw [beq_eq_false_iff_ne]
    rintro rfl
    exact closes member
  simp only [lookupName, cut, Option.getD_some]
  split
  · rename_i empty
    simp at empty
  · rw [kept]

section Call

variable {name list : Text} (named : IsName name)

include named

theorem trim_call :
    Text.trim (name ++ ['('] ++ list ++ [')']) = name ++ ['('] ++ list ++ [')'] := by
  obtain ⟨nonempty, plain⟩ := named
  cases name with
  | nil => exact absurd rfl nonempty
  | cons c rest =>
    have visible := (plain c List.mem_cons_self).1
    rw [Text.trim_append_solid (by decide) Text.isGap_nil]
    simp [Text.trimStart, visible]

theorem hasMarker_call : hasMarker (name ++ ['('] ++ list ++ [')']) = false := by
  obtain ⟨nonempty, plain⟩ := named
  rw [hasMarker, beq_eq_false_iff_ne]
  cases name with
  | nil => exact absurd rfl nonempty
  | cons c rest =>
    cases rest with
    | nil => simp
    | cons second rest =>
      have other : second ≠ ':' := by
        rintro rfl
        exact plain.not_mem (c := ':') (by decide) (by simp)
      simpa using other

/-- The key that a reference with a parameter list asks for. -/
theorem lookupName_call (closes : ')' ∉ list) :
    lookupName (name ++ ['('] ++ list ++ [')']) =
      name ++ ['('] ++ Text.join [','] ((splitArguments list).map typeName) ++ [')'] := by
  rw [lookupName_list (named.2.not_mem (by decide)) closes,
    dropArguments_eq_self named.no_bracket, named.2.trim]

end Call

section List

variable {parameters : List Parameter} {list : Text}
  (written : ∀ p ∈ parameters, ∃ t : SimpleType, t.Spelled p.typeText)
  (listed : Text.Spaced (Text.separated (parameters.map fun p => [p.typeText])) list)

include written listed

theorem parenthesis_not_mem_list : ')' ∉ list := by
  intro member
  rcases listed.mem member with space | ⟨token, belongs, inside⟩
  · cases space
  · rcases Text.mem_separated belongs with rfl | ⟨row, listed, own⟩
    · cases List.mem_singleton.1 inside
    · obtain ⟨p, declared, rfl⟩ := List.mem_map.1 listed
      obtain ⟨t, spelled⟩ := written p declared
      rw [List.mem_singleton.1 own] at inside
      rcases spelled.mem inside with space | ⟨token, belongs, inside⟩
      · cases space
      · exact t.parenthesis_not_mem_tokens token belongs inside

/-- The types of the list are translated to the parameters of the declaration's key. -/
theorem typeNames_list (byValue : ∀ p ∈ parameters, isByReference p = false) :
    (splitArguments list).map typeName = parameters.map documentationParameter := by
  refine typeNames_separated listed fun p declared part spaced => ?_
  obtain ⟨t, spelled⟩ := written p declared
  obtain ⟨before, behind, spaces, spaces', rfl⟩ := spaced.exists_gaps
  have own : documentationParameter p = t.documentationName := by
    rw [documentationParameter, byValue p declared, (t.names_of_spelled _ spelled).named]
    rfl
  rw [own]
  exact t.names_of_spelled _ (Text.Spaced.append_gap (spelled.gap_append spaces) spaces')

end List

/-- The first declaration of a compilation that goes by a key is the one it leads to. -/
theorem find?_of_first {before after : List Declaration} {m : Declaration} {key : Text}
    (first : ∀ earlier ∈ before, ¬ GoesBy earlier key) (goes : GoesBy m key) :
    (before ++ m :: after).find? (GoesBy · key) = some m := by
  have none : before.find? (GoesBy · key) = none := by
    rw [List.find?_eq_none]
    intro earlier member
    simpa using first earlier member
  simp [List.find?_append, none, goes]

/-- A method or constructor without parameters that are passed by reference is found by its name
and the types of its parameters as they are declared, from any declaration whose innermost scope is
the one it is declared in. No other overload is in the way, as long as none that is registered
earlier has the same signature key. -/
theorem overload_bound_by_types (files : List SourceFile) (before after : List Declaration)
    (m d : Declaration) (list scope : Text) (member : declarations files = before ++ m :: after)
    (callable : m.kind = .method ∨ m.kind = .constructor) (named : IsName m.name)
    (byValue : ∀ p ∈ m.parameters, isByReference p = false)
    (written : ∀ p ∈ m.parameters, ∃ t : SimpleType, t.Spelled p.typeText)
    (innermost : (scopes d).head? = some scope) (here : DeclaredIn m scope)
    (listed : Text.Spaced (Text.separated (m.parameters.map fun p => [p.typeText])) list)
    (first : ∀ earlier ∈ before, ¬ GoesBy earlier (signatureKey m)) :
    (bind (Index.ofFiles files) (escape (m.name ++ ['('] ++ list ++ [')'])) d).value =
      documentationId m := by
  have asked : lookupName (m.name ++ ['('] ++ list ++ [')']) =
      m.name ++ (['('] ++ documentationParameters m.parameters ++ [')']) := by
    rw [lookupName_call named (parenthesis_not_mem_list written listed),
      typeNames_list written listed byValue, documentationParameters]
    simp only [List.append_assoc]
  have key : qualify scope (lookupName (m.name ++ ['('] ++ list ++ [')'])) = signatureKey m := by
    rw [asked, qualify_append, ← plainKey_of_declaredIn here, signatureKey]
    simp only [List.append_assoc]
  have goes : GoesBy m (signatureKey m) := by
    refine ⟨?_, Or.inr ⟨callable, rfl⟩⟩
    rcases callable with kind | kind <;> rw [kind] <;> decide
  obtain ⟨outer, around⟩ := List.head?_eq_some_iff.1 innermost
  have found : search? files (scopes d) (lookupName (m.name ++ ['('] ++ list ++ [')'])) =
      some m := by
    rw [search?, around, List.findSome?_cons, key, member, find?_of_first first goes]
  rw [bind_value, resolve?_ofFiles, unescape_escape, trim_call named, hasMarker_call named, found]
  rfl

section Table

def intType : SimpleType :=
  .keyword "int".toList "System.Int32".toList (by decide)

/-- The type `Map<string, int>`: the comma in it does not end a parameter. -/
def mapType : SimpleType :=
  .generic ⟨"Map".toList, by decide, by decide⟩
    [.keyword "string".toList "System.String".toList (by decide), intType]

def rowType : SimpleType :=
  .array intType 0

/-- Two overloads of a method in a class, and a property of the class. -/
def addOne : Declaration :=
  { name := "Add".toList, kind := .method, namespaceName := "Demo".toList
    containingTypes := ["Table<T>".toList]
    parameters := [{ name := "item".toList, typeText := "int".toList }] }

def addMany : Declaration :=
  { name := "Add".toList, kind := .method, namespaceName := "Demo".toList
    containingTypes := ["Table<T>".toList]
    parameters :=
      [{ name := "items".toList, typeText := mapType.spelling [0, 0, 0, 0, 1] },
       { name := "row".toList, typeText := rowType.spelling [] }] }

def tableCount : Declaration :=
  { name := "Count".toList, kind := .property, namespaceName := "Demo".toList
    containingTypes := ["Table<T>".toList] }

theorem overload_bound_by_types_map :
    addMany.parameters.map (·.typeText) = ["Map<string, int>".toList, "int[]".toList] ∧
    (bind (Index.ofFiles [⟨"Table.cs".toList, [addOne, addMany, tableCount]⟩])
      "Add(Map&lt;string, int&gt; ,int[])".toList tableCount).value = documentationId addMany := by
  have written : ∀ p ∈ addMany.parameters, ∃ t : SimpleType, t.Spelled p.typeText := by
    intro p member
    rcases List.mem_cons.1 member with rfl | member
    · exact ⟨mapType, Text.spaced_spread _ _⟩
    · rw [List.mem_singleton.1 member]
      exact ⟨rowType, Text.spaced_spread _ _⟩
  have text : escape (addMany.name ++ ['('] ++ Text.spread [0, 1]
      (Text.separated (addMany.parameters.map fun p => [p.typeText])) ++ [')']) =
      "Add(Map&lt;string, int&gt; ,int[])".toList := by
    decide +kernel
  refine ⟨by decide +kernel, ?_⟩
  rw [← text]
  exact overload_bound_by_types _ [addOne] [tableCount] addMany tableCount _ "Demo.Table".toList rfl
    (Or.inl rfl) (by decide) (by decide) written (by decide) (by decide)
    (Text.spaced_spread _ _) (by decide +kernel)

end Table

end DocReport.Compilation

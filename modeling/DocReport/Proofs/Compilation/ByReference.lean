import DocReport.Proofs.Compilation.BraceSpelling
import DocReport.Proofs.Symbol.PassingMode

/-!
References to methods with parameters that are passed by reference. The key of such a method has a
mark behind the types of these parameters. A reference that has the passing modes in front of the
types, as the language asks for, never leads to the method, since the blank behind the mode stays in
the key asked for; one whose parameter list is written as the documentation ID has it does.
-/
namespace DocReport.Compilation

open DocReport.Symbol

/-! ### The parameter list at the end of a key and of a documentation ID -/

/-- What stands behind the last opening parenthesis. -/
def afterParenthesis (t : Text) : Text :=
  (Text.cutLast '(' t).2

theorem afterParenthesis_of_not_mem {list : Text} (absent : '(' ∉ list) (front : Text) :
    afterParenthesis (front ++ '(' :: list) = list := by
  rw [afterParenthesis, Text.cutLast_append absent]

/-- What stands before a parenthesis does not count. -/
theorem afterParenthesis_append (front list : Text) :
    afterParenthesis (front ++ '(' :: list) = afterParenthesis ('(' :: list) := by
  have stop : ∀ rest : Text, ((list.reverse ++ ['(']) ++ rest).takeWhile (· != '(') =
      (list.reverse ++ ['(']).takeWhile (· != '(') := by
    intro rest
    rw [List.takeWhile_append, if_neg]
    intro whole
    have all := (List.takeWhile_sublist _).eq_of_length whole
    have kept := Text.mem_takeWhile (all.symm ▸ (by simp : '(' ∈ list.reverse ++ ['(']))
    simp at kept
  have same := stop front.reverse
  simp only [afterParenthesis, Text.cutLast, List.reverse_append, List.reverse_cons] at same ⊢
  rw [same]

theorem signatureKey_eq (m : Declaration) :
    signatureKey m = plainKey m ++ '(' :: (documentationParameters m.parameters ++ [')']) := by
  simp [signatureKey]

/-- The documentation ID of a method ends like its key, if there are any parameters. -/
theorem afterParenthesis_documentationId {m : Declaration}
    (callable : m.kind = .method ∨ m.kind = .constructor) (some : m.parameters ≠ []) :
    afterParenthesis (documentationId m) = afterParenthesis (signatureKey m) := by
  have kind : m.kind ≠ .namespaceKind ∧ m.kind.isType = false ∧ m.kind ≠ .conversion := by
    rcases callable with same | same <;> rw [same] <;> decide
  have trailing : trailer m = '(' :: (documentationParameters m.parameters ++ [')']) := by
    simp [trailer, parameterPart, targetPart, kind, some]
  have whole : documentationId m =
      (kindLetter m.kind :: ':' :: Text.joinDots (enclosingSegments m ++ [ownSegment m])) ++
        '(' :: (documentationParameters m.parameters ++ [')']) := by
    rw [documentationId, qualifiedName_eq kind.1, trailing]
    rfl
  rw [whole, afterParenthesis_append, signatureKey_eq, afterParenthesis_append]

/-- Whatever goes by a key with a parameter list has that list in its documentation ID. -/
theorem afterParenthesis_of_goesBy {x : Declaration} {front list : Text}
    (plain : '(' ∉ plainKey x) (flat : '(' ∉ list) (nonempty : list ≠ [])
    (goes : GoesBy x (front ++ ['('] ++ list ++ [')'])) :
    afterParenthesis (documentationId x) = list ++ [')'] := by
  obtain ⟨-, short | ⟨callable, long⟩⟩ := goes
  · rw [short] at plain
    simp at plain
  · have ending : afterParenthesis (signatureKey x) = list ++ [')'] := by
      rw [signatureKey, long, List.append_assoc, List.append_assoc, List.singleton_append,
        afterParenthesis_of_not_mem (by simp [flat])]
    have some : x.parameters ≠ [] := by
      intro none
      rw [signatureKey_eq, none, afterParenthesis_of_not_mem (by decide)] at ending
      exact nonempty (by simpa [documentationParameters, Text.join] using ending)
    rw [afterParenthesis_documentationId callable some, ending]

/-! ### The key asked for -/

section List

variable {parameters : List Parameter} {list : Text}
  (written : ∀ p ∈ parameters, ∃ t : SimpleType, t.Spelled p.typeText)

include written

theorem typeNames_documentationParameters :
    (splitArguments (documentationParameters parameters)).map typeName =
      parameters.map documentationParameter := by
  have named : List.Forall₂ Names (parameters.map documentationParameter)
      (parameters.map documentationParameter) := by
    rw [List.forall₂_map_left_iff, List.forall₂_map_right_iff, List.forall₂_same]
    exact fun p declared => names_documentationParameter (written p declared)
  exact typeNames_join named

theorem documentationParameters_avoids :
    Text.Avoids SimpleType.unnamedMarks (documentationParameters parameters) := by
  refine Text.Avoids.join (by decide) fun part member => ?_
  obtain ⟨p, declared, rfl⟩ := List.mem_map.1 member
  exact documentationParameter_avoids (written p declared)

variable (listed : Text.Spaced (Text.separated (parameters.map fun p => [writtenParameter p])) list)

include listed

theorem typeNames_written :
    (splitArguments list).map typeName = parameters.map fun p => typeName (writtenParameter p) :=
  typeNames_separated listed fun p declared _ => names_written (written p declared)

theorem parenthesis_not_mem_written_list : ')' ∉ list := by
  intro member
  rcases listed.mem member with space | ⟨token, belongs, inside⟩
  · cases space
  · rcases Text.mem_separated belongs with rfl | ⟨row, listed, own⟩
    · cases List.mem_singleton.1 inside
    · obtain ⟨p, declared, rfl⟩ := List.mem_map.1 listed
      rw [List.mem_singleton.1 own] at inside
      exact parenthesis_not_mem_written (written p declared) inside

end List

section Sibling

variable {files : List SourceFile} {before after : List Declaration} {m d : Declaration}
  {scope list : Text} (callable : m.kind = .method ∨ m.kind = .constructor) (named : IsName m.name)

include callable named

/-- A list that is translated to the parameters of the key leads to the method, from any
declaration beside it. -/
theorem bind_of_key (member : declarations files = before ++ m :: after)
    (innermost : (scopes d).head? = some scope) (here : DeclaredIn m scope)
    (first : ∀ earlier ∈ before, ¬ GoesBy earlier (signatureKey m)) (closes : ')' ∉ list)
    (asked : (splitArguments list).map typeName = m.parameters.map documentationParameter) :
    (bind (Index.ofFiles files) (escape (m.name ++ ['('] ++ list ++ [')'])) d).value =
      documentationId m := by
  have key : qualify scope (lookupName (m.name ++ ['('] ++ list ++ [')'])) = signatureKey m := by
    rw [lookupName_call named closes, asked, List.append_assoc, List.append_assoc, qualify_append,
      ← plainKey_of_declaredIn here, signatureKey_eq]
    rfl
  have goes : GoesBy m (signatureKey m) := by
    refine ⟨?_, Or.inr ⟨callable, rfl⟩⟩
    rcases callable with kind | kind <;> rw [kind] <;> decide
  obtain ⟨outer, around⟩ := List.head?_eq_some_iff.1 innermost
  have unmarked : hasMarker (Text.trim (m.name ++ ['('] ++ list ++ [')'])) = false := by
    rw [trim_call named, hasMarker_call named]
  rw [bind_escape files unmarked, trim_call named, search?, around, List.findSome?_cons, key,
    member, find?_of_first first goes]
  rfl

/-- A list in which a blank is left does not lead to a method of simple types, whatever the
declaration it is looked up from. -/
theorem bind_ne_of_blank (plain : ∀ x ∈ declarations files, '(' ∉ plainKey x)
    (written : ∀ p ∈ m.parameters, ∃ t : SimpleType, t.Spelled p.typeText)
    (some : m.parameters ≠ []) (closes : ')' ∉ list) {names : List Text}
    (asked : (splitArguments list).map typeName = names) (flat : '(' ∉ Text.join [','] names)
    (blank : ' ' ∈ Text.join [','] names) :
    (bind (Index.ofFiles files) (escape (m.name ++ ['('] ++ list ++ [')'])) d).value ≠
      documentationId m := by
  have unmarked : hasMarker (Text.trim (m.name ++ ['('] ++ list ++ [')'])) = false := by
    rw [trim_call named, hasMarker_call named]
  rw [bind_escape files unmarked, trim_call named, lookupName_call named closes, asked]
  cases found : search? files (scopes d)
      (m.name ++ ['('] ++ Text.join [','] names ++ [')']) with
  | none => exact escape_ne_documentationId unmarked m
  | some x =>
    obtain ⟨declared, outer, goes⟩ := goesBy_of_search found
    rw [List.append_assoc, List.append_assoc, qualify_append, ← List.append_assoc,
      ← List.append_assoc] at goes
    -- What is found instead has the list in its own ID, with a blank that the ID of `m` has not.
    have nonempty : Text.join [','] names ≠ [] := List.ne_nil_of_mem blank
    have theirs := afterParenthesis_of_goesBy (plain x declared) flat nonempty goes
    have solid := documentationParameters_avoids written
    have ours : afterParenthesis (documentationId m) =
        documentationParameters m.parameters ++ [')'] := by
      have absent : '(' ∉ documentationParameters m.parameters ++ [')'] := by
        simp [solid.not_mem (c := '(') (by decide)]
      rw [afterParenthesis_documentationId callable some, signatureKey_eq,
        afterParenthesis_of_not_mem absent]
    intro same
    have same' : documentationId x = documentationId m := same
    rw [same', ours, List.append_left_inj] at theirs
    rw [← theirs] at blank
    cases (solid ' ' blank).1

end Sibling

/-- A method or constructor is found from a declaration beside it by its name and its parameters as
the language writes them, with the passing mode in front of each that is passed by reference,
exactly if none is. It is always found by its name and the parameter list of its documentation ID.
No declaration of the compilation may have a parenthesis in its plain key, which could then pass for
one with parameters. -/
theorem method_bound_iff_all_by_value (files : List SourceFile) (before after : List Declaration)
    (m d : Declaration) (list scope : Text) (member : declarations files = before ++ m :: after)
    (callable : m.kind = .method ∨ m.kind = .constructor) (named : IsName m.name)
    (written : ∀ p ∈ m.parameters, ∃ t : SimpleType, t.Spelled p.typeText)
    (innermost : (scopes d).head? = some scope) (here : DeclaredIn m scope)
    (listed : Text.Spaced (Text.separated (m.parameters.map fun p => [writtenParameter p])) list)
    (first : ∀ earlier ∈ before, ¬ GoesBy earlier (signatureKey m))
    (plain : ∀ x ∈ declarations files, '(' ∉ plainKey x) :
    ((bind (Index.ofFiles files) (escape (m.name ++ ['('] ++ list ++ [')'])) d).value =
        documentationId m ↔ ∀ p ∈ m.parameters, isByReference p = false) ∧
    (bind (Index.ofFiles files)
      (escape (m.name ++ ['('] ++ documentationParameters m.parameters ++ [')'])) d).value =
        documentationId m := by
  have asked := typeNames_written written listed
  have closes := parenthesis_not_mem_written_list written listed
  refine ⟨⟨?_, ?_⟩, ?_⟩
  · intro bound p declared
    -- One passing mode anywhere in the list leaves its blank in the key asked for.
    by_contra mode
    have byReference : isByReference p = true := by simpa using mode
    refine bind_ne_of_blank callable named plain written (List.ne_nil_of_mem declared) closes asked
      ?_ ?_ bound
    · exact Text.not_mem_join_map (by decide) fun p declared =>
        (typeName_written (written p declared)).1
    · exact Text.mem_join_of_mem (List.mem_map_of_mem declared)
        ((typeName_written (written p declared)).2 byReference)
  · intro byValue
    refine bind_of_key callable named member innermost here first closes ?_
    rw [asked]
    refine List.map_congr_left fun p declared => ?_
    rw [writtenParameter_of_value (byValue p declared), documentationParameter,
      byValue p declared]
    rfl
  · have inside := (documentationParameters_avoids written).not_mem (c := ')') (by decide)
    exact bind_of_key callable named member innermost here first inside
      (typeNames_documentationParameters written)

section Cell

def doubleType : SimpleType :=
  .keyword "double".toList "System.Double".toList (by decide)

def counts : SimpleType :=
  .array (.keyword "uint".toList "System.UInt32".toList (by decide)) 0

/-- Two overloads that differ in the passing mode of one parameter, and a field beside them. -/
def swapValue : Declaration :=
  { name := "Swap".toList, kind := .method, namespaceName := "Demo".toList
    containingTypes := ["Cell".toList]
    parameters :=
      [{ name := "value".toList, typeText := doubleType.spelling [] },
       { name := "counts".toList, typeText := counts.spelling [] }] }

def swapReference : Declaration :=
  { swapValue with
    parameters :=
      [{ name := "value".toList, typeText := doubleType.spelling [], modifier := some "ref".toList },
       { name := "counts".toList, typeText := counts.spelling [] }] }

def cellWidth : Declaration :=
  { name := "width".toList, kind := .field, namespaceName := "Demo".toList
    containingTypes := ["Cell".toList] }

def cellFiles : List SourceFile :=
  [⟨"Cell.cs".toList, [swapValue, swapReference, cellWidth]⟩]

theorem method_bound_iff_all_by_value_swap :
    (bind (Index.ofFiles cellFiles) "Swap(ref double, uint[])".toList cellWidth).value ≠
      documentationId swapReference ∧
    (bind (Index.ofFiles cellFiles) "Swap(System.Double@,System.UInt32[])".toList cellWidth).value =
      documentationId swapReference := by
  have written : ∀ p ∈ swapReference.parameters, ∃ t : SimpleType, t.Spelled p.typeText := by
    intro p member
    rcases List.mem_cons.1 member with rfl | member
    · exact ⟨doubleType, Text.spaced_spread _ _⟩
    · rw [List.mem_singleton.1 member]
      exact ⟨counts, Text.spaced_spread _ _⟩
  have modes : escape (swapReference.name ++ ['('] ++ Text.spread [0, 0, 1]
      (Text.separated (swapReference.parameters.map fun p => [writtenParameter p])) ++ [')']) =
      "Swap(ref double, uint[])".toList := by
    decide +kernel
  have marks : escape (swapReference.name ++ ['('] ++
      documentationParameters swapReference.parameters ++ [')']) =
      "Swap(System.Double@,System.UInt32[])".toList := by
    decide +kernel
  have both := method_bound_iff_all_by_value cellFiles [swapValue] [cellWidth] swapReference
    cellWidth _ "Demo.Cell".toList rfl (Or.inl rfl) (by decide) written (by decide) (by decide)
    (Text.spaced_spread [0, 0, 1] _) (by decide +kernel) (by decide +kernel)
  rw [modes, marks] at both
  exact ⟨fun bound => absurd (both.1.1 bound) (by decide), both.2⟩

/-- The method that takes a reference stays unbound where it is written as the language asks for,
and where the mode is left out the overload beside it is found. -/
theorem passing_mode_hides_method :
    documentationId swapReference = "M:Demo.Cell.Swap(System.Double@,System.UInt32[])".toList ∧
    (bind (Index.ofFiles cellFiles) "Swap(ref double, uint[])".toList cellWidth).value =
      "Swap(ref double, uint[])".toList ∧
    (bind (Index.ofFiles cellFiles) "Swap(double, uint[])".toList cellWidth).value =
      documentationId swapValue := by
  decide +kernel

end Cell

end DocReport.Compilation

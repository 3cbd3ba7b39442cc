import DocReport.Proofs.Compilation.BraceSpelling
import DocReport.Proofs.Symbol.Decoding

/-!
References to types that share a name. Documentation IDs tell such types apart by the number of
their type parameters, but keys and references drop type arguments, so a reference leads to the
type that is declared first, whatever arguments it has.
-/
namespace DocReport.Compilation

open DocReport.Symbol

/-- A reference to a type, with its type arguments in braces if there are any. -/
def typeReference (name : Text) (arguments : List Text) : Text :=
  if arguments.isEmpty then name
  else name ++ ['\x7b'] ++ Text.join [','] arguments ++ ['\x7d']

/-- Two types of one name and one number of type parameters, declared in the same place. -/
def SameType (x y : Declaration) : Prop :=
  (x.kind.isType = true ∧ y.kind.isType = true) ∧ x.namespaceName = y.namespaceName ∧
    x.containingTypes = y.containingTypes ∧ x.name = y.name ∧
    x.typeParameters.length = y.typeParameters.length

instance (x y : Declaration) : Decidable (SameType x y) :=
  inferInstanceAs (Decidable (_ ∧ _))

/-! ### The name asked for -/

theorem escape_eq_self {t : Text} (plain : ∀ c ∈ t, c ∉ escapedCharacters) : escape t = t := by
  induction t with
  | nil => rfl
  | cons c rest ih =>
    have first := escapeCharacter_of_not_mem (plain c List.mem_cons_self)
    have others := ih fun d member => plain d (List.mem_cons_of_mem _ member)
    rw [escape, List.flatMap_cons, first, ← escape, others]
    rfl

section Reference

variable {name : Text} {arguments : List Text} (named : IsIdentifier name)
  (identifiers : ∀ argument ∈ arguments, IsIdentifier argument)

include named identifiers

/-- A reference to a type is made of identifiers, commas and braces. -/
theorem typeReference_avoids :
    Text.Avoids ['(', ':', '&', '<', '>'] (typeReference name arguments) := by
  have plain : ∀ {t : Text}, IsIdentifier t → Text.Avoids ['(', ':', '&', '<', '>'] t :=
    fun identifier => Text.Avoids.mono identifier.2 (by decide)
  have inside : Text.Avoids ['(', ':', '&', '<', '>'] (Text.join [','] arguments) :=
    Text.Avoids.join (by decide) fun argument belongs => plain (identifiers argument belongs)
  unfold typeReference
  split
  · exact plain named
  · exact (((plain named).append (by decide)).append inside).append (by decide)

theorem dropArguments_typeReference : dropArguments (typeReference name arguments) = name := by
  unfold typeReference
  split
  · exact dropArguments_eq_self named.no_bracket
  · have inner : ∀ c ∈ Text.join [','] arguments, isArgumentBracket c = false := by
      intro c member
      rcases Text.mem_join member with comma | ⟨argument, belongs, inside⟩
      · rw [List.mem_singleton.1 comma]
        rfl
      · exact (identifiers argument belongs).no_bracket c inside
    have opened : ∀ r, dropArgumentsFrom 0 (['\x7b'] ++ r) = dropArgumentsFrom 1 r := fun _ => rfl
    rw [dropArguments, List.append_assoc, List.append_assoc,
      dropArgumentsFrom_append 0 named.no_bracket, if_pos rfl, opened,
      dropArgumentsFrom_append 1 inner, if_neg (by decide)]
    simp [dropArgumentsFrom]

/-- Whatever its arguments are, a reference to a type asks for the name alone. -/
theorem lookupName_typeReference : lookupName (typeReference name arguments) = name := by
  have plain := typeReference_avoids named identifiers
  have uncut := Text.cutFirst_of_not_mem (plain.not_mem (c := '(') (by decide))
  simp only [lookupName, uncut, Option.getD_none]
  rw [dropArguments_typeReference named identifiers, named.trim]

theorem bind_typeReference (files : List SourceFile) (d : Declaration) :
    (bind (Index.ofFiles files) (typeReference name arguments) d).value =
      ((search? files (scopes d) name).map documentationId).getD (typeReference name arguments) := by
  have plain := typeReference_avoids named identifiers
  have unmarked : hasMarker (Text.trim (typeReference name arguments)) = false := by
    rw [plain.trim, hasMarker, beq_eq_false_iff_ne]
    intro second
    exact plain.not_mem (by decide) (List.mem_of_getElem? second)
  have written : escape (typeReference name arguments) = typeReference name arguments := by
    refine escape_eq_self fun c member escaped => (plain c member).2 ?_
    have subset : escapedCharacters ⊆ ['(', ':', '&', '<', '>'] := by decide
    exact subset escaped
  have bound := bind_escape files unmarked d
  rwa [written, plain.trim, lookupName_typeReference named identifiers] at bound

end Reference

/-! ### The declaration that is found -/

theorem joinDots_concat_inj {parts : List Text} {s t : Text}
    (same : Text.joinDots (parts ++ [s]) = Text.joinDots (parts ++ [t])) : s = t := by
  rw [Text.joinDots, Text.joinDots] at same
  by_cases top : parts = []
  · rwa [top] at same
  · rw [Text.join_concat _ _ top, Text.join_concat _ _ top] at same
    exact List.append_cancel_left same

section Types

variable {x type : Declaration}

theorem goesBy_plainKey (isType : type.kind.isType = true) : GoesBy type (plainKey type) := by
  refine ⟨?_, Or.inl rfl⟩
  intro space
  rw [space] at isType
  cases isType

/-- Types in one place that go by one key have one name. -/
theorem name_eq_of_goesBy (isType : x.kind.isType = true)
    (space : x.namespaceName = type.namespaceName)
    (around : x.containingTypes = type.containingTypes) (goes : GoesBy x (plainKey type)) :
    x.name = type.name := by
  have parts : scopeParts x = scopeParts type := by rw [scopeParts, space, around, scopeParts]
  obtain ⟨-, same | ⟨callable, -⟩⟩ := goes
  · rw [plainKey, plainKey, parts] at same
    exact joinDots_concat_inj same
  · rcases callable with kind | kind <;> rw [kind] at isType <;> cases isType

theorem documentationId_of_type (isType : type.kind.isType = true) :
    documentationId type = kindLetter type.kind :: ':' :: Text.joinDots (enclosingSegments type ++
      [counted ['\x60'] type.name type.typeParameters.length]) := by
  have bare : trailer type = [] := if_pos isType
  rw [documentationId, qualifiedName_eq (goesBy_plainKey isType).1, bare, List.append_nil,
    ownSegment_of_type isType]

/-- Types in one place with one name and one documentation ID have as many type parameters. -/
theorem arity_eq_of_documentationId (named : IsIdentifier type.name)
    (isType : x.kind.isType = true) (isType' : type.kind.isType = true)
    (space : x.namespaceName = type.namespaceName)
    (around : x.containingTypes = type.containingTypes) (name : x.name = type.name)
    (same : documentationId x = documentationId type) :
    x.typeParameters.length = type.typeParameters.length := by
  have path : enclosingSegments x = enclosingSegments type := by
    rw [enclosingSegments, space, around, enclosingSegments]
  rw [documentationId_of_type isType, documentationId_of_type isType', path, name] at same
  have plain : '\x60' ∉ type.name := named.not_mem (by decide)
  have segments := joinDots_concat_inj (List.cons.inj (List.cons.inj same).2).2
  exact (counted_inj plain plain segments).2

/-- Among types in one place that differ in their numbers of type parameters, a type is found by
its key exactly if nothing before it goes by the key. -/
theorem first_eq_type_iff {before : List Declaration} (named : IsIdentifier type.name)
    (isType : type.kind.isType = true)
    (types : ∀ x ∈ before, GoesBy x (plainKey type) → x.kind.isType = true ∧
      x.namespaceName = type.namespaceName ∧ x.containingTypes = type.containingTypes)
    (distinct : ∀ x ∈ before, ¬ SameType x type) :
    documentationId ((before.find? (GoesBy · (plainKey type))).getD type) = documentationId type ↔
      ∀ earlier ∈ before, ¬ GoesBy earlier (plainKey type) := by
  cases found : before.find? (GoesBy · (plainKey type)) with
  | none =>
    refine ⟨fun _ earlier belongs => ?_, fun _ => rfl⟩
    simpa using List.find?_eq_none.1 found earlier belongs
  | some first =>
    have belongs := List.mem_of_find?_eq_some found
    have goes : GoesBy first (plainKey type) := by simpa using List.find?_some found
    refine ⟨fun same => ?_, fun none => absurd goes (none first belongs)⟩
    -- The IDs tell the two types apart by their numbers of type parameters only.
    obtain ⟨isType', space, around⟩ := types first belongs goes
    have name := name_eq_of_goesBy isType' space around goes
    have arity := arity_eq_of_documentationId named isType' isType space around name same
    exact absurd ⟨⟨isType', isType⟩, space, around, name, arity⟩ (distinct first belongs)

end Types

/-- A reference to a type, from a declaration whose innermost scope is the one the type is declared
in, is bound to the first declaration of that name there, with any type arguments. Where types alone
have the name, and no two of them have as many type parameters, it names the type exactly if the type
is declared before all others of the name. -/
theorem type_bound_iff_declared_first (files : List SourceFile) (before after : List Declaration)
    (type d : Declaration) (scope : Text) (arguments : List Text)
    (member : declarations files = before ++ type :: after) (isType : type.kind.isType = true)
    (named : IsIdentifier type.name)
    (identifiers : ∀ argument ∈ arguments, IsIdentifier argument)
    (innermost : (scopes d).head? = some scope) (here : DeclaredIn type scope) :
    (bind (Index.ofFiles files) (typeReference type.name arguments) d).value =
      documentationId ((before.find? (GoesBy · (plainKey type))).getD type) ∧
    ((∀ x ∈ declarations files, GoesBy x (plainKey type) → x.kind.isType = true ∧
        x.namespaceName = type.namespaceName ∧ x.containingTypes = type.containingTypes) →
      (declarations files).Pairwise (fun x y => ¬ SameType x y) →
      ((bind (Index.ofFiles files) (typeReference type.name arguments) d).value =
          documentationId type ↔ ∀ earlier ∈ before, ¬ GoesBy earlier (plainKey type))) := by
  have bound : (bind (Index.ofFiles files) (typeReference type.name arguments) d).value =
      documentationId ((before.find? (GoesBy · (plainKey type))).getD type) := by
    obtain ⟨outer, enclosing⟩ := List.head?_eq_some_iff.1 innermost
    have own := goesBy_plainKey isType
    rw [bind_typeReference named identifiers, search?, enclosing, List.findSome?_cons,
      ← plainKey_of_declaredIn here, member, List.find?_append]
    cases before.find? (GoesBy · (plainKey type)) with
    | some first => rfl
    | none => simp [own]
  refine ⟨bound, fun types distinct => ?_⟩
  rw [bound]
  refine first_eq_type_iff named isType (fun x belongs => types x (by simp [member, belongs])) ?_
  rw [member, List.pairwise_append] at distinct
  exact fun x belongs => distinct.2.2 x belongs type List.mem_cons_self

section Results

/-- Two types of one name in a class, and a field of the class. -/
def plainResult : Declaration :=
  { name := "Result".toList, kind := .classKind, namespaceName := "Demo".toList
    containingTypes := ["Outcome".toList] }

def genericResult : Declaration :=
  { plainResult with kind := .structKind, typeParameters := ["Value".toList] }

def lastOutcome : Declaration :=
  { name := "last".toList, kind := .field, namespaceName := "Demo".toList
    containingTypes := ["Outcome".toList] }

def resultFiles : List SourceFile :=
  [⟨"Result.cs".toList, [plainResult]⟩, ⟨"Outcome.cs".toList, [genericResult, lastOutcome]⟩]

theorem type_bound_iff_declared_first_result :
    (bind (Index.ofFiles resultFiles) "Result".toList lastOutcome).value =
      documentationId plainResult ∧
    (bind (Index.ofFiles resultFiles) "Result\x7bValue\x7d".toList lastOutcome).value ≠
      documentationId genericResult := by
  have first := type_bound_iff_declared_first resultFiles [] [genericResult, lastOutcome]
    plainResult lastOutcome "Demo.Outcome".toList [] rfl (by decide) (by decide) (by decide)
    (by decide) (by decide)
  have second := type_bound_iff_declared_first resultFiles [plainResult] [lastOutcome]
    genericResult lastOutcome "Demo.Outcome".toList ["Value".toList] rfl (by decide) (by decide)
    (by decide) (by decide) (by decide)
  refine ⟨((first.2 (by decide) (by decide)).2 (by decide)), fun bound => ?_⟩
  exact (second.2 (by decide) (by decide)).1 bound plainResult (by decide) (by decide)

/-- With one type parameter asked for, the type without any is found, since its file comes first;
in the other order the type with one is found where none is asked for. -/
theorem arity_not_looked_at :
    resultFiles.flatMap (·.declarations.map documentationId) =
      ["T:Demo.Outcome.Result".toList, "T:Demo.Outcome.Result\x601".toList,
        "F:Demo.Outcome.last".toList] ∧
    (bind (Index.ofFiles resultFiles) "Result\x7bValue\x7d".toList lastOutcome).value =
      "T:Demo.Outcome.Result".toList ∧
    (bind (Index.ofFiles resultFiles.reverse) "Result".toList lastOutcome).value =
      "T:Demo.Outcome.Result\x601".toList := by
  decide

end Results

end DocReport.Compilation

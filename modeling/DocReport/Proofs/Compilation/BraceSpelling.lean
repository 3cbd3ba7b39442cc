import DocReport.Proofs.Compilation.Overload
import DocReport.Proofs.Symbol.Braces

/-!
References whose type arguments are written in braces. Those of the name itself are dropped either
way, so the spelling decides at the types of the parameter list only: a reference in braces is bound
like the one in angle brackets in every compilation exactly if the arguments of each parameter type
are written as documentation IDs have them.
-/
namespace DocReport.Compilation

open DocReport.Symbol

/-- Two references are bound to the same documentation ID, or both stay as they are. -/
def BoundAlike (index : Index) (d : Declaration) (first second : Text) : Prop :=
  (bind index first d).value = (bind index second d).value ∨
    (bind index first d).value = first ∧ (bind index second d).value = second

/-- A reference to something with parameters. -/
def call (name : Text) (parts : List Text) : Text :=
  name ++ ['('] ++ Text.join [','] parts ++ [')']

/-! ### Documentation IDs say themselves what they name -/

theorem unescape_cons {c : Char} (plain : c ≠ '&') (t : Text) :
    unescape (c :: t) = c :: unescape t := by
  have passes : ∀ s, unescape s = Text.replace (escapeCharacter '&') ['&']
      (Text.replace (escapeCharacter '<') ['<'] (Text.replace (escapeCharacter '>') ['>'] s)) :=
    fun _ => rfl
  rw [passes, passes]
  unfold Text.replace
  rw [replaceFrom_plain (by decide) plain, replaceFrom_plain (by decide) plain,
    replaceFrom_plain (by decide) plain]

theorem hasMarker_documentationId (d : Declaration) :
    hasMarker (Text.trim (unescape (documentationId d))) = true := by
  have letter : kindLetter d.kind ≠ '&' ∧ Text.isBlank (kindLetter d.kind) = false := by
    cases d.kind <;> decide
  have start : Text.trimStart (kindLetter d.kind :: ':' :: unescape (qualifiedName d)) =
      [kindLetter d.kind] ++ ':' :: unescape (qualifiedName d) :=
    List.dropWhile_cons_of_neg (by simp [letter.2])
  rw [documentationId, unescape_cons letter.1, unescape_cons (by decide), Text.trim, start,
    Text.trimEnd, Text.dropTail_append_kept (by decide)]
  rfl

/-- A reference that carries no marker does not read like a documentation ID. -/
theorem escape_ne_documentationId {t : Text} (unmarked : hasMarker (Text.trim t) = false)
    (d : Declaration) : escape t ≠ documentationId d := by
  intro same
  have marked := hasMarker_documentationId d
  rw [← same, unescape_escape, unmarked] at marked
  cases marked

/-! ### The keys asked for -/

section Call

variable {name : Text} {types : List SimpleType} {parts : List Text}

theorem trim_call_of_name (name list : Text) :
    Text.trim (name ++ ['('] ++ list ++ [')']) = Text.trimStart name ++ ['('] ++ list ++ [')'] := by
  rw [Text.trim_append_solid (by decide) Text.isGap_nil, List.append_assoc, List.append_assoc,
    List.singleton_append, Text.trimStart_append_solid (by decide)]
  simp

/-- The key asked for names each parameter by its type. -/
theorem lookupName_parts (opens : '(' ∉ name) (closes : ∀ part ∈ parts, ')' ∉ part)
    (each : ∀ part ∈ parts, Names part (typeName part)) :
    lookupName (Text.trim (call name parts)) =
      Text.trim (dropArguments (Text.trimStart name)) ++ ['('] ++
        Text.join [','] (parts.map typeName) ++ [')'] := by
  have opens' : '(' ∉ Text.trimStart name := fun member =>
    opens ((List.dropWhile_sublist _).mem member)
  have closes' : ')' ∉ Text.join [','] parts := by
    have inside := Text.not_mem_join_map (f := id) (by decide : ')' ∉ [',']) closes
    rwa [List.map_id] at inside
  have named : List.Forall₂ Names parts (parts.map typeName) := by
    rw [List.forall₂_map_right_iff, List.forall₂_same]
    exact each
  rw [call, trim_call_of_name, lookupName_list opens' closes', typeNames_join named]

theorem braced_call (name : Text) (parts : List Text) :
    braced (call name parts) = call (braced name) (parts.map braced) := by
  rw [call, braced_append, braced_append, braced_append, braced_join]
  rfl

theorem hasMarker_braced (t : Text) : hasMarker (braced t) = hasMarker t := by
  rw [hasMarker, hasMarker, braced, List.getElem?_map, Bool.eq_iff_iff, beq_iff_eq, beq_iff_eq]
  cases t[1]? with
  | none => simp
  | some c =>
    rw [Option.map_some, Option.some_inj, Option.some_inj]
    exact braceOf_eq_iff (by decide)

variable (spelled : List.Forall₂ SimpleType.Spelled types parts)

include spelled

theorem exists_spelled : ∀ part ∈ parts, ∃ t : SimpleType, t.Spelled part := by
  induction spelled with
  | nil => simp
  | cons first _ ih => exact List.forall_mem_cons.2 ⟨⟨_, first⟩, ih⟩

theorem parenthesis_not_mem_parts : ∀ part ∈ parts, ')' ∉ part := by
  intro part listed member
  obtain ⟨t, own⟩ := exists_spelled spelled part listed
  rcases Text.Spaced.mem own member with space | ⟨token, belongs, inside⟩
  · cases space
  · exact t.parenthesis_not_mem_tokens token belongs inside

theorem lookupName_angles (opens : '(' ∉ name) :
    lookupName (Text.trim (call name parts)) =
      Text.trim (dropArguments (Text.trimStart name)) ++ ['('] ++
        Text.join [','] (parts.map typeName) ++ [')'] := by
  refine lookupName_parts opens (parenthesis_not_mem_parts spelled) fun part listed => ?_
  obtain ⟨t, own⟩ := exists_spelled spelled part listed
  have named := t.names_of_spelled part own
  exact ⟨named.whole, named.solid, rfl⟩

/-- In braces the same name is asked for, with the types as they come out in braces. -/
theorem lookupName_braces (opens : '(' ∉ name) :
    lookupName (Text.trim (braced (call name parts))) =
      Text.trim (dropArguments (Text.trimStart name)) ++ ['('] ++
        Text.join [','] (parts.map fun part => typeName (braced part)) ++ [')'] := by
  have simple : dropArguments (Text.trimStart (braced name)) =
      dropArguments (Text.trimStart name) := by
    rw [trimStart_braced, dropArguments_braced]
  rw [braced_call, lookupName_parts, simple, List.map_map]
  · rfl
  · rwa [mem_braced_iff (by decide)]
  · intro part listed
    obtain ⟨own, belongs, rfl⟩ := List.mem_map.1 listed
    rw [mem_braced_iff (by decide)]
    exact parenthesis_not_mem_parts spelled own belongs
  · intro part listed
    obtain ⟨own, belongs, rfl⟩ := List.mem_map.1 listed
    obtain ⟨t, spelled⟩ := exists_spelled spelled own belongs
    have named := t.names_of_spelled own spelled
    refine ⟨named.whole.braced, ?_, rfl⟩
    rw [trim_braced, braced, Ne, List.map_eq_nil_iff]
    exact named.solid

theorem typeNames_braced_iff :
    (∀ part ∈ parts, typeName (braced part) = typeName part) ↔
      List.Forall₂ SimpleType.WrittenAsNamed types parts := by
  induction spelled with
  | nil => simp
  | cons first _ ih =>
    rw [List.forall_mem_cons, List.forall₂_cons, ih, SimpleType.typeName_braced_iff _ first]

/-- Both spellings ask for one key exactly if all arguments are written as they are named. -/
theorem lookupName_braces_iff (opens : '(' ∉ name) :
    lookupName (Text.trim (braced (call name parts))) = lookupName (Text.trim (call name parts)) ↔
      List.Forall₂ SimpleType.WrittenAsNamed types parts := by
  have braces : ∀ part ∈ parts, Whole 0 (typeName (braced part)) := by
    intro part listed
    obtain ⟨t, own⟩ := exists_spelled spelled part listed
    exact t.whole_typeName_braced own
  have angles : ∀ part ∈ parts, Whole 0 (typeName part) := by
    intro part listed
    obtain ⟨t, own⟩ := exists_spelled spelled part listed
    rw [(t.names_of_spelled part own).named]
    exact t.whole_documentationName
  rw [lookupName_braces spelled opens, lookupName_angles spelled opens, List.append_left_inj,
    List.append_right_inj, join_map_eq_iff braces angles, typeNames_braced_iff spelled]

end Call

/-! ### What is bound -/

theorem bind_escape (files : List SourceFile) {t : Text}
    (unmarked : hasMarker (Text.trim t) = false) (d : Declaration) :
    (bind (Index.ofFiles files) (escape t) d).value =
      ((search? files (scopes d) (lookupName (Text.trim t))).map documentationId).getD
        (escape t) := by
  rw [bind_value, resolve?_ofFiles, unescape_escape, unmarked]
  rfl

/-- A method alone outside of all types, whose parameters are written as given. -/
def loneMethod (name : Text) (parts : List Text) : Declaration :=
  { name, kind := .method, parameters := parts.map fun part => { name := [], typeText := part } }

theorem goesBy_loneMethod_iff (name list : Text) (parts : List Text) :
    GoesBy (loneMethod name parts) (name ++ ['('] ++ list ++ [')']) ↔
      Text.join [','] (parts.map typeName) = list := by
  have parameters : documentationParameters (loneMethod name parts).parameters =
      Text.join [','] (parts.map typeName) := by
    rw [documentationParameters, loneMethod, List.map_map]
    rfl
  have plain : plainKey (loneMethod name parts) = name := rfl
  unfold GoesBy
  rw [parameters, plain]
  constructor
  · rintro ⟨-, short | ⟨-, same⟩⟩
    · simp at short
    · rwa [List.append_left_inj, List.append_right_inj] at same
  · rintro rfl
    exact ⟨by simp [loneMethod], Or.inr ⟨Or.inl rfl, rfl⟩⟩

/-- From a method that is alone, a key finds the method or nothing. -/
theorem search_loneMethod (name key : Text) (parts : List Text) :
    search? [⟨[], [loneMethod name parts]⟩] (scopes (loneMethod name parts)) key =
      if GoesBy (loneMethod name parts) key then some (loneMethod name parts) else none := by
  have around : scopes (loneMethod name parts) = [[]] := rfl
  have all : declarations [⟨[], [loneMethod name parts]⟩] = [loneMethod name parts] := rfl
  have own : qualify [] key = key := rfl
  rw [search?, around, all, List.findSome?_cons, own, List.find?_singleton]
  by_cases goes : GoesBy (loneMethod name parts) key
  · simp [goes]
  · simp [goes]

/-- From a method that is alone, a reference is bound to it exactly if it goes by the key. -/
theorem bind_loneMethod_iff (name : Text) (parts : List Text) {t : Text}
    (unmarked : hasMarker (Text.trim t) = false) :
    (bind (Index.ofFiles [⟨[], [loneMethod name parts]⟩]) (escape t) (loneMethod name parts)).value =
      documentationId (loneMethod name parts) ↔
      GoesBy (loneMethod name parts) (lookupName (Text.trim t)) := by
  rw [bind_escape _ unmarked, search_loneMethod]
  by_cases goes : GoesBy (loneMethod name parts) (lookupName (Text.trim t))
  · simp [goes]
  · simp [goes, escape_ne_documentationId unmarked]

/-- A reference with a parameter list of simple types, written with braces for angle brackets, is
bound like the one with angle brackets in every compilation and from every declaration exactly if
the type arguments in the list are written as documentation IDs have them: no keyword and no
annotation is among them, and no space is in or before them. The type arguments of the name itself
may be written either way. -/
theorem braces_bound_alike_iff (name : Text) (types : List SimpleType) (parts : List Text)
    (opens : '(' ∉ name) (spelled : List.Forall₂ SimpleType.Spelled types parts)
    (unmarked : hasMarker (Text.trim (call name parts)) = false) :
    (∀ (files : List SourceFile) (d : Declaration), BoundAlike (Index.ofFiles files) d
      (escape (braced (call name parts))) (escape (call name parts))) ↔
      List.Forall₂ SimpleType.WrittenAsNamed types parts := by
  have unmarked' : hasMarker (Text.trim (braced (call name parts))) = false := by
    rw [trim_braced, hasMarker_braced, unmarked]
  rw [← lookupName_braces_iff spelled opens]
  constructor
  · intro alike
    -- The method that the angle brackets name is all there is; the braces have to find it too.
    let method := loneMethod (Text.trim (dropArguments (Text.trimStart name))) parts
    have angles : (bind (Index.ofFiles [⟨[], [method]⟩]) (escape (call name parts)) method).value =
        documentationId method := by
      rw [bind_loneMethod_iff _ _ unmarked, lookupName_angles spelled opens]
      exact (goesBy_loneMethod_iff _ _ parts).2 rfl
    have braces : (bind (Index.ofFiles [⟨[], [method]⟩]) (escape (braced (call name parts)))
        method).value = documentationId method := by
      rcases alike [⟨[], [method]⟩] method with same | ⟨-, unbound⟩
      · rw [same, angles]
      · rw [angles] at unbound
        exact absurd unbound.symm (escape_ne_documentationId unmarked method)
    have found := (bind_loneMethod_iff _ _ unmarked').1 braces
    rw [lookupName_braces spelled opens] at found ⊢
    rw [lookupName_angles spelled opens, (goesBy_loneMethod_iff _ _ parts).1 found]
  · intro same files d
    unfold BoundAlike
    rw [bind_escape files unmarked', bind_escape files unmarked, same]
    cases search? files (scopes d) (lookupName (Text.trim (call name parts))) with
    | none => exact Or.inr ⟨rfl, rfl⟩
    | some target => exact Or.inl rfl

section Sheet

/-- The type `Grid<Key,Cell[,]>[]`, in whose arguments are paths and a rank only. -/
def gridsType : SimpleType :=
  .array (.generic ⟨"Grid".toList, by decide, by decide⟩
    [.path ⟨"Key".toList, by decide, by decide⟩ (by decide),
     .array (.path ⟨"Cell".toList, by decide, by decide⟩ (by decide)) 1]) 0

/-- The type `Rows<long>`. -/
def rowsType : SimpleType :=
  .generic ⟨"Rows".toList, by decide, by decide⟩
    [.keyword "long".toList "System.Int64".toList (by decide)]

/-- Two overloads of a method in a generic class, and a field of the class. -/
def fillGrids : Declaration :=
  { name := "Fill".toList, kind := .method, namespaceName := "Demo".toList
    containingTypes := ["Sheet<T>".toList]
    parameters := [{ name := "grids".toList, typeText := gridsType.spelling [0, 0, 0, 0, 1] }] }

def fillRows : Declaration :=
  { name := "Fill".toList, kind := .method, namespaceName := "Demo".toList
    containingTypes := ["Sheet<T>".toList]
    parameters := [{ name := "rows".toList, typeText := rowsType.spelling [] }] }

def sheetSize : Declaration :=
  { name := "size".toList, kind := .field, namespaceName := "Demo".toList
    containingTypes := ["Sheet<T>".toList] }

def sheetFiles : List SourceFile :=
  [⟨"Sheet.cs".toList, [fillRows, fillGrids, sheetSize]⟩]

theorem braces_bound_alike_iff_grids :
    escape (braced (call "Sheet<T>.Fill<U>".toList [gridsType.spelling []])) =
      "Sheet\x7bT\x7d.Fill\x7bU\x7d(Grid\x7bKey,Cell[,]\x7d[])".toList ∧
    BoundAlike (Index.ofFiles sheetFiles) sheetSize
      (escape (braced (call "Sheet<T>.Fill<U>".toList [gridsType.spelling []])))
      (escape (call "Sheet<T>.Fill<U>".toList [gridsType.spelling []])) ∧
    (bind (Index.ofFiles sheetFiles)
      (escape (call "Sheet<T>.Fill<U>".toList [gridsType.spelling []])) sheetSize).value =
      documentationId fillGrids := by
  refine ⟨by decide +kernel, ?_, by decide +kernel⟩
  exact (braces_bound_alike_iff "Sheet<T>.Fill<U>".toList [gridsType] [gridsType.spelling []]
    (by decide) (.cons (Text.spaced_spread _ _) .nil) (by decide +kernel)).2
    (.cons ⟨by decide +kernel, by decide +kernel⟩ .nil) sheetFiles sheetSize

/-- A keyword in braces is not translated: in angle brackets the method is found, in braces it is
not. -/
theorem braces_hide_keyword :
    rowsType.Spelled "Rows<long>".toList ∧
    (bind (Index.ofFiles sheetFiles) "Fill(Rows&lt;long&gt;)".toList sheetSize).value =
      documentationId fillRows ∧
    (bind (Index.ofFiles sheetFiles) "Fill(Rows\x7blong\x7d)".toList sheetSize).value =
      "Fill(Rows\x7blong\x7d)".toList ∧
    ¬ BoundAlike (Index.ofFiles sheetFiles) sheetSize
      (escape (braced (call "Fill".toList ["Rows<long>".toList])))
      (escape (call "Fill".toList ["Rows<long>".toList])) := by
  have spelled : rowsType.Spelled (rowsType.spelling []) := Text.spaced_spread _ _
  have text : rowsType.spelling [] = "Rows<long>".toList := by decide +kernel
  refine ⟨text ▸ spelled, by decide +kernel, by decide +kernel, ?_⟩
  unfold BoundAlike
  decide +kernel

end Sheet

end DocReport.Compilation

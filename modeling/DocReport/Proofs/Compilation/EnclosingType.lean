import DocReport.Proofs.Compilation.Search
import DocReport.Proofs.Symbol.Identifier

/-!
A type named by its simple name from inside. The innermost scope of a member is its type, so the
simple name is first looked for among the members of the type. A constructor is a member that goes
by the name of its type: where there is one it is found, else the search reaches the type itself.
-/
namespace DocReport.Compilation

open DocReport.Symbol

/-- Scopes from their parts, innermost first. -/
def scopesOf (parts : List Text) : List Text :=
  (List.range (parts.length + 1)).reverse.map fun n => Text.joinDots (parts.take n)

theorem scopesOf_concat (parts : List Text) (part : Text) :
    scopesOf (parts ++ [part]) = Text.joinDots (parts ++ [part]) :: scopesOf parts := by
  have inner : ∀ n ∈ (List.range (parts.length + 1)).reverse,
      Text.joinDots ((parts ++ [part]).take n) = Text.joinDots (parts.take n) := by
    intro n member
    have bound : n ≤ parts.length := by
      simp only [List.mem_reverse, List.mem_range] at member
      omega
    rw [List.take_append_of_le_length bound]
  rw [scopesOf, List.length_append, List.length_singleton, List.range_succ, List.reverse_append,
    List.map_append, List.map_congr_left inner]
  simp [scopesOf, List.take_of_length_le]

theorem scopesOf_eq_cons (parts : List Text) :
    ∃ outer, scopesOf parts = Text.joinDots parts :: outer := by
  refine ⟨(List.range parts.length).reverse.map fun n => Text.joinDots (parts.take n), ?_⟩
  simp [scopesOf, List.range_succ]

theorem scopes_of_member {d : Declaration} (member : d.kind.isType = false) :
    scopes d = scopesOf (scopeParts d) := by
  simp [scopes, scopesOf, member]

/-- A reference that is an identifier asks for itself. -/
theorem lookupName_identifier {name : Text} (identifier : IsIdentifier name) :
    lookupName name = name := by
  have uncut := Text.cutFirst_of_not_mem (identifier.not_mem (c := '(') (by decide))
  simp only [lookupName, uncut, Option.getD_none]
  rw [dropArguments_eq_self identifier.no_bracket, identifier.trim]

theorem unescape_identifier {name : Text} (identifier : IsIdentifier name) :
    unescape name = name := by
  have absent : '&' ∉ name := identifier.not_mem (by decide)
  have keep : ∀ word replacement : Text,
      Text.replace ('&' :: word) replacement name = name :=
    fun word replacement => Text.replace_of_not_mem absent
  have greater := keep "gt;".toList ['>']
  have less := keep "lt;".toList ['<']
  have ampersand := keep "amp;".toList ['&']
  calc unescape name
      = Text.replace "&amp;".toList ['&'] (Text.replace "&lt;".toList ['<'] name) :=
        congrArg (fun t => Text.replace "&amp;".toList ['&']
          (Text.replace "&lt;".toList ['<'] t)) greater
    _ = Text.replace "&amp;".toList ['&'] name :=
        congrArg (Text.replace "&amp;".toList ['&']) less
    _ = name := ampersand

theorem hasMarker_identifier {name : Text} (identifier : IsIdentifier name) :
    hasMarker name = false := by
  have absent : ':' ∉ name := identifier.not_mem (by decide)
  rw [hasMarker, beq_eq_false_iff_ne]
  intro second
  exact absent (List.mem_of_getElem? second)

/-- Binding an identifier is a search for that very name. -/
theorem bind_identifier (files : List SourceFile) {name : Text} (identifier : IsIdentifier name)
    (d : Declaration) :
    (bind (Index.ofFiles files) name d).value =
      ((search? files (scopes d) name).map documentationId).getD name := by
  rw [bind_value, resolve?_ofFiles, unescape_identifier identifier, identifier.trim,
    hasMarker_identifier identifier, lookupName_identifier identifier]
  rfl

/-- A declaration stands directly inside a type: in its namespace, and in the types around it and
then the type itself, by its display name. -/
def StandsIn (d type : Declaration) : Prop :=
  d.namespaceName = type.namespaceName ∧
    d.containingTypes = type.containingTypes ++ [displayName type.name type.typeParameters]

instance (d type : Declaration) : Decidable (StandsIn d type) :=
  inferInstanceAs (Decidable (_ ∧ _))

theorem scopeParts_of_standsIn {d type : Declaration} (inside : StandsIn d type)
    (plain : ∀ c ∈ type.name, isArgumentBracket c = false)
    (parameters : ∀ p ∈ type.typeParameters, ∀ c ∈ p, isArgumentBracket c = false) :
    scopeParts d = scopeParts type ++ [type.name] := by
  simp only [scopeParts, inside.1, inside.2, List.map_append, List.map_cons, List.map_nil,
    dropArguments_displayName plain parameters, List.append_assoc]

theorem qualify_joinDots {parts : List Text} (nameable : ∀ part ∈ parts, part ≠ []) (name : Text) :
    qualify (Text.joinDots parts) name = Text.joinDots (parts ++ [name]) := by
  cases parts with
  | nil => rfl
  | cons first rest =>
    have solid : Text.joinDots (first :: rest) ≠ [] := by
      have present := nameable first List.mem_cons_self
      cases rest with
      | nil => exact present
      | cons second rest => simp [Text.joinDots, Text.join_cons_cons, present]
    have scope : (Text.joinDots (first :: rest)).isEmpty = false := by simpa using solid
    rw [qualify, scope, Text.joinDots, Text.joinDots, Text.join_concat _ _ (by simp)]
    simp

theorem scopeParts_nonempty {d : Declaration}
    (around : ∀ display ∈ d.containingTypes, dropArguments display ≠ []) :
    ∀ part ∈ scopeParts d, part ≠ [] := by
  intro part member
  rcases List.mem_append.1 member with space | type
  · simpa [namespaceParts] using (List.mem_filter.1 space).2
  · obtain ⟨display, belongs, rfl⟩ := List.mem_map.1 type
    exact around display belongs

/-- The name of a type as one of its own members would have it. -/
def ownKey (type : Declaration) : Text :=
  plainKey type ++ ['.'] ++ type.name

theorem plainKey_ne_nil {d : Declaration} (named : IsIdentifier d.name) : plainKey d ≠ [] := by
  intro empty
  unfold plainKey Text.joinDots at empty
  by_cases top : scopeParts d = []
  · rw [top] at empty
    exact named.1 empty
  · rw [Text.join_concat _ _ top] at empty
    simp at empty

/-- What has the name of a type and stands directly inside it goes by the type's own key. -/
theorem goesBy_ownKey {d type : Declaration} (inside : StandsIn d type) (same : d.name = type.name)
    (named : IsIdentifier type.name) (parameters : ∀ p ∈ type.typeParameters, IsIdentifier p)
    (declared : d.kind ≠ .namespaceKind) : GoesBy d (ownKey type) := by
  refine ⟨declared, Or.inl ?_⟩
  rw [plainKey, scopeParts_of_standsIn inside named.no_bracket fun p member =>
    (parameters p member).no_bracket, same, Text.joinDots, Text.join_concat _ _ (by simp)]
  rfl

/-- From inside a type its simple name finds what goes by the type's own key, else the type. -/
theorem search_own_name {files : List SourceFile} {type d : Declaration}
    (named : IsIdentifier type.name) (parameters : ∀ p ∈ type.typeParameters, IsIdentifier p)
    (around : ∀ display ∈ type.containingTypes, dropArguments display ≠ [])
    (first : (declarations files).find? (GoesBy · (plainKey type)) = some type)
    (inside : StandsIn d type) (member : d.kind.isType = false) :
    search? files (scopes d) type.name =
      some (((declarations files).find? (GoesBy · (ownKey type))).getD type) := by
  obtain ⟨outer, enclosing⟩ := scopesOf_eq_cons (scopeParts type)
  have innermost : qualify (Text.joinDots (scopeParts type ++ [type.name])) type.name =
      ownKey type := by
    have scope : (plainKey type).isEmpty = false := by simpa using plainKey_ne_nil named
    change qualify (plainKey type) type.name = ownKey type
    rw [qualify, scope]
    rfl
  rw [scopes_of_member member, scopeParts_of_standsIn inside named.no_bracket fun p member =>
    (parameters p member).no_bracket, scopesOf_concat, enclosing, search?, List.findSome?_cons,
    innermost]
  cases found : (declarations files).find? (GoesBy · (ownKey type)) with
  | some own => rfl
  | none =>
    have reached : (declarations files).find?
        (GoesBy · (Text.joinDots (scopeParts type ++ [type.name]))) = some type := first
    simp only [Option.getD_none]
    rw [List.findSome?_cons, qualify_joinDots (scopeParts_nonempty around), reached]

theorem documentationId_constructor_ne {constructor type : Declaration}
    (builds : constructor.kind = .constructor) (declares : type.kind.isType = true) :
    documentationId constructor ≠ documentationId type := by
  have letter : kindLetter type.kind = 'T' := by
    cases same : type.kind <;> simp_all [Kind.isType, kindLetter]
  have own : kindLetter constructor.kind = 'M' := by rw [builds]; rfl
  simp [documentationId, letter, own]

/-- If only constructors go by the own key of a type, the type is reached exactly if none does. -/
theorem reaches_type_iff {ds : List Declaration} {type : Declaration}
    (declares : type.kind.isType = true)
    (builders : ∀ other ∈ ds, GoesBy other (ownKey type) → other.kind = .constructor) :
    documentationId ((ds.find? (GoesBy · (ownKey type))).getD type) = documentationId type ↔
      ∀ other ∈ ds, other.kind = .constructor → ¬ GoesBy other (ownKey type) := by
  cases found : ds.find? (GoesBy · (ownKey type)) with
  | none =>
    refine ⟨fun _ other belongs _ => ?_, fun _ => rfl⟩
    simpa using List.find?_eq_none.1 found other belongs
  | some own =>
    have belongs := List.mem_of_find?_eq_some found
    have goes : GoesBy own (ownKey type) := by simpa using List.find?_some found
    have builds := builders own belongs goes
    constructor
    · intro same
      exact absurd same (documentationId_constructor_ne builds declares)
    · intro free
      exact absurd goes (free own belongs builds)

/-- The simple name of a type, in the documentation of a member, is bound to the first declaration
that goes by the type's own key, and to the type itself only if there is none. Where constructors
alone may share the name of their type, it names the type exactly if the type has no constructor. -/
theorem own_type_bound_iff_no_constructor (files : List SourceFile) (type d : Declaration)
    (declares : type.kind ∈ [.classKind, .structKind, .recordKind, .interfaceKind])
    (named : IsIdentifier type.name) (parameters : ∀ p ∈ type.typeParameters, IsIdentifier p)
    (around : ∀ display ∈ type.containingTypes, dropArguments display ≠ [])
    (first : (declarations files).find? (GoesBy · (plainKey type)) = some type)
    (inside : StandsIn d type) (member : d.kind.isType = false) :
    (bind (Index.ofFiles files) type.name d).value =
      documentationId (((declarations files).find? (GoesBy · (ownKey type))).getD type) ∧
    ((∀ other ∈ declarations files, GoesBy other (ownKey type) → other.kind = .constructor) →
      ((bind (Index.ofFiles files) type.name d).value = documentationId type ↔
        ∀ other ∈ declarations files, other.kind = .constructor → ¬ GoesBy other (ownKey type)) ∧
      ∀ other ∈ declarations files, other.kind = .constructor → StandsIn other type →
        other.name = type.name →
        (bind (Index.ofFiles files) type.name d).value ≠ documentationId type) := by
  have isType : type.kind.isType = true := by
    simp only [List.mem_cons, List.not_mem_nil, or_false] at declares
    rcases declares with kind | kind | kind | kind <;> rw [kind] <;> rfl
  have bound : (bind (Index.ofFiles files) type.name d).value =
      documentationId (((declarations files).find? (GoesBy · (ownKey type))).getD type) := by
    rw [bind_identifier files named, search_own_name named parameters around first inside member]
    rfl
  refine ⟨bound, fun builders => ?_⟩
  have reached := reaches_type_iff isType builders
  rw [← bound] at reached
  refine ⟨reached, ?_⟩
  intro other belongs builds stands same names
  have declared : other.kind ≠ .namespaceKind := by simp [builds]
  exact reached.1 names other belongs builds
    (goesBy_ownKey stands same named parameters declared)

/-- A generic class, a property of it and a constructor of it. -/
def box : Declaration :=
  { name := "Box".toList, kind := .classKind, namespaceName := "Demo".toList
    typeParameters := ["T".toList] }

def boxContent : Declaration :=
  { name := "Content".toList, kind := .property, namespaceName := "Demo".toList
    containingTypes := ["Box<T>".toList] }

def boxConstructor : Declaration :=
  { name := "Box".toList, kind := .constructor, namespaceName := "Demo".toList
    containingTypes := ["Box<T>".toList] }

theorem own_type_bound_without_constructor :
    (bind (Index.ofFiles [⟨"Box.cs".toList, [box, boxContent]⟩]) "Box".toList boxContent).value =
      documentationId box :=
  ((own_type_bound_iff_no_constructor [⟨"Box.cs".toList, [box, boxContent]⟩] box boxContent
    (by decide) (by decide) (by decide) (by decide) (by decide) (by decide) (by decide)).2
    (by decide)).1.2 (by decide)

/-- With a constructor the same reference is bound to the constructor. -/
theorem own_type_hidden_by_constructor :
    (declarations [⟨"Box.cs".toList, [box, boxContent, boxConstructor]⟩]).find?
      (GoesBy · (plainKey box)) = some box ∧
    StandsIn boxContent box ∧
    (∀ other ∈ declarations [⟨"Box.cs".toList, [box, boxContent, boxConstructor]⟩],
      StandsIn other box → other.name = box.name → other.kind = .constructor) ∧
    (bind (Index.ofFiles [⟨"Box.cs".toList, [box, boxContent, boxConstructor]⟩])
      "Box".toList boxContent).value = "M:Demo.Box\x601.#ctor".toList := by
  decide

end DocReport.Compilation

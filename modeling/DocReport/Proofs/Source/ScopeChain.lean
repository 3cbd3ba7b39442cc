import DocReport.Proofs.Source.Entries
import Mathlib.Data.List.Forall2

/-!
The scopes of declarations. What is around a declaration was declared before it: a type for the
innermost containing type, and a namespace for the namespace. The reader keeps what is around the
next entry together with what was around each open body, and all of it is accounted for by the
declarations made so far. An entry either leaves this as it is, or declares what it puts around the
entries behind it.
-/
namespace DocReport.Source

/-- What is around a declaration. -/
def surroundings (d : Declaration) : Surroundings :=
  { namespaceName := d.namespaceName, containingTypes := d.containingTypes }

/-- Surroundings that were declared: the innermost type around, in the same namespace and inside
the other types, and the namespace, by its own name behind that of the one around it. -/
structure Declared (before : List Declaration) (s : Surroundings) : Prop where
  type : ∀ outer own, s.containingTypes = outer ++ [own] →
    ∃ e ∈ before, isMemberedType e.kind = true ∧ e.namespaceName = s.namespaceName ∧
      e.containingTypes = outer ∧ Symbol.displayName e.name e.typeParameters = own
  space : s.namespaceName ≠ [] →
    ∃ e ∈ before, e.kind = .namespaceKind ∧ nestedName e.namespaceName e.name = s.namespaceName

theorem Declared.mono {before more : List Declaration} {s : Surroundings}
    (declared : Declared before s) (subset : before ⊆ more) : Declared more s where
  type outer own same := by
    obtain ⟨e, member, rest⟩ := declared.type outer own same
    exact ⟨e, subset member, rest⟩
  space named := by
    obtain ⟨e, member, rest⟩ := declared.space named
    exact ⟨e, subset member, rest⟩

theorem declared_outermost (before : List Declaration) : Declared before {} where
  type outer own same := by simp at same
  space named := absurd rfl named

/-! ### One entry -/

/-- The declaration that an entry makes in its surroundings. -/
def declaration? (path : Text) (here : Surroundings) : Entry → Option Declaration
  | .namespaceBlock heading name | .namespaceFile heading name =>
    some
      { name, kind := .namespaceKind, filePath := path, namespaceName := here.namespaceName
        containingTypes := here.containingTypes, documentation := heading.documentation
        line := heading.line }
  | .type heading kind name typeParameters _ =>
    some
      { name, kind, filePath := path, namespaceName := here.namespaceName
        containingTypes := here.containingTypes, typeParameters
        documentation := heading.documentation, line := heading.line }
  | .member heading kind name typeParameters parameters typeText =>
    some
      { name, kind, filePath := path, namespaceName := here.namespaceName
        containingTypes := here.containingTypes, typeParameters, parameters, typeText
        documentation := heading.documentation, line := heading.line }
  | .close => none

/-- What is around the next entry, and what was around the open bodies, innermost first. -/
def nextScopes (here : Surroundings) (outer : List Surroundings) :
    Entry → Surroundings × List Surroundings
  | .namespaceBlock _ name =>
    ({ namespaceName := nestedName here.namespaceName name }, here :: outer)
  | .namespaceFile _ name =>
    ({ here with namespaceName := nestedName here.namespaceName name }, outer)
  | .type _ _ name typeParameters true =>
    ({ here with
        containingTypes := here.containingTypes ++ [Symbol.displayName name typeParameters] },
      here :: outer)
  | .type _ _ _ _ false => (here, outer)
  | .member .. => (here, outer)
  | .close =>
    match outer with
    | [] => (here, [])
    | around :: outer => (around, outer)

theorem declarations_step (path : Text) (here : Surroundings) (outer : List Surroundings)
    (entry : Entry) (rest : List Entry) :
    declarations path here outer (entry :: rest) =
      (declaration? path here entry).toList ++
        declarations path (nextScopes here outer entry).1 (nextScopes here outer entry).2 rest := by
  cases entry with
  | namespaceBlock heading name => rfl
  | namespaceFile heading name => rfl
  | type heading kind name typeParameters hasBody => cases hasBody <;> rfl
  | member heading kind name typeParameters parameters typeText => rfl
  | close => cases outer <;> rfl

theorem line_declaration? (path : Text) (here : Surroundings) (entry : Entry) :
    (declaration? path here entry).map (·.line) = entry.line? := by
  cases entry <;> rfl

/-- Declarations stand on the lines of their entries. -/
theorem lines_declarations (path : Text) (here : Surroundings) (outer : List Surroundings)
    (entries : List Entry) :
    (declarations path here outer entries).map (·.line) = entries.filterMap Entry.line? := by
  induction entries generalizing here outer with
  | nil => rfl
  | cons entry rest ih =>
    rw [declarations_step, List.map_append, ih, List.filterMap_cons,
      ← line_declaration? path here entry]
    cases declaration? path here entry <;> rfl

theorem surroundings_declaration? {path : Text} {here : Surroundings} {entry : Entry}
    {d : Declaration} (made : declaration? path here entry = some d) : surroundings d = here := by
  cases entry <;> cases made <;> rfl

/-! ### Where namespaces for the rest of a file may stand -/

/-- The open bodies behind an entry: for each, innermost first, whether it is that of a type. -/
def nextBodies (inTypes : List Bool) : Entry → List Bool
  | .namespaceBlock _ _ => false :: inTypes
  | .type _ _ _ _ true => true :: inTypes
  | .close => inTypes.tail
  | _ => inTypes

/-- Whether an entry is a namespace for the rest of the file. -/
def Entry.isFileNamespace : Entry → Bool
  | .namespaceFile _ _ => true
  | _ => false

/-- Whether no namespace for the rest of a file stands directly in the body of a type. The grammar
of sources has them outside of all bodies only. -/
def fileNamespacesPlaced (inTypes : List Bool) : List Entry → Bool
  | [] => true
  | entry :: rest =>
    !(entry.isFileNamespace && inTypes.headD false) &&
      fileNamespacesPlaced (nextBodies inTypes entry) rest

/-- What the reader knows between two entries: all surroundings are declared, and only in the body
of a type are there types around. -/
structure Accounted (before : List Declaration) (inTypes : List Bool) (here : Surroundings)
    (outer : List Surroundings) : Prop where
  declared : ∀ s ∈ here :: outer, Declared before s
  inside : List.Forall₂ (fun (inType : Bool) s => inType = false → s.containingTypes = [])
    (inTypes ++ [false]) (here :: outer)

section Step

variable {before : List Declaration} {inTypes : List Bool} {here : Surroundings}
  {outer : List Surroundings} {entry : Entry}

theorem accounted_outermost : Accounted [] [] {} [] where
  declared s member := by
    rw [List.mem_singleton.1 member]
    exact declared_outermost []
  inside := .cons (fun _ => rfl) .nil

theorem Accounted.mono {more : List Declaration} (accounted : Accounted before inTypes here outer)
    (subset : before ⊆ more) : Accounted more inTypes here outer where
  declared s member := (accounted.declared s member).mono subset
  inside := accounted.inside

/-- One body more, around which the surroundings stay. -/
theorem Accounted.enter {inType : Bool} {inner : Surroundings}
    (accounted : Accounted before inTypes here outer) (declared : Declared before inner)
    (flat : inType = false → inner.containingTypes = []) :
    Accounted before (inType :: inTypes) inner (here :: outer) where
  declared s member := by
    rcases List.mem_cons.1 member with rfl | around
    · exact declared
    · exact accounted.declared s around
  inside := .cons flat accounted.inside

/-- The end of a body; where none is open, nothing changes. -/
theorem Accounted.leave (accounted : Accounted before inTypes here outer) :
    Accounted before inTypes.tail (nextScopes here outer .close).1
      (nextScopes here outer .close).2 := by
  obtain ⟨declared, inside⟩ := accounted
  cases inTypes with
  | nil =>
    cases inside with
    | cons own rest =>
      cases rest
      exact ⟨declared, .cons own .nil⟩
  | cons inType inTypes =>
    cases inside with
    | cons own rest =>
      cases outer with
      | nil => cases inTypes <;> cases rest
      | cons around outer =>
        exact ⟨fun s member => declared s (List.mem_cons_of_mem _ member), rest⟩

/-- Outermost there is no type around. -/
theorem bodies_cons (inTypes : List Bool) :
    ∃ others, inTypes ++ [false] = inTypes.headD false :: others := by
  cases inTypes with
  | nil => exact ⟨[], rfl⟩
  | cons inType inTypes => exact ⟨inTypes ++ [false], rfl⟩

theorem Accounted.flat (accounted : Accounted before inTypes here outer)
    (outside : inTypes.headD false = false) : here.containingTypes = [] := by
  have inside := accounted.inside
  obtain ⟨others, bodies⟩ := bodies_cons inTypes
  rw [bodies] at inside
  cases inside with
  | cons own _ => exact own outside

/-- Outside of types the namespace may change for the rest of the body. -/
theorem Accounted.rename {inner : Surroundings} (accounted : Accounted before inTypes here outer)
    (declared : Declared before inner) (flat : inner.containingTypes = []) :
    Accounted before inTypes inner outer where
  declared s member := by
    rcases List.mem_cons.1 member with rfl | around
    · exact declared
    · exact accounted.declared s (List.mem_cons_of_mem _ around)
  inside := by
    have inside := accounted.inside
    obtain ⟨others, bodies⟩ := bodies_cons inTypes
    rw [bodies] at inside ⊢
    cases inside with
    | cons _ rest => exact .cons (fun _ => flat) rest

/-- A namespace that was just declared is around what follows. -/
theorem declared_namespace {own : Declaration} (kind : own.kind = .namespaceKind) :
    Declared (before ++ [own]) { namespaceName := nestedName own.namespaceName own.name } where
  type outer t same := by simp at same
  space _ := ⟨own, by simp, kind, rfl⟩

/-- A type that was just declared is around what follows, in the namespace it is in itself. -/
theorem declared_type {own : Declaration} (kind : isMemberedType own.kind = true)
    (around : Declared before (surroundings own)) :
    Declared (before ++ [own])
      { surroundings own with
        containingTypes :=
          own.containingTypes ++ [Symbol.displayName own.name own.typeParameters] } where
  type outer t same := by
    obtain ⟨types, name⟩ := List.append_inj' same rfl
    exact ⟨own, by simp, kind, rfl, types, List.singleton_inj.1 name⟩
  space named := (around.mono (List.subset_append_left _ _)).space named

/-- One entry: with the declaration that it makes, what is around the next entry is accounted for
again. -/
theorem Accounted.step (accounted : Accounted before inTypes here outer) (path : Text)
    (proper : entry.isProper = true)
    (placed : (entry.isFileNamespace && inTypes.headD false) = false) :
    Accounted (before ++ (declaration? path here entry).toList) (nextBodies inTypes entry)
      (nextScopes here outer entry).1 (nextScopes here outer entry).2 := by
  have more := accounted.mono
    (List.subset_append_left before (declaration? path here entry).toList)
  have own : Declared before here := accounted.declared here List.mem_cons_self
  cases entry with
  | namespaceBlock heading name =>
    exact more.enter (declared_namespace rfl) fun _ => rfl
  | namespaceFile heading name =>
    have flat : here.containingTypes = [] := accounted.flat placed
    have inner : (nextScopes here outer (.namespaceFile heading name)).1 =
        { namespaceName := nestedName here.namespaceName name } := by
      rw [nextScopes, flat]
    rw [inner]
    exact more.rename (declared_namespace rfl) rfl
  | type heading kind name typeParameters hasBody =>
    cases hasBody with
    | true => exact more.enter (declared_type proper own) fun inType => by cases inType
    | false => exact more
  | member heading kind name typeParameters parameters typeText => exact more
  | close =>
    have same : before ++ (declaration? path here .close).toList = before := List.append_nil before
    rw [same]
    exact accounted.leave

/-- All entries: what is around a declaration was declared before it. -/
theorem Accounted.run {entries : List Entry} (accounted : Accounted before inTypes here outer)
    (path : Text) (proper : ∀ entry ∈ entries, entry.isProper = true)
    (placed : fileNamespacesPlaced inTypes entries = true) {front back : List Declaration}
    {d : Declaration} (made : declarations path here outer entries = front ++ d :: back) :
    Declared (before ++ front) (surroundings d) := by
  induction entries generalizing before inTypes here outer front with
  | nil => simp [declarations] at made
  | cons entry rest ih =>
    rw [fileNamespacesPlaced, Bool.and_eq_true, Bool.not_eq_true'] at placed
    have next := accounted.step path (proper entry List.mem_cons_self) placed.1
    have others := fun e member => proper e (List.mem_cons_of_mem _ member)
    rw [declarations_step] at made
    cases own : declaration? path here entry with
    | none =>
      rw [own] at made next
      have behind := ih next others placed.2 made
      rwa [Option.toList_none, List.append_nil] at behind
    | some first =>
      rw [own] at made next
      cases front with
      | nil =>
        obtain ⟨rfl, _⟩ := List.cons.inj made
        rw [surroundings_declaration? own, List.append_nil]
        exact accounted.declared here List.mem_cons_self
      | cons e front =>
        obtain ⟨rfl, later⟩ := List.cons.inj made
        have behind := ih next others placed.2 later
        rwa [Option.toList_some, List.append_assoc] at behind

end Step

/-- The declarations of a source stand in the order of their lines, and the scopes around each of
them were declared before: the innermost type around it by a type in the same namespace and in the
other types around it, with that display name, and its namespace by a namespace whose name, behind
that of the namespace around it, is that one. -/
theorem declarations_ordered_and_scoped (path source : Text)
    (placed : fileNamespacesPlaced [] (entries [] (tokens source)) = true) :
    (read path source).declarations.Pairwise (·.line ≤ ·.line) ∧
    ∀ front d back, (read path source).declarations = front ++ d :: back →
      (∀ outer own, d.containingTypes = outer ++ [own] →
        ∃ e ∈ front, isMemberedType e.kind = true ∧ e.namespaceName = d.namespaceName ∧
          e.containingTypes = outer ∧ Symbol.displayName e.name e.typeParameters = own) ∧
      (d.namespaceName ≠ [] →
        ∃ e ∈ front, e.kind = .namespaceKind ∧
          nestedName e.namespaceName e.name = d.namespaceName) := by
  refine ⟨?_, fun front d back made => ?_⟩
  · have ordered := @entries_in_order [] _ (tokensOf_lines [] 1 (lexemes source)).2
    have lines := lines_declarations path {} [] (entries [] (tokens source))
    rw [← List.pairwise_map (f := fun d : Declaration => d.line) (R := (· ≤ ·))]
    change ((declarations path {} [] (entries [] (tokens source))).map (·.line)).Pairwise (· ≤ ·)
    rw [lines, List.pairwise_filterMap]
    exact ordered.imp fun early m atM n atN => early m atM n atN
  · have around := accounted_outermost.run path
      (fun entry member => (exists_token_of_entry member).1) placed made
    exact ⟨around.type, around.space⟩

/-- A namespace for the rest of the file, one in a block inside it, and types inside a type. -/
def shelfSource : Text :=
  ("namespace Shop;\nnamespace Store.Racks\n\x7b\n  class Shelf<T, U>\n  \x7b\n" ++
    "    enum Side \x7b Left \x7d\n    int a, b;\n  \x7d\n\x7d\n").toList

theorem declarations_ordered_and_scoped_shelf :
    fileNamespacesPlaced [] (entries [] (tokens shelfSource)) = true ∧
    (read "Shelf.cs".toList shelfSource).declarations.map
        (fun d => (d.line, d.namespaceName, d.containingTypes, d.name)) =
      [(1, [], [], "Shop".toList), (2, "Shop".toList, [], "Store.Racks".toList),
       (4, "Shop.Store.Racks".toList, [], "Shelf".toList),
       (6, "Shop.Store.Racks".toList, ["Shelf<T, U>".toList], "Side".toList),
       (6, "Shop.Store.Racks".toList, ["Shelf<T, U>".toList, "Side".toList], "Left".toList),
       (7, "Shop.Store.Racks".toList, ["Shelf<T, U>".toList], "a".toList),
       (7, "Shop.Store.Racks".toList, ["Shelf<T, U>".toList], "b".toList)] ∧
    (read "Shelf.cs".toList shelfSource).declarations.Pairwise (·.line ≤ ·.line) := by
  have placed : fileNamespacesPlaced [] (entries [] (tokens shelfSource)) = true := by
    decide +kernel
  exact ⟨placed, by decide +kernel, (declarations_ordered_and_scoped _ _ placed).1⟩

end DocReport.Source

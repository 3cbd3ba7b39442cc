import DocReport.Compilation.Binding
import Mathlib.Data.List.Infix

/-!
The index of a compilation answers like a search through its declarations. Keys are registered one
after the other and the first registration of a key is kept, so a key leads to the first
declaration that goes by it; binding a reference is then a search for the innermost scope from
which any declaration goes by the name asked for.
-/
namespace DocReport.Compilation

open DocReport.Symbol

/-- A declaration goes by its plain key and, if it is a method or a constructor, by that key with
its parameter types behind it. Namespaces go by nothing. -/
def GoesBy (d : Declaration) (key : Text) : Prop :=
  d.kind ≠ .namespaceKind ∧
    (plainKey d = key ∨
      (d.kind = .method ∨ d.kind = .constructor) ∧
        plainKey d ++ ['('] ++ documentationParameters d.parameters ++ [')'] = key)

instance (d : Declaration) (key : Text) : Decidable (GoesBy d key) :=
  inferInstanceAs (Decidable (_ ∧ _))

theorem mem_keys_iff (d : Declaration) (key : Text) : key ∈ keys d ↔ GoesBy d key := by
  unfold keys GoesBy
  by_cases space : d.kind = .namespaceKind
  · simp [space]
  · by_cases signed : hasSignatureKey d = true
    · have callable : d.kind = .method ∨ d.kind = .constructor := by
        simpa [hasSignatureKey] using signed
      simp [space, signed, callable, signatureKey, @eq_comm _ key]
    · have silent : ¬ (d.kind = .method ∨ d.kind = .constructor) := by
        simpa [hasSignatureKey] using signed
      simp [space, signed, silent, @eq_comm _ key]

namespace Index

@[simp] theorem find?_empty (key : Text) : empty.find? key = none := rfl

/-- One registration: what a key led to before stays, and only the registered key is new. -/
theorem find?_register (index : Index) (registered id key : Text) :
    (index.register registered id).find? key =
      (index.find? key).or (if registered = key then some id else none) := by
  unfold register
  split
  · rename_i taken
    by_cases same : registered = key
    · subst same
      obtain ⟨old, known⟩ := Option.isSome_iff_exists.1 taken
      simp [known]
    · simp [same]
  · rw [find?, find?, List.lookup_append, List.lookup_cons, List.lookup_nil]
    by_cases same : registered = key
    · simp [same]
    · simp [same, beq_eq_false_iff_ne.2 (Ne.symm same)]

/-- All registrations of one declaration lead to the same documentation ID. -/
theorem find?_foldl_register (registered : List Text) (id : Text) (index : Index) (key : Text) :
    (registered.foldl (fun index key => index.register key id) index).find? key =
      (index.find? key).or (if key ∈ registered then some id else none) := by
  induction registered generalizing index with
  | nil => simp
  | cons first rest ih =>
    rw [List.foldl_cons, ih, find?_register, Option.or_assoc]
    by_cases same : first = key
    · simp [same]
    · simp [same, Ne.symm same]

theorem find?_add (index : Index) (d : Declaration) (key : Text) :
    (index.add d).find? key =
      (index.find? key).or (if GoesBy d key then some (documentationId d) else none) := by
  rw [add, find?_foldl_register]
  simp only [mem_keys_iff]

/-- After any run of registrations a key leads where it led before, else to the first declaration
of the run that goes by it. -/
theorem find?_foldl_add (ds : List Declaration) (index : Index) (key : Text) :
    (ds.foldl add index).find? key =
      (index.find? key).or ((ds.find? (GoesBy · key)).map documentationId) := by
  induction ds generalizing index with
  | nil => simp
  | cons d rest ih =>
    rw [List.foldl_cons, ih, find?_add, Option.or_assoc, List.find?_cons]
    by_cases named : GoesBy d key
    · simp [named]
    · simp [named]

theorem find?_ofFiles (files : List SourceFile) (key : Text) :
    (ofFiles files).find? key =
      ((declarations files).find? (GoesBy · key)).map documentationId := by
  rw [ofFiles, find?_foldl_add, find?_empty, Option.none_or]

end Index

/-- The first declaration that goes by `name` as seen from the innermost scope that has any. -/
def search? (files : List SourceFile) (around : List Text) (name : Text) : Option Declaration :=
  around.findSome? fun scope => (declarations files).find? (GoesBy · (qualify scope name))

theorem goesBy_of_search {files : List SourceFile} {around : List Text} {name : Text}
    {x : Declaration} (found : search? files around name = some x) :
    x ∈ declarations files ∧ ∃ scope, GoesBy x (qualify scope name) := by
  obtain ⟨scope, -, here⟩ := List.exists_of_findSome?_eq_some found
  exact ⟨List.mem_of_find?_eq_some here, scope, by simpa using List.find?_some here⟩

theorem resolve?_ofFiles (files : List SourceFile) (reference : Text) (d : Declaration) :
    resolve? (Index.ofFiles files) reference d =
      (search? files (scopes d) (lookupName (Text.trim (unescape reference)))).map
        documentationId := by
  unfold resolve? search?
  simp only [Index.find?_ofFiles, List.map_findSome?]
  rfl

theorem bind_value (index : Index) (reference : Text) (d : Declaration) :
    (bind index reference d).value =
      if hasMarker (Text.trim (unescape reference)) then reference
      else (resolve? index reference d).getD reference := by
  unfold bind
  split
  · rfl
  · cases resolve? index reference d with
    | none => rfl
    | some id => rfl

/-! ### What is asked for, and from where -/

theorem cutFirst_fst (c : Char) (t : Text) : (Text.cutFirst c t).1 = t.takeWhile (· != c) := by
  induction t with
  | nil => rfl
  | cons d rest ih =>
    by_cases same : d = c
    · simp [Text.cutFirst, same]
    · simp [Text.cutFirst, same, ih]

theorem cutFirst_snd (c : Char) (t : Text) :
    (Text.cutFirst c t).2.getD [] = (t.dropWhile (· != c)).drop 1 := by
  induction t with
  | nil => rfl
  | cons d rest ih =>
    by_cases same : d = c
    · simp [Text.cutFirst, same]
    · simpa [Text.cutFirst, same] using ih

theorem lookupName_eq (t : Text) :
    lookupName t =
      let simple := Text.trim (dropArguments (t.takeWhile (· != '(')))
      let written := (t.dropWhile (· != '(')).drop 1
      if written.isEmpty then simple
      else simple ++ ['('] ++ Text.join [',']
        ((splitArguments (Text.dropTail (· == ')') written)).map typeName) ++ [')'] := by
  unfold lookupName
  rw [cutFirst_fst, cutFirst_snd]
  cases (t.dropWhile (· != '(')).drop 1 <;> rfl

/-- The scopes around a declaration are the paths that lead to it, the longest first. -/
theorem scopes_eq (d : Declaration) :
    scopes d = (namespaceParts d.namespaceName ++ d.containingTypes.map dropArguments ++
      if d.kind.isType then [d.name] else []).inits.reverse.map (Text.join ['.']) := by
  have takes (parts : List Text) :
      (List.range (parts.length + 1)).map (parts.take ·) = parts.inits := by
    refine List.ext_getElem (by simp) fun n _ _ => ?_
    rw [List.getElem_map, List.getElem_range, List.getElem_inits]
  rw [← takes, ← List.map_reverse, List.map_map]
  rfl

/-- Binding through the index is a direct search of the compilation. A reference with a kind marker
stays as it is. Any other asks for a name: what stands before the first parenthesis, without type
arguments, and if anything follows the parenthesis, the types in it by their documentation names.
It becomes the documentation ID of the first declaration, in file order and then in source order,
that has the name asked for from the innermost scope where one has. -/
theorem bind_eq_search (files : List SourceFile) (reference : Text) (d : Declaration) :
    (bind (Index.ofFiles files) reference d).value =
      let text := Text.trim (unescape reference)
      let simple := Text.trim (dropArguments (text.takeWhile (· != '(')))
      let written := (text.dropWhile (· != '(')).drop 1
      let asked :=
        if written.isEmpty then simple
        else simple ++ ['('] ++ Text.join [',']
          ((splitArguments (Text.dropTail (· == ')') written)).map typeName) ++ [')']
      let around := namespaceParts d.namespaceName ++ d.containingTypes.map dropArguments ++
        if d.kind.isType then [d.name] else []
      if text[1]? = some ':' then reference
      else
        match (around.inits.reverse.map (Text.join ['.'])).findSome? fun scope =>
          let key := if scope.isEmpty then asked else scope ++ ['.'] ++ asked
          (declarations files).find? fun x =>
            let plain := Text.join ['.'] (namespaceParts x.namespaceName ++
              x.containingTypes.map dropArguments ++ [x.name])
            x.kind ≠ .namespaceKind ∧
              (plain = key ∨ (x.kind = .method ∨ x.kind = .constructor) ∧
                plain ++ ['('] ++ documentationParameters x.parameters ++ [')'] = key) with
        | some target => documentationId target
        | none => reference := by
  have shown (target : Option Declaration) : (target.map documentationId).getD reference =
      match target with
      | some target => documentationId target
      | none => reference := by
    cases target <;> rfl
  rw [bind_value, resolve?_ofFiles, lookupName_eq, scopes_eq]
  simp only [hasMarker, beq_iff_eq]
  split
  · rfl
  · exact shown _

/-- A class with two overloads of a method. -/
def shelf : Declaration :=
  { name := "Shelf".toList, kind := .classKind, namespaceName := "Shop".toList
    typeParameters := [['T']] }

def shelfPut (types : List String) : Declaration :=
  { name := "Put".toList, kind := .method, namespaceName := "Shop".toList
    containingTypes := ["Shelf<T>".toList]
    parameters := types.map fun type => { name := ['x'], typeText := type.toList } }

theorem bind_eq_search_shelf :
    let files : List SourceFile :=
      [⟨"a.cs".toList, [shelf, shelfPut ["int"]]⟩, ⟨"b.cs".toList, [shelfPut ["Row<long>", "int"]]⟩]
    (bind (Index.ofFiles files) " Put (Row&lt;long&gt;, int)".toList shelf).value =
      "M:Shop.Shelf`1.Put(Row\x7bSystem.Int64\x7d,System.Int32)".toList ∧
    (bind (Index.ofFiles files) "Shelf\x7bT\x7d.Put".toList (shelfPut [])).value =
      "M:Shop.Shelf`1.Put(System.Int32)".toList ∧
    (bind (Index.ofFiles files) "Put(long)".toList shelf).value = "Put(long)".toList :=
  ⟨(bind_eq_search _ _ _).trans (by decide +kernel),
    (bind_eq_search _ _ _).trans (by decide +kernel),
    (bind_eq_search _ _ _).trans (by decide +kernel)⟩

end DocReport.Compilation

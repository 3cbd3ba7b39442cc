import DocReport.Proofs.Report.Outline

/-!
What the text of a documentation comment can change in a report. Keys, scopes and documentation IDs
are made from declarations without their comments, so the index is the same for every text, and
with it every section but that of the declaration behind the comment. A comment that is empty or no
well-formed markup takes away its own section and nothing else.
-/
namespace DocReport.Report

open Files Compilation

/-- A declaration with the given text in the comment before it. -/
def commented (d : Declaration) (comment : Text) : Declaration :=
  { d with documentation := some comment }

/-- A file with a declaration between others. -/
def fileAround (path : Text) (front : List Declaration) (d : Declaration)
    (back : List Declaration) : SourceFile :=
  ⟨path, front ++ d :: back⟩

/-- The documentation of a declaration whose comment has the given text, with its references
bound. -/
def boundComment (index : Index) (d : Declaration) (comment : Text) : Text :=
  (bindFragment index d comment).value

theorem declarations_append (files others : List SourceFile) :
    declarations (files ++ others) = declarations files ++ declarations others :=
  List.flatMap_append

theorem declarations_cons (file : SourceFile) (files : List SourceFile) :
    declarations (file :: files) = file.declarations ++ declarations files :=
  List.flatMap_cons

/-- No key and no documentation ID depends on a comment. -/
theorem add_commented (index : Index) (d : Declaration) (comment : Text) :
    index.add (commented d comment) = index.add d := rfl

theorem ofFiles_commented (before after : List SourceFile) (path : Text)
    (front back : List Declaration) (d : Declaration) (comment : Text) :
    Index.ofFiles (before ++ fileAround path front (commented d comment) back :: after) =
      Index.ofFiles (before ++ fileAround path front d back :: after) := by
  simp only [Index.ofFiles, declarations_append, declarations_cons, fileAround, List.foldl_append,
    List.foldl_cons, add_commented]

theorem documented_commented (path : Text) (front back : List Declaration) (d : Declaration)
    (comment : Text) :
    (fileAround path front (commented d comment) back).documented =
      front.filter (·.documentation.isSome) ++ commented d comment ::
        back.filter (·.documentation.isSome) := by
  simp [SourceFile.documented, fileAround, commented]

theorem bindPart_commented (index : Index) (d : Declaration) (comment : Text)
    (part : FragmentPart) :
    bindPart index (commented d comment) part = bindPart index d part := rfl

theorem bindFragment_commented (index : Index) (d : Declaration) (comment fragment : Text) :
    bindFragment index (commented d comment) fragment = bindFragment index d fragment := by
  unfold bindFragment
  generalize fragmentParts none fragment = parts
  induction parts with
  | nil => rfl
  | cons part rest ih => rw [bindParts, bindParts, bindPart_commented, ih]

/-- The section of a declaration whose comment has the given text. -/
theorem section?_commented (options : Markdown.Options) (index : Index) (d : Declaration)
    (comment : Text) :
    (section? options index (commented d comment)).value =
      if d.kind = .namespaceKind ∨ boundComment index d comment = [] then none
      else
        match Markup.parseFragment (boundComment index d comment) with
        | .ok root => some (Section.ofTree options (Symbol.signature d) root)
        | .error _ => none := by
  rw [section?, Logged.value_bind, member?]
  by_cases space : d.kind = .namespaceKind
  · have own : (commented d comment).kind = .namespaceKind := space
    rw [if_pos own, if_pos (Or.inl space)]
    rfl
  · have own : (commented d comment).kind ≠ .namespaceKind := space
    have given : (commented d comment).documentation.getD [] = comment := rfl
    rw [if_neg own, given, bindFragment_commented, Logged.value_bind, Logged.value_pure,
      ← boundComment]
    simp only [Section.ofMember?, List.isEmpty_iff, space, false_or]
    split
    · rfl
    · cases Markup.parseFragment (boundComment index d comment) with
      | ok root => rfl
      | error message => rfl

theorem signature_of_section? {options : Markdown.Options} {index : Index} {d : Declaration}
    {comment : Text} {s : Section}
    (own : (section? options index (commented d comment)).value = some s) :
    s.signature = Symbol.signature d := by
  rw [section?_commented] at own
  split at own
  · cases own
  · split at own
    · cases own
      rfl
    · cases own

theorem section?_isSome_iff (options : Markdown.Options) (index : Index) (d : Declaration)
    (comment : Text) :
    (section? options index (commented d comment)).value.isSome = true ↔
      d.kind ≠ .namespaceKind ∧ boundComment index d comment ≠ [] ∧
        ∃ root, Markup.parseFragment (boundComment index d comment) = .ok root := by
  rw [section?_commented]
  split
  · rename_i bare
    rcases bare with space | empty
    · simp [space]
    · simp [empty]
  · rename_i documented
    obtain ⟨declared, nonempty⟩ := not_or.1 documented
    cases Markup.parseFragment (boundComment index d comment) with
    | ok root => simp [declared, nonempty]
    | error message => simp

/-- The entries of the file in which the declaration stands: only those of the declaration itself
know the text of its comment. -/
theorem fileEntries_commented (fs : FileSystem) (setup : Setup) (index : Index) (path : Text)
    (front back : List Declaration) (d : Declaration) (comment : Text) :
    fileEntries fs setup index (fileAround path front (commented d comment) back) =
      .heading (headingPath fs setup.root path) ::
        (front.filter (·.documentation.isSome)).flatMap (memberEntries index setup.options) ++
      memberEntries index setup.options (commented d comment) ++
      (back.filter (·.documentation.isSome)).flatMap (memberEntries index setup.options) := by
  have some : ((fileAround path front (commented d comment) back).documented).isEmpty = false := by
    rw [documented_commented]
    simp
  rw [fileEntries, some, documented_commented]
  simp only [Bool.false_eq_true, if_false, List.flatMap_append, List.flatMap_cons,
    List.cons_append, List.append_assoc]
  rfl

/-- Whatever a comment says, the report differs in the section of its own declaration only: what
stands above and below it is the same for every text. The section is there exactly if the
documentation, with its references bound, is neither empty nor malformed. -/
theorem comment_changes_own_section (fs : FileSystem) (setup : Setup)
    (before after : List SourceFile) (path : Text) (front back : List Declaration)
    (d : Declaration) :
    ∃ above below : List Entry, ∀ comment : Text,
      let files := before ++ fileAround path front (commented d comment) back :: after
      let index := Index.ofFiles files
      let own := (section? setup.options index (commented d comment)).value
      outline fs setup index files = above ++ (own.map Entry.member).toList ++ below ∧
      (assemble fs setup files).value =
        headerText setup ++ entriesText above ++ entriesText (own.map Entry.member).toList ++
          entriesText below ∧
      (∀ s, own = some s → s.signature = Symbol.signature d) ∧
      (own.isSome = true ↔ d.kind ≠ .namespaceKind ∧ boundComment index d comment ≠ [] ∧
        ∃ root, Markup.parseFragment (boundComment index d comment) = .ok root) := by
  -- The index does not know the comment, so the one without it serves for every text.
  let common := Index.ofFiles (before ++ fileAround path front d back :: after)
  let entriesOf := fun ds : List Declaration =>
    (ds.filter (·.documentation.isSome)).flatMap (memberEntries common setup.options)
  refine ⟨outline fs setup common before ++
      .heading (headingPath fs setup.root path) :: entriesOf front,
    entriesOf back ++ outline fs setup common after, fun comment => ?_⟩
  have same := ofFiles_commented before after path front back d comment
  have entries : outline fs setup common
      (before ++ fileAround path front (commented d comment) back :: after) =
        outline fs setup common before ++
          .heading (headingPath fs setup.root path) :: entriesOf front ++
        memberEntries common setup.options (commented d comment) ++
        (entriesOf back ++ outline fs setup common after) := by
    simp only [outline, List.flatMap_append, List.flatMap_cons, fileEntries_commented, entriesOf,
      List.append_assoc, List.cons_append]
  simp only [assemble_value, same]
  refine ⟨entries, ?_, fun s own => signature_of_section? own, section?_isSome_iff _ _ _ _⟩
  rw [entries, entriesText_append, entriesText_append]
  simp only [memberEntries, List.append_assoc]
  rfl

end DocReport.Report

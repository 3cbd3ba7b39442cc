import DocReport.Files.Collection
import DocReport.Proofs.Files.Frame
import DocReport.Proofs.Text.Cut

/-!
Which files are the sources of a root, told file by file: a root that is a file is its only source,
and below a directory the filter decides. What is written to files that are no sources does not
change what is collected, and each collected path leads to a file that is a source.
-/
namespace DocReport.Files

open FileSystem (Keeps)

namespace Path

/-- What can stand between the slashes of a path that was read. -/
def isComponent (part : Text) : Bool :=
  part != [] && part != ['.'] && part.all (· != '/')

/-- What a file or directory can be called. -/
def isName (part : Text) : Bool :=
  isComponent part && part != ['.', '.']

theorem isComponent_iff {part : Text} :
    isComponent part = true ↔ part ≠ [] ∧ part ≠ ['.'] ∧ '/' ∉ part := by
  simp [isComponent, and_assoc, List.forall_mem_ne']

theorem isName_iff {part : Text} :
    isName part = true ↔ isComponent part = true ∧ part ≠ ['.', '.'] := by
  simp [isName]

/-- A path as reading gives it. -/
structure Proper (p : Path) : Prop where
  anchor : p.anchor = [] ∨ p.anchor = ['/'] ∨ p.anchor = ['/', '/']
  parts : ∀ part ∈ p.parts, isComponent part = true

theorem proper_ofText (t : Text) : (ofText t).Proper where
  anchor := by
    simp only [ofText]
    split
    · exact .inl rfl
    · split
      · exact .inr (.inr rfl)
      · exact .inr (.inl rfl)
  parts part member := by
    obtain ⟨cut, kept⟩ := List.mem_filter.1 member
    simp only [Bool.and_eq_true, bne_iff_ne] at kept
    exact isComponent_iff.2 ⟨kept.1, kept.2, Text.not_mem_of_mem_cutAll cut⟩

theorem Proper.join {p : Path} (proper : p.Proper) {parts : List Text}
    (names : ∀ part ∈ parts, isComponent part = true) : (p.join ⟨[], parts⟩).Proper where
  anchor := proper.anchor
  parts part member := (List.mem_append.1 member).elim (proper.parts part) (names part)

/-- A proper path is read back from its text. -/
theorem ofText_toText {p : Path} (proper : p.Proper) : ofText p.toText = p := by
  obtain ⟨anchor, parts⟩ := p
  obtain ⟨shape, components⟩ := proper
  dsimp only at shape components
  cases parts with
  | nil => rcases shape with rfl | rfl | rfl <;> rfl
  | cons first rest =>
    have plain : ∀ part ∈ first :: rest, '/' ∉ part := fun part member =>
      (isComponent_iff.1 (components part member)).2.2
    have kept : (first :: rest).filter (fun part => part != [] && part != ['.']) = first :: rest :=
      List.filter_eq_self.2 fun part member => by
        have component := isComponent_iff.1 (components part member)
        simp [component.1, component.2.1]
    have cut : Text.cutAll '/' (Text.join ['/'] (first :: rest)) = first :: rest :=
      Text.cutAll_join (List.cons_ne_nil _ _) plain
    -- The text below the anchor starts with a component, so with no slash.
    obtain ⟨c, r, spelled⟩ : ∃ c r, first = c :: r :=
      List.exists_cons_of_ne_nil (isComponent_iff.1 (components first List.mem_cons_self)).1
    have start : c ≠ '/' := by
      rintro rfl
      exact plain first List.mem_cons_self (by simp [spelled])
    obtain ⟨more, text⟩ : ∃ more, Text.join ['/'] (first :: rest) = c :: more := by
      cases rest with
      | nil => exact ⟨r, spelled⟩
      | cons second others =>
        exact ⟨r ++ ['/'] ++ Text.join ['/'] (second :: others), by
          rw [Text.join_cons_cons, spelled]; rfl⟩
    have slash (t : Text) : Text.cutAll '/' ('/' :: t) = [] :: Text.cutAll '/' t := by
      simp [Text.cutAll]
    rw [text] at cut
    rcases shape with rfl | rfl | rfl <;> simp [ofText, toText, text, slash, start, cut, kept]

end Path

namespace FileSystem

variable {fs after : FileSystem}

/-- Whether all files and the directories that hold them have names that paths can spell. -/
def wellNamed (fs : FileSystem) : Bool :=
  fs.files.all fun file => file.all Path.isName

theorem walk_append (fs : FileSystem) (here parts more : List Text) :
    fs.walk here (parts ++ more) =
      fs.walk here parts >>= fun middle => fs.walk middle more := by
  induction parts generalizing here with
  | nil => rfl
  | cons part rest ih =>
    rw [List.cons_append, walk, walk]
    split
    · split
      · exact ih here.dropLast
      · exact ih (here ++ [part])
    · split <;> rfl

/-- Components none of which goes up lead further down. -/
theorem walk_of_names {parts here place : List Text} (names : ['.', '.'] ∉ parts)
    (leads : fs.walk here parts = .ok place) : place = here ++ parts := by
  induction parts generalizing here with
  | nil =>
    cases leads
    exact (List.append_nil place).symm
  | cons part rest ih =>
    rw [walk] at leads
    split at leads
    · have down : part ≠ ['.', '.'] := fun up => names (up ▸ List.mem_cons_self)
      rw [if_neg down] at leads
      rw [ih (fun up => names (List.mem_cons_of_mem part up)) leads, List.append_assoc]
      rfl
    · split at leads <;> cases leads

theorem place_join (fs : FileSystem) (root : Path) (parts : List Text) :
    fs.place (root.join ⟨[], parts⟩) = fs.place root >>= fun base => fs.walk base parts :=
  fs.walk_append _ root.parts parts

end FileSystem

/-- Whether a file at a place lies below another and is admitted there. -/
def Filter.admitsBelow (filter : Filter) (base place : List Text) : Bool :=
  base.isPrefixOf place && filter.admits (place.drop base.length)

theorem collectBelow_eq (fs : FileSystem) (base : List Text) (filter : Filter) :
    collectBelow fs base filter =
      ((fs.files.filter (filter.admitsBelow base)).map (List.drop base.length)).mergeSort
        fun a b => !partsBefore b a := by
  have same : (fs.filesBelow base).filter filter.admits =
      (fs.files.filter (filter.admitsBelow base)).map (List.drop base.length) := by
    unfold FileSystem.filesBelow
    induction fs.files with
    | nil => rfl
    | cons file rest ih =>
      rw [List.filterMap_cons, List.filter_cons, Filter.admitsBelow]
      cases base.isPrefixOf file with
      | false => exact ih
      | true =>
        rw [if_pos rfl, Bool.true_and, List.filter_cons]
        split
        · rw [List.map_cons, ih]
        · exact ih
  rw [collectBelow, same]

/-- Whether a file at a place is a source of a root: the root itself if that is a file, and else
one that the settings admit below the root. -/
def qualifies (fs : FileSystem) (root : Text) (selection : Settings.Selection)
    (place : List Text) : Bool :=
  if fs.isFile (Path.ofText root) then (fs.place (Path.ofText root)).toOption == some place
  else
    match fs.place (Path.ofText root), Filter.ofSelection selection with
    | .ok base, .ok filter => filter.admitsBelow base place
    | _, _ => false

section Collecting

variable {fs after : FileSystem} {written : List Path} {root : Text}
  {selection : Settings.Selection}

theorem qualifies_below {base : List Text} {filter : Filter}
    (directory : fs.isFile (Path.ofText root) = false)
    (leads : fs.place (Path.ofText root) = .ok base)
    (filtered : Filter.ofSelection selection = .ok filter) (place : List Text) :
    qualifies fs root selection place = filter.admitsBelow base place := by
  simp [qualifies, directory, leads, filtered]

theorem collect_below {base : List Text} {filter : Filter}
    (directory : fs.isFile (Path.ofText root) = false)
    (leads : fs.place (Path.ofText root) = .ok base)
    (filtered : Filter.ofSelection selection = .ok filter) :
    collect fs root selection =
      .ok ((collectBelow fs base filter).map fun parts => (Path.ofText root).join ⟨[], parts⟩) := by
  rw [collect]
  simp only [directory, leads, filtered]
  rfl

theorem qualifies_of_keeps (keeps : Keeps written fs after)
    (found : fs.exists? (Path.ofText root) = true) (place : List Text) :
    qualifies after root selection place = qualifies fs root selection place := by
  obtain ⟨base, leads⟩ := FileSystem.place_of_exists? found
  simp only [qualifies, keeps.isFile_eq found, leads, keeps.place leads]

/-- Writing to files that are no sources does not change what is collected. -/
theorem collect_of_keeps (keeps : Keeps written fs after)
    (found : fs.exists? (Path.ofText root) = true)
    (apart : ∀ place, qualifies after root selection place = true → after.Spares written place) :
    collect after root selection = collect fs root selection := by
  obtain ⟨base, leads⟩ := FileSystem.place_of_exists? found
  have leadsStill := keeps.place leads
  have same := keeps.isFile_eq found
  cases directory : fs.isFile (Path.ofText root) with
  | true => simp only [collect, same, directory, if_pos]
  | false =>
    have stays : after.isFile (Path.ofText root) = false := same.trans directory
    cases filtered : Filter.ofSelection selection with
    | error failure => simp only [collect, stays, directory, filtered]; rfl
    | ok filter =>
      have sources : after.files.filter (filter.admitsBelow base) =
          fs.files.filter (filter.admitsBelow base) :=
        keeps.order _ fun place admitted => apart place
          ((qualifies_below stays leadsStill filtered place).trans admitted)
      rw [collect_below directory leads filtered, collect_below stays leadsStill filtered,
        collectBelow_eq, collectBelow_eq, sources]

/-- A collected path leads to a source, if it leads anywhere. -/
theorem qualifies_of_collected {files : List Path}
    (collected : collect fs root selection = .ok files)
    (named : ∀ file ∈ fs.files, qualifies fs root selection file = true →
      ∀ part ∈ file, Path.isName part = true)
    {p : Path} (member : p ∈ files) {place : List Text}
    (leads : fs.place (Path.ofText p.toText) = .ok place) :
    qualifies fs root selection place = true := by
  cases directory : fs.isFile (Path.ofText root) with
  | true =>
    simp only [collect, directory, if_pos, Except.ok.injEq] at collected
    subst collected
    rw [List.mem_singleton.1 member, Path.ofText_toText (Path.proper_ofText root)] at leads
    simp [qualifies, directory, leads, Except.toOption]
  | false =>
    cases filtered : Filter.ofSelection selection with
    | error failure => simp only [collect, directory, filtered] at collected; cases collected
    | ok filter =>
      cases based : fs.place (Path.ofText root) with
      | error obstacle =>
        simp only [collect, directory, filtered, based] at collected
        cases collected
        cases member
      | ok base =>
        rw [collect_below directory based filtered, Except.ok.injEq] at collected
        subst collected
        obtain ⟨parts, found, rfl⟩ := List.mem_map.1 member
        rw [collectBelow_eq, List.mem_mergeSort] at found
        obtain ⟨file, listed, rfl⟩ := List.mem_map.1 found
        obtain ⟨there, admitted⟩ := List.mem_filter.1 listed
        have source := (qualifies_below directory based filtered file).trans admitted
        have whole : base ++ file.drop base.length = file := by
          obtain ⟨rest, rfl⟩ := List.isPrefixOf_iff_prefix.1 (Bool.and_eq_true_iff.1 admitted).1
          rw [List.drop_left]
        have names : ∀ part ∈ file.drop base.length,
            Path.isComponent part = true ∧ part ≠ ['.', '.'] := fun part inside =>
          Path.isName_iff.1 (named file there source part (List.mem_of_mem_drop inside))
        have proper := (Path.proper_ofText root).join fun part inside => (names part inside).1
        rw [Path.ofText_toText proper, FileSystem.place_join, based] at leads
        have stays := FileSystem.walk_of_names (fun up => (names _ up).2 rfl) leads
        rwa [stays, whole]

end Collecting

end DocReport.Files

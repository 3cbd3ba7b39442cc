import DocReport.Proofs.Files.Tree
import Mathlib.Data.List.Lex
import Mathlib.Data.List.Nodup
import Mathlib.Data.List.TakeWhile

/-!
What is collected below a directory: exactly the files that the lists admit, in strictly increasing
order of their components. A list in strict order is determined by its members, so neither the order
in which the files are listed nor that of the settings makes a difference.
-/
namespace DocReport.Files

/-! ### The order of paths -/

/-- Texts in the order of their code points. -/
def textOrder : Text → Text → Prop :=
  List.Lex fun c d => c.toNat < d.toNat

/-- Component lists in the order of their components. -/
def partsOrder : List Text → List Text → Prop :=
  List.Lex textOrder

instance asymm_toNat : Std.Asymm fun c d : Char => c.toNat < d.toNat where
  asymm _ _ := Nat.lt_asymm

instance trichotomous_toNat : Std.Trichotomous fun c d : Char => c.toNat < d.toNat where
  trichotomous c d notLess notGreater := Char.toNat_inj.1 (by omega)

instance asymm_textOrder : Std.Asymm textOrder :=
  List.Lex.asymm _

instance trichotomous_textOrder : Std.Trichotomous textOrder :=
  List.Lex.trichotomous _

instance asymm_partsOrder : Std.Asymm partsOrder :=
  List.Lex.asymm _

instance trichotomous_partsOrder : Std.Trichotomous partsOrder :=
  List.Lex.trichotomous _

theorem partsOrder_trans {a b c : List Text} (first : partsOrder a b) (second : partsOrder b c) :
    partsOrder a c :=
  List.lex_trans (List.lex_trans Nat.lt_trans) first second

theorem before_iff (s t : Text) : Text.before s t = true ↔ textOrder s t := by
  induction s generalizing t with
  | nil => cases t <;> simp [Text.before, textOrder]
  | cons c r ih =>
    cases t with
    | nil => simp [Text.before, textOrder]
    | cons d t =>
      rw [textOrder, List.cons_lex_cons_iff, Text.before, Bool.or_eq_true, Bool.and_eq_true,
        decide_eq_true_iff, beq_iff_eq, ih]
      rfl

theorem partsBefore_iff (a b : List Text) : partsBefore a b = true ↔ partsOrder a b := by
  induction a generalizing b with
  | nil => cases b <;> simp [partsBefore, partsOrder]
  | cons p a ih =>
    cases b with
    | nil => simp [partsBefore, partsOrder]
    | cons q b =>
      rw [partsOrder, List.cons_lex_cons_iff, partsBefore]
      split
      · rename_i same
        subst same
        have never : ¬ textOrder p p := Std.Irrefl.irrefl p
        simp [never, ih, partsOrder]
      · rename_i differs
        simp [differs, before_iff]

/-- What does not come after comes before or is the same. -/
theorem not_partsBefore_iff (a b : List Text) :
    (!partsBefore b a) = true ↔ a = b ∨ partsOrder a b := by
  rw [Bool.not_eq_true', ← Bool.not_eq_true, partsBefore_iff]
  constructor
  · intro notAfter
    by_cases less : partsOrder a b
    · exact .inr less
    · exact .inl (Std.Trichotomous.trichotomous a b less notAfter)
  · rintro (rfl | less) after
    · exact Std.Asymm.asymm _ _ after after
    · exact Std.Asymm.asymm _ _ less after

/-- Lists of paths in strict order with the same members are the same. -/
theorem eq_of_mem_iff {a b : List Path} (ordered : a.Pairwise fun p q => partsOrder p.parts q.parts)
    (ordered' : b.Pairwise fun p q => partsOrder p.parts q.parts) (same : ∀ p, p ∈ a ↔ p ∈ b) :
    a = b := by
  have nodup {list : List Path} (ordered : list.Pairwise fun p q => partsOrder p.parts q.parts) :
      list.Nodup := by
    refine List.Pairwise.imp (fun before same => ?_) ordered
    subst same
    exact Std.Asymm.asymm _ _ before before
  refine List.Perm.eq_of_pairwise (fun p q _ _ before after => ?_) ordered ordered'
    ((List.perm_ext_iff_of_nodup (nodup ordered) (nodup ordered')).2 same)
  exact (Std.Asymm.asymm _ _ before after).elim

/-! ### What is below a place -/

section Below

variable {fs : FileSystem} {base parts : List Text} {filter : Filter}

theorem drop_eq_some_iff {file : List Text} :
    (if base.isPrefixOf file then some (file.drop base.length) else none) = some parts ↔
      file = base ++ parts := by
  constructor
  · intro found
    split at found
    · rename_i below
      obtain ⟨rest, rfl⟩ := List.isPrefixOf_iff_prefix.1 below
      rw [List.drop_left, Option.some.injEq] at found
      rw [found]
    · cases found
  · rintro rfl
    rw [if_pos (List.isPrefixOf_iff_prefix.2 (List.prefix_append _ _)), List.drop_left]

theorem mem_filesBelow : parts ∈ fs.filesBelow base ↔ base ++ parts ∈ fs.files := by
  simp only [FileSystem.filesBelow, List.mem_filterMap, drop_eq_some_iff, exists_eq_right]

theorem nodup_filesBelow (once : fs.files.Nodup) : (fs.filesBelow base).Nodup :=
  once.filterMap fun _ _ _ found found' =>
    (drop_eq_some_iff.1 found).trans (drop_eq_some_iff.1 found').symm

theorem mem_collectBelow :
    parts ∈ collectBelow fs base filter ↔
      base ++ parts ∈ fs.files ∧ filter.admits parts = true := by
  rw [collectBelow, List.mem_mergeSort, List.mem_filter, mem_filesBelow]

/-- What is collected stands in strict order, for each file is listed once. -/
theorem pairwise_collectBelow (once : fs.files.Nodup) :
    (collectBelow fs base filter).Pairwise partsOrder := by
  have sorted : (collectBelow fs base filter).Pairwise fun a b => (!partsBefore b a) = true := by
    refine List.pairwise_mergeSort (fun a b c first second => ?_) (fun a b => ?_) _
    · rw [not_partsBefore_iff] at first second ⊢
      rcases first with rfl | first
      · exact second
      · rcases second with rfl | second
        · exact .inr first
        · exact .inr (partsOrder_trans first second)
    · rw [Bool.or_eq_true, not_partsBefore_iff, not_partsBefore_iff]
      by_cases less : partsOrder a b
      · exact .inl (.inr less)
      · by_cases greater : partsOrder b a
        · exact .inr (.inr greater)
        · exact .inl (.inl (Std.Trichotomous.trichotomous a b less greater))
  have nodup : (collectBelow fs base filter).Nodup :=
    (List.mergeSort_perm _ _).nodup_iff.2 ((nodup_filesBelow once).filter _)
  exact (sorted.and nodup).imp fun ⟨notAfter, differ⟩ =>
    ((not_partsBefore_iff _ _).1 notAfter).resolve_left differ

end Below

/-! ### What the settings admit -/

namespace Path

/-- The suffix of a name: its last dot and what follows it, if the dot is neither first nor last;
else there is none. -/
def HasSuffix (name suffix : Text) : Prop :=
  (∃ stem extension, name = stem ++ '.' :: extension ∧ '.' ∉ extension ∧ stem ≠ [] ∧
    extension ≠ [] ∧ suffix = '.' :: extension) ∨
  (suffix = [] ∧ ∀ stem extension, name = stem ++ '.' :: extension → '.' ∉ extension →
    stem = [] ∨ extension = [])

theorem suffixOf_append {extension : Text} (plain : '.' ∉ extension) (stem : Text) :
    suffixOf (stem ++ '.' :: extension) =
      if stem = [] ∨ extension = [] then [] else '.' :: extension := by
  have last : ((stem ++ '.' :: extension).reverse.takeWhile (· != '.')).reverse = extension :=
    congrArg Prod.snd (Text.cutLast_append plain stem)
  have short : (stem ++ '.' :: extension).length ≤ extension.length + 1 ↔ stem = [] := by
    rw [List.length_append, List.length_cons, ← List.length_eq_zero_iff]
    omega
  simp only [suffixOf, last, short, or_comm]

theorem suffixOf_of_not_mem {name : Text} (plain : '.' ∉ name) : suffixOf name = [] := by
  have whole : name.reverse.takeWhile (· != '.') = name.reverse :=
    List.takeWhile_eq_self_iff.2
      (Text.bne_of_not_mem fun dot => plain (List.mem_reverse.1 dot))
  simp [suffixOf, whole]

theorem exists_last_dot {name : Text} (dotted : '.' ∈ name) :
    ∃ stem extension, name = stem ++ '.' :: extension ∧ '.' ∉ extension := by
  obtain ⟨after, before, reversed, plain⟩ :=
    List.eq_append_cons_of_mem (List.mem_reverse.2 dotted)
  refine ⟨before.reverse, after.reverse, ?_, fun dot => plain (List.mem_reverse.1 dot)⟩
  simpa using congrArg List.reverse reversed

theorem hasSuffix_iff {name suffix : Text} : HasSuffix name suffix ↔ suffix = suffixOf name := by
  constructor
  · rintro (⟨stem, extension, rfl, plain, front, back, rfl⟩ | ⟨rfl, bare⟩)
    · rw [suffixOf_append plain, if_neg (not_or.2 ⟨front, back⟩)]
    · by_cases dotted : '.' ∈ name
      · obtain ⟨stem, extension, rfl, plain⟩ := exists_last_dot dotted
        rw [suffixOf_append plain, if_pos (bare stem extension rfl plain)]
      · exact (suffixOf_of_not_mem dotted).symm
  · rintro rfl
    by_cases dotted : '.' ∈ name
    · obtain ⟨stem, extension, rfl, plain⟩ := exists_last_dot dotted
      rw [suffixOf_append plain]
      split
      · rename_i bare
        refine .inr ⟨rfl, fun stem' extension' same plain' => ?_⟩
        have cut := congrArg (Text.cutLast '.') same
        rw [Text.cutLast_append plain, Text.cutLast_append plain', Prod.mk.injEq] at cut
        rwa [← cut.1, ← cut.2]
      · rename_i full
        exact .inl ⟨stem, extension, rfl, plain, (not_or.1 full).1, (not_or.1 full).2, rfl⟩
    · refine .inr ⟨suffixOf_of_not_mem dotted, fun stem extension same _ => ?_⟩
      exact absurd (by simp [same]) dotted

end Path

/-- The settings that three lists of texts make. -/
def selectionOf (extensions excludedDirectories excludedFiles : List Text) : Settings.Selection :=
  { extensions := .list (extensions.map .text)
    excludedDirectories := .list (excludedDirectories.map .text)
    excludedFiles := .list (excludedFiles.map .text) }

theorem lowered_texts (texts : List Text) :
    Filter.lowered (texts.map .text) = .ok (texts.map Text.lower) := by
  induction texts with
  | nil => rfl
  | cons t rest ih =>
    rw [List.map_cons, Filter.lowered, ih]
    rfl

theorem names_texts (texts : List Text) : Filter.names (texts.map .text) = .ok texts := by
  induction texts with
  | nil => rfl
  | cons t rest ih =>
    rw [List.map_cons, Filter.names, ih]
    rfl

theorem ofSelection_selectionOf (extensions excludedDirectories excludedFiles : List Text) :
    Filter.ofSelection (selectionOf extensions excludedDirectories excludedFiles) =
      .ok ⟨extensions.map Text.lower, excludedDirectories, excludedFiles.map Text.lower⟩ := by
  simp only [Filter.ofSelection, selectionOf, Filter.items, lowered_texts, names_texts, bind,
    Except.bind]

/-- What it takes for a file to be a source, by its components below the root. -/
structure IsSource (fs : FileSystem) (root : Path)
    (extensions excludedDirectories excludedFiles parts : List Text) : Prop where
  names : ∀ part ∈ parts, Path.isName part = true
  file : fs.isFile (root.join ⟨[], parts⟩) = true
  suffix : ∃ suffix, Path.HasSuffix (Path.name ⟨[], parts⟩) suffix ∧
    Text.lower suffix ∈ extensions.map Text.lower
  directories : ∀ part ∈ parts.dropLast, part ∉ excludedDirectories
  name : Text.lower (Path.name ⟨[], parts⟩) ∉ excludedFiles.map Text.lower

theorem admits_iff {extensions excludedDirectories excludedFiles parts : List Text} :
    Filter.admits ⟨extensions.map Text.lower, excludedDirectories, excludedFiles.map Text.lower⟩
        parts = true ↔
      (∃ suffix, Path.HasSuffix (Path.name ⟨[], parts⟩) suffix ∧
        Text.lower suffix ∈ extensions.map Text.lower) ∧
      (∀ part ∈ parts.dropLast, part ∉ excludedDirectories) ∧
      Text.lower (Path.name ⟨[], parts⟩) ∉ excludedFiles.map Text.lower := by
  simp only [Path.hasSuffix_iff, exists_eq_left, Filter.admits, Path.name, List.any_beq',
    Bool.and_eq_true, Bool.not_eq_true', ← Bool.not_eq_true, List.contains_iff_mem,
    List.any_eq_true, not_exists, not_and, and_assoc]

/-! ### Exactly the sources -/

section Sources

variable {fs other : FileSystem} {root : Text}
  {extensions excludedDirectories excludedFiles parts : List Text}

theorem mem_collectBelow_iff_isSource (tree : fs.IsTree) {start : Path} {base : List Text}
    (leads : fs.place start = .ok base) :
    parts ∈ collectBelow fs base
        ⟨extensions.map Text.lower, excludedDirectories, excludedFiles.map Text.lower⟩ ↔
      IsSource fs start extensions excludedDirectories excludedFiles parts := by
  have down (named : ∀ part ∈ parts, Path.isName part = true) : ['.', '.'] ∉ parts := fun up =>
    (Path.isName_iff.1 (named _ up)).2 rfl
  rw [mem_collectBelow, admits_iff]
  constructor
  · rintro ⟨listed, suffix, directories, name⟩
    have named : ∀ part ∈ parts, Path.isName part = true := fun part member =>
      tree.isName_of_mem_files listed (List.mem_append_right base member)
    exact ⟨named, (tree.isFile_join_iff leads (down named)).2 listed, suffix, directories, name⟩
  · intro source
    exact ⟨(tree.isFile_join_iff leads (down source.names)).1 source.file, source.suffix,
      source.directories, source.name⟩

theorem place_of_isSource {start : Path}
    (source : IsSource fs start extensions excludedDirectories excludedFiles parts) :
    ∃ base, fs.place start = .ok base := by
  obtain ⟨content, read⟩ := FileSystem.isFile_iff.1 source.file
  obtain ⟨place, leads, -⟩ := FileSystem.read_eq_ok.1 read
  cases first : fs.place start with
  | ok base => exact ⟨base, rfl⟩
  | error obstacle =>
    rw [FileSystem.place_join, first] at leads
    cases leads

/-- What is collected below a root that is no file, as a list in strict order. -/
theorem collect_eq_sources (tree : fs.IsTree)
    (directory : fs.isFile (Path.ofText root) = false)
    (extensions excludedDirectories excludedFiles : List Text) :
    ∃ files, collect fs root (selectionOf extensions excludedDirectories excludedFiles) =
        .ok files ∧
      (files.Pairwise fun p q => partsOrder p.parts q.parts) ∧
      ∀ p, p ∈ files ↔ ∃ parts, p = (Path.ofText root).join ⟨[], parts⟩ ∧
        IsSource fs (Path.ofText root) extensions excludedDirectories excludedFiles parts := by
  have filtered := ofSelection_selectionOf extensions excludedDirectories excludedFiles
  cases leads : fs.place (Path.ofText root) with
  | error obstacle =>
    refine ⟨[], ?_, List.Pairwise.nil, fun p => iff_of_false List.not_mem_nil ?_⟩
    · rw [collect]
      simp only [directory, filtered, leads]
      rfl
    · rintro ⟨parts, -, source⟩
      obtain ⟨base, found⟩ := place_of_isSource source
      rw [leads] at found
      cases found
  | ok base =>
    refine ⟨_, collect_below directory leads filtered, ?_, fun p => ?_⟩
    · rw [List.pairwise_map]
      exact (pairwise_collectBelow tree.once).imp fun before => List.Lex.append_left _ before _
    · simp only [List.mem_map, mem_collectBelow_iff_isSource tree leads, eq_comm, and_comm]

/-- Being a source depends on what the lists hold and what the file system holds, not on the order
of either. -/
theorem IsSource.of_perm {start : Path}
    {extensions' excludedDirectories' excludedFiles' : List Text}
    (source : IsSource fs start extensions excludedDirectories excludedFiles parts)
    (tree : fs.IsTree) (here : other.here = fs.here) (items : other.items.Perm fs.items)
    (suffixes : ∀ t, t ∈ extensions' ↔ t ∈ extensions)
    (directories : ∀ t, t ∈ excludedDirectories' ↔ t ∈ excludedDirectories)
    (files : ∀ t, t ∈ excludedFiles' ↔ t ∈ excludedFiles) :
    IsSource other start extensions' excludedDirectories' excludedFiles' parts where
  names := source.names
  file := (tree.isFile_of_perm items here _).trans source.file
  suffix := by simpa only [List.mem_map, suffixes] using source.suffix
  directories := by simpa only [directories] using source.directories
  name := by simpa only [List.mem_map, files] using source.name

/-- Below a root that is no file, exactly the files are collected whose suffix in lower case is
among the extensions in lower case, none of whose directories is excluded and whose name in lower
case is not among the excluded ones in lower case. They stand in strictly increasing order of their
components, whatever the order of the listing and the order and repetition within the lists. -/
theorem collect_exact_and_independent (tree : fs.IsTree)
    (directory : fs.isFile (Path.ofText root) = false)
    (extensions excludedDirectories excludedFiles : List Text) :
    (∃ files, collect fs root (selectionOf extensions excludedDirectories excludedFiles) =
        .ok files ∧
      (files.Pairwise fun p q => partsOrder p.parts q.parts) ∧
      ∀ p, p ∈ files ↔ ∃ parts, p = (Path.ofText root).join ⟨[], parts⟩ ∧
        IsSource fs (Path.ofText root) extensions excludedDirectories excludedFiles parts) ∧
    ∀ (other : FileSystem) (extensions' excludedDirectories' excludedFiles' : List Text),
      other.here = fs.here → other.items.Perm fs.items →
      (∀ t, t ∈ extensions' ↔ t ∈ extensions) →
      (∀ t, t ∈ excludedDirectories' ↔ t ∈ excludedDirectories) →
      (∀ t, t ∈ excludedFiles' ↔ t ∈ excludedFiles) →
      collect other root (selectionOf extensions' excludedDirectories' excludedFiles') =
        collect fs root (selectionOf extensions excludedDirectories excludedFiles) := by
  have collected := collect_eq_sources tree directory extensions excludedDirectories excludedFiles
  refine ⟨collected, ?_⟩
  intro other extensions' excludedDirectories' excludedFiles' here items suffixes directories names
  have tree' := tree.of_perm items
  obtain ⟨files, result, ordered, sources⟩ := collected
  obtain ⟨files', result', ordered', sources'⟩ := collect_eq_sources tree'
    ((tree.isFile_of_perm items here _).trans directory) extensions' excludedDirectories'
    excludedFiles'
  rw [result, result']
  refine congrArg _ (eq_of_mem_iff ordered' ordered fun p => ?_)
  rw [sources, sources']
  refine exists_congr fun parts => and_congr_right fun _ => ⟨fun source => ?_, fun source => ?_⟩
  · exact source.of_perm tree' here.symm items.symm (fun t => (suffixes t).symm)
      (fun t => (directories t).symm) fun t => (names t).symm
  · exact source.of_perm tree here items suffixes directories names

end Sources

/-- Sources next to built files, hidden files and files without a suffix. -/
def shelfFiles : FileSystem :=
  { here := [['w']]
    items := [([['w'], "z.v2.CS".toList], .file []), ([['w']], .directory),
      ([['w'], "a".toList, "b.cs".toList], .file []), ([['w'], "a".toList], .directory),
      ([['w'], "a".toList, "Gone.cs".toList], .file []), ([['w'], ".cs".toList], .file []),
      ([['w'], "obj".toList], .directory), ([['w'], "obj".toList, "c.cs".toList], .file [])] }

theorem collect_exact_on_shelf :
    shelfFiles.IsTree ∧ shelfFiles.isFile (Path.ofText ['.']) = false ∧
    (∃ files, collect shelfFiles ['.']
          (selectionOf [".Cs".toList] ["obj".toList] ["gone.CS".toList]) = .ok files ∧
      (files.Pairwise fun p q => partsOrder p.parts q.parts) ∧
      ∀ p, p ∈ files ↔ ∃ parts, p = (Path.ofText ['.']).join ⟨[], parts⟩ ∧
        IsSource shelfFiles (Path.ofText ['.']) [".Cs".toList] ["obj".toList] ["gone.CS".toList]
          parts) ∧
    collect { shelfFiles with items := shelfFiles.items.reverse } ['.']
        (selectionOf [".Cs".toList, ".Cs".toList] ["obj".toList, "obj".toList]
          ["gone.CS".toList]) =
      collect shelfFiles ['.']
        (selectionOf [".Cs".toList] ["obj".toList] ["gone.CS".toList]) := by
  have tree : shelfFiles.IsTree := by decide +kernel
  have directory : shelfFiles.isFile (Path.ofText ['.']) = false := by decide +kernel
  obtain ⟨sources, independent⟩ := collect_exact_and_independent tree directory [".Cs".toList]
    ["obj".toList] ["gone.CS".toList]
  exact ⟨tree, directory, sources, independent _ _ _ _ rfl (List.reverse_perm _) (by simp) (by simp)
    fun _ => Iff.rfl⟩

end DocReport.Files

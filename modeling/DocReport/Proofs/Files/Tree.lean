import DocReport.Proofs.Files.Selection
import Mathlib.Data.List.Induction

/-!
Directory trees: file systems whose items lie in directories and have names that paths can spell.
In a tree a path below a directory leads to a file exactly if that file is listed, and the order in
which the items are listed does not matter.
-/
namespace DocReport.Files.FileSystem

variable {fs other : FileSystem} {place parts : List Text} {item : Item}

/-- What every place of a tree of files and directories satisfies: what is listed is what is found,
each file is listed once, and items lie in directories and have names. -/
structure IsTree (fs : FileSystem) : Prop where
  agree : ∀ entry ∈ fs.items, fs.at? entry.1 = some entry.2
  once : fs.files.Nodup
  inside : ∀ entry ∈ fs.items, fs.isDirectoryAt entry.1.dropLast = true
  named : ∀ entry ∈ fs.items, ∀ part ∈ entry.1, Path.isName part = true

instance (fs : FileSystem) : Decidable fs.IsTree :=
  decidable_of_iff
    ((∀ entry ∈ fs.items, fs.at? entry.1 = some entry.2) ∧ fs.files.Nodup ∧
      (∀ entry ∈ fs.items, fs.isDirectoryAt entry.1.dropLast = true) ∧
      ∀ entry ∈ fs.items, ∀ part ∈ entry.1, Path.isName part = true)
    ⟨fun ⟨agree, once, inside, named⟩ => ⟨agree, once, inside, named⟩,
      fun tree => ⟨tree.agree, tree.once, tree.inside, tree.named⟩⟩

theorem mem_items_of_at? (below : place ≠ []) (found : fs.at? place = some item) :
    (place, item) ∈ fs.items := by
  rw [at?, if_neg below] at found
  obtain ⟨front, back, split, -⟩ := List.lookup_eq_some_iff.1 found
  rw [split]
  exact List.mem_append_right front List.mem_cons_self

theorem mem_files_iff_mem_items :
    place ∈ fs.files ↔ ∃ content, (place, .file content) ∈ fs.items := by
  rw [files, List.mem_filterMap]
  constructor
  · rintro ⟨⟨spot, item⟩, listed, file⟩
    cases item with
    | directory => cases file
    | file content =>
      cases file
      exact ⟨content, listed⟩
  · rintro ⟨content, listed⟩
    exact ⟨_, listed, rfl⟩

namespace IsTree

/-- A file is listed exactly if it is found. -/
theorem mem_files_iff (tree : fs.IsTree) :
    place ∈ fs.files ↔ ∃ content, fs.at? place = some (.file content) := by
  rw [mem_files_iff_mem_items]
  refine exists_congr fun content => ⟨tree.agree _, fun found => mem_items_of_at? ?_ found⟩
  rintro rfl
  cases found

theorem isName_of_mem_files (tree : fs.IsTree) (listed : place ∈ fs.files) {part : Text}
    (member : part ∈ place) : Path.isName part = true := by
  obtain ⟨content, there⟩ := mem_files_iff_mem_items.1 listed
  exact tree.named _ there part member

/-- What lies above something is a directory, by induction upwards. -/
theorem isDirectoryAt_above (tree : fs.IsTree) {above rest : List Text} (further : rest ≠ [])
    (found : fs.at? (above ++ rest) ≠ none) : fs.isDirectoryAt above = true := by
  induction rest using List.reverseRecOn with
  | nil => exact absurd rfl further
  | append_singleton front last ih =>
    obtain ⟨item, there⟩ := Option.ne_none_iff_exists'.1 found
    have listed := mem_items_of_at? (by simp) there
    have directory := tree.inside _ listed
    rw [← List.append_assoc, List.dropLast_concat] at directory
    by_cases done : front = []
    · rwa [done, List.append_nil] at directory
    · refine ih done ?_
      rw [eq_of_beq directory]
      exact Option.some_ne_none _

/-- Names lead down to whatever is there. -/
theorem walk_eq (tree : fs.IsTree) {base : List Text} (names : ['.', '.'] ∉ parts)
    (found : fs.at? (base ++ parts) ≠ none) : fs.walk base parts = .ok (base ++ parts) := by
  induction parts generalizing base with
  | nil => simp [walk]
  | cons part rest ih =>
    have down : part ≠ ['.', '.'] := fun up => names (up ▸ List.mem_cons_self)
    have through := tree.isDirectoryAt_above (List.cons_ne_nil part rest) found
    have further := @ih (base ++ [part]) (fun up => names (List.mem_cons_of_mem _ up))
      (by simpa using found)
    rw [walk, if_pos through, if_neg down, further, List.append_assoc]
    rfl

/-- A path of names below a place leads to a file exactly if the file is listed. -/
theorem isFile_join_iff (tree : fs.IsTree) {root : Path} {base : List Text}
    (leads : fs.place root = .ok base) (names : ['.', '.'] ∉ parts) :
    fs.isFile (root.join ⟨[], parts⟩) = true ↔ base ++ parts ∈ fs.files := by
  rw [isFile_iff, tree.mem_files_iff]
  refine exists_congr fun content => ?_
  rw [read_eq_ok, place_join, leads]
  constructor
  · rintro ⟨place, down, found⟩
    rwa [walk_of_names names down] at found
  · intro found
    exact ⟨_, tree.walk_eq names (by simp [found]), found⟩

/-! ### The order of the listing -/

theorem at?_of_perm (tree : fs.IsTree) (same : other.items.Perm fs.items) (place : List Text) :
    other.at? place = fs.at? place := by
  by_cases root : place = []
  · rw [root]
    rfl
  cases found : other.at? place with
  | some item => exact (tree.agree _ (same.mem_iff.1 (mem_items_of_at? root found))).symm
  | none =>
    cases held : fs.at? place with
    | none => rfl
    | some item =>
      have listed := same.mem_iff.2 (mem_items_of_at? root held)
      rw [at?, if_neg root, List.lookup_eq_none_iff] at found
      simpa using found _ listed

theorem of_perm (tree : fs.IsTree) (same : other.items.Perm fs.items) : other.IsTree where
  agree entry listed := by
    rw [tree.at?_of_perm same]
    exact tree.agree entry (same.mem_iff.1 listed)
  once := (same.filterMap _).nodup_iff.2 tree.once
  inside entry listed := by
    rw [isDirectoryAt, tree.at?_of_perm same]
    exact tree.inside entry (same.mem_iff.1 listed)
  named entry listed := tree.named entry (same.mem_iff.1 listed)

theorem walk_of_perm (tree : fs.IsTree) (same : other.items.Perm fs.items)
    (here parts : List Text) : other.walk here parts = fs.walk here parts := by
  induction parts generalizing here with
  | nil => rfl
  | cons part rest ih =>
    simp only [walk, isDirectoryAt, tree.at?_of_perm same, ih]
    rfl

theorem isFile_of_perm (tree : fs.IsTree) (same : other.items.Perm fs.items)
    (here : other.here = fs.here) (p : Path) : other.isFile p = fs.isFile p := by
  simp only [isFile, item?, place, here, tree.walk_of_perm same, tree.at?_of_perm same]

end IsTree

end DocReport.Files.FileSystem

import DocReport.Proofs.Files.Writing

/-!
What is left alone by a program that makes directories where there is nothing and writes to some
files. Directories stay directories and files stay files, so every path that leads somewhere leads
there still, and all files are the same but those to which one of the written paths leads.
-/
namespace DocReport

namespace Files.FileSystem

open Text (Octets)

variable {fs middle after : FileSystem} {written : List Path} {p : Path}

/-- None of some paths leads to a place. -/
def Spares (fs : FileSystem) (written : List Path) (place : List Text) : Prop :=
  ∀ p ∈ written, fs.place p ≠ .ok place

/-- What the files are after some were written to: the working directory and all directories are
kept, files stay files, and those that are spared keep their content and their order. -/
structure Keeps (written : List Path) (fs after : FileSystem) : Prop where
  here : after.here = fs.here
  directory : ∀ {place}, fs.at? place = some .directory → after.at? place = some .directory
  file : ∀ {place content}, fs.at? place = some (.file content) →
    ∃ now, after.at? place = some (.file now)
  content : ∀ {place content}, after.Spares written place →
    fs.at? place = some (.file content) → after.at? place = some (.file content)
  order : ∀ keep : List Text → Bool, (∀ place, keep place = true → after.Spares written place) →
    after.files.filter keep = fs.files.filter keep

namespace Keeps

theorem refl (written : List Path) (fs : FileSystem) : Keeps written fs fs where
  here := rfl
  directory found := found
  file found := ⟨_, found⟩
  content _ found := found
  order _ _ := rfl

/-- Every path leads where it led. -/
theorem place (keeps : Keeps written fs after) {found : List Text}
    (leads : fs.place p = .ok found) : after.place p = .ok found := by
  rw [FileSystem.place, keeps.here]
  refine walk_of_directories (fun spot directory => ?_) leads
  have held : fs.at? spot = some .directory := by simpa [isDirectoryAt] using directory
  simp [isDirectoryAt, keeps.directory held]

theorem spares (keeps : Keeps written fs after) {others : List Path} {place : List Text}
    (spared : after.Spares others place) : fs.Spares others place :=
  fun p member leads => spared p member (keeps.place leads)

theorem trans (first : Keeps written fs middle) (second : Keeps written middle after) :
    Keeps written fs after where
  here := second.here.trans first.here
  directory found := second.directory (first.directory found)
  file found := by
    obtain ⟨now, kept⟩ := first.file found
    exact second.file kept
  content spared found := second.content spared (first.content (second.spares spared) found)
  order keep spared :=
    (second.order keep spared).trans
      (first.order keep fun place kept => second.spares (spared place kept))

theorem mono {more : List Path} (keeps : Keeps written fs after) (part : written ⊆ more) :
    Keeps more fs after where
  here := keeps.here
  directory := keeps.directory
  file := keeps.file
  content spared := keeps.content fun p member => spared p (part member)
  order keep spared := keeps.order keep fun place kept p member => spared place kept p (part member)

end Keeps

section Looking

theorem isFile_iff : fs.isFile p = true ↔ ∃ content, fs.read p = .ok content := by
  unfold isFile item? read
  cases fs.place p with
  | error obstacle => simp
  | ok place =>
    dsimp only
    cases fs.at? place with
    | none => simp
    | some item => cases item <;> simp

theorem isDirectory_iff :
    fs.isDirectory p = true ↔ ∃ place, fs.place p = .ok place ∧ fs.at? place = some .directory := by
  simp only [isDirectory, item?]
  cases fs.place p with
  | error obstacle => simp
  | ok place => simp

theorem exists?_iff : fs.exists? p = true ↔ fs.isFile p = true ∨ fs.isDirectory p = true := by
  simp only [exists?, isFile, isDirectory]
  cases fs.item? p with
  | none => simp
  | some item => cases item <;> simp

theorem not_isDirectory_of_isFile (found : fs.isFile p = true) : fs.isDirectory p = false := by
  simp only [isFile, isDirectory] at found ⊢
  cases held : fs.item? p with
  | none => rfl
  | some item =>
    cases item with
    | directory => simp [held] at found
    | file content => rfl

theorem Keeps.isFile (keeps : Keeps written fs after) (found : fs.isFile p = true) :
    after.isFile p = true := by
  obtain ⟨content, held⟩ := isFile_iff.1 found
  obtain ⟨place, leads, found⟩ := read_eq_ok.1 held
  obtain ⟨now, kept⟩ := keeps.file found
  exact isFile_iff.2 ⟨now, read_eq_ok.2 ⟨place, keeps.place leads, kept⟩⟩

theorem Keeps.isDirectory (keeps : Keeps written fs after) (found : fs.isDirectory p = true) :
    after.isDirectory p = true := by
  obtain ⟨place, leads, held⟩ := isDirectory_iff.1 found
  exact isDirectory_iff.2 ⟨place, keeps.place leads, keeps.directory held⟩

theorem Keeps.exists? (keeps : Keeps written fs after) (found : fs.exists? p = true) :
    after.exists? p = true :=
  exists?_iff.2 ((exists?_iff.1 found).imp keeps.isFile keeps.isDirectory)

theorem place_of_exists? (found : fs.exists? p = true) : ∃ place, fs.place p = .ok place := by
  rcases exists?_iff.1 found with file | directory
  · obtain ⟨content, held⟩ := isFile_iff.1 file
    obtain ⟨place, leads, -⟩ := read_eq_ok.1 held
    exact ⟨place, leads⟩
  · obtain ⟨place, leads, -⟩ := isDirectory_iff.1 directory
    exact ⟨place, leads⟩

theorem Keeps.place_eq (keeps : Keeps written fs after) (found : fs.exists? p = true) :
    after.place p = fs.place p := by
  obtain ⟨place, leads⟩ := place_of_exists? found
  rw [leads, keeps.place leads]

/-- What is there stays what it is. -/
theorem Keeps.isFile_eq (keeps : Keeps written fs after) (found : fs.exists? p = true) :
    after.isFile p = fs.isFile p := by
  rcases exists?_iff.1 found with file | directory
  · rw [file, keeps.isFile file]
  · cases file : fs.isFile p with
    | true => exact keeps.isFile file
    | false =>
      cases later : after.isFile p with
      | false => rfl
      | true =>
        have never := not_isDirectory_of_isFile later
        rw [keeps.isDirectory directory] at never
        cases never

/-- A file that none of the written paths leads to is read as before. -/
theorem Keeps.read {content : Octets} (keeps : Keeps written fs after)
    (apart : ∀ other ∈ written, after.place other ≠ after.place p)
    (held : fs.read p = .ok content) : after.read p = .ok content := by
  obtain ⟨place, leads, found⟩ := read_eq_ok.1 held
  have leadsStill := keeps.place leads
  have spared : after.Spares written place := fun other member same =>
    apart other member (same.trans leadsStill.symm)
  exact read_eq_ok.2 ⟨place, leadsStill, keeps.content spared found⟩

end Looking

section Putting

variable {place : List Text}

theorem files_put_file (content : Octets) :
    (fs.put place (.file content)).files = fs.files.filter (· != place) ++ [place] := by
  simp only [files, put, List.filterMap_append, List.filterMap_filter, List.filter_filterMap]
  congr 2
  funext entry
  obtain ⟨spot, item⟩ := entry
  cases item <;> simp [Option.filter]

theorem files_put_directory :
    (fs.put place .directory).files = fs.files.filter (· != place) := by
  simp only [files, put, List.filterMap_append, List.filterMap_filter, List.filter_filterMap]
  refine (List.append_nil _).trans (congrArg (List.filterMap · fs.items) (funext fun entry => ?_))
  obtain ⟨spot, item⟩ := entry
  cases item <;> simp [Option.filter]

theorem at?_of_mem_files (member : place ∈ fs.files) : fs.at? place ≠ none := by
  obtain ⟨⟨spot, item⟩, listed, found⟩ := List.mem_filterMap.1 member
  have same : spot = place := by
    cases item with
    | directory => cases found
    | file content => exact Option.some.inj found
  subst same
  unfold at?
  split
  · simp
  · intro missing
    simpa using List.lookup_eq_none_iff.1 missing _ listed

theorem at?_put_directory (free : fs.at? place = none) {spot : List Text} {item : Item}
    (found : fs.at? spot = some item) : (fs.put place .directory).at? spot = some item := by
  rw [at?_put_of_ne]
  · exact found
  · rintro rfl
    rw [free] at found
    cases found

/-- Where there was nothing a directory is made, and nothing is lost. -/
theorem keeps_put_directory (free : fs.at? place = none) :
    Keeps written fs (fs.put place .directory) where
  here := rfl
  directory found := at?_put_directory free found
  file found := ⟨_, at?_put_directory free found⟩
  content _ found := at?_put_directory free found
  order keep _ := by
    have absent : place ∉ fs.files := fun member => at?_of_mem_files member free
    have others : fs.files.filter (· != place) = fs.files :=
      List.filter_eq_self.2 fun spot member => by
        simpa using fun same : spot = place => absent (same ▸ member)
    rw [files_put_directory, others]

/-- Writing a file changes that file only. -/
theorem keeps_put_file (free : fs.at? place ≠ some .directory) (content : Octets)
    (member : p ∈ written) (leads : fs.place p = .ok place) :
    Keeps written fs (fs.put place (.file content)) where
  here := rfl
  directory {spot} found := by
    rw [at?_put_of_ne]
    · exact found
    · rintro rfl
      exact free found
  file {spot old} found := by
    by_cases same : spot = place
    · exact ⟨content, by rw [same, at?_put_self _ _ (ne_nil_of_not_directory free)]⟩
    · exact ⟨old, by rw [at?_put_of_ne _ _ same, found]⟩
  content {spot old} spared found := by
    rw [at?_put_of_ne]
    · exact found
    · rintro rfl
      exact spared p member (place_put free content leads)
  order keep spared := by
    have dropped : keep place = false :=
      Bool.eq_false_iff.2 fun kept => spared place kept p member (place_put free content leads)
    rw [files_put_file, List.filter_append, List.filter_filter,
      List.filter_cons_of_neg (by simp [dropped]), List.filter_nil, List.append_nil]
    refine List.filter_congr fun spot _ => ?_
    by_cases same : spot = place
    · simp [same, dropped]
    · simp [same]

end Putting

section Operations

variable {change : Octets → Octets}

theorem keeps_update (done : fs.update p change = .ok after) (member : p ∈ written) :
    Keeps written fs after := by
  obtain ⟨place, old, leads, free, -, rfl⟩ := update_eq_ok done
  exact keeps_put_file free _ member leads

theorem isFile_of_update (done : fs.update p change = .ok after) : after.isFile p = true := by
  obtain ⟨place, old, leads, free, -, rfl⟩ := update_eq_ok done
  exact isFile_iff.2 ⟨_, read_eq_ok.2 ⟨place, place_put free _ leads,
    at?_put_self fs _ (ne_nil_of_not_directory free)⟩⟩

/-- A file that is there can be written to. -/
theorem exists_update (found : fs.isFile p = true) (change : Octets → Octets) :
    ∃ after, fs.update p change = .ok after := by
  obtain ⟨content, held⟩ := isFile_iff.1 found
  obtain ⟨place, leads, found⟩ := read_eq_ok.1 held
  exact ⟨fs.put place (.file (change content)), by simp only [update, leads, found]⟩

theorem makeOne_eq_ok (written : List Path) (done : fs.makeOne p = .ok after) :
    Keeps written fs after ∧ after.isDirectory p = true := by
  unfold makeOne at done
  cases leads : fs.place p with
  | error obstacle => rw [leads] at done; cases done
  | ok place =>
    rw [leads] at done
    dsimp only at done
    cases free : fs.at? place with
    | some item => simp [free] at done
    | none =>
      simp only [free, Option.isSome_none, Bool.false_eq_true, if_false] at done
      split at done
      · cases done
        have keeps : Keeps written fs (fs.put place .directory) := keeps_put_directory free
        have below : place ≠ [] := by
          rintro rfl
          cases free
        exact ⟨keeps, isDirectory_iff.2 ⟨place, keeps.place leads, at?_put_self fs _ below⟩⟩
      · cases done

/-- What is a directory already is not made again. -/
theorem makeOne_of_isDirectory (found : fs.isDirectory p = true) :
    fs.makeOne p = .error ⟨.occupied, p.toText⟩ := by
  obtain ⟨place, leads, held⟩ := isDirectory_iff.1 found
  simp [makeOne, leads, held]

/-- Makes a directory where those above it are there; one that exists is kept. -/
def makeHere (fs : FileSystem) (p : Path) : Except AccessFault FileSystem :=
  match fs.makeOne p with
  | .ok made => .ok made
  | .error fault => if fs.isDirectory p then .ok fs else .error fault

theorem makeHere_eq_ok (written : List Path) (done : fs.makeHere p = .ok after) :
    Keeps written fs after ∧ after.isDirectory p = true := by
  unfold makeHere at done
  cases one : fs.makeOne p with
  | ok made =>
    rw [one] at done
    cases done
    exact makeOne_eq_ok written one
  | error fault =>
    rw [one] at done
    dsimp only at done
    split at done
    · rename_i there
      cases done
      exact ⟨.refl _ _, there⟩
    · cases done

theorem makeHere_of_isDirectory (found : fs.isDirectory p = true) : fs.makeHere p = .ok fs := by
  rw [makeHere, makeOne_of_isDirectory found]
  exact if_pos found

/-- Directories are made at once, or from above where one is missing. -/
theorem makeFrom_cons (fs : FileSystem) (anchor part : Text) (above : List Text) :
    fs.makeFrom anchor (part :: above) = fs.makeHere ⟨anchor, (part :: above).reverse⟩ ∨
      fs.makeFrom anchor (part :: above) =
        fs.makeFrom anchor above >>= (·.makeHere ⟨anchor, (part :: above).reverse⟩) := by
  rw [makeFrom, makeHere]
  cases fs.makeOne ⟨anchor, (part :: above).reverse⟩ with
  | ok made => exact .inl rfl
  | error fault =>
    dsimp only
    split
    · exact .inr rfl
    · exact .inl rfl

/-- Making directories loses nothing, and the directory is there in the end. The induction is on
the components, last one first, as directories are made from above. -/
theorem makeFrom_eq_ok (written : List Path) {anchor : Text} {parts : List Text}
    (done : fs.makeFrom anchor parts = .ok after) :
    Keeps written fs after ∧ after.isDirectory ⟨anchor, parts.reverse⟩ = true := by
  induction parts generalizing after with
  | nil => exact makeHere_eq_ok written done
  | cons part above ih =>
    rcases fs.makeFrom_cons anchor part above with one | both
    · exact makeHere_eq_ok written (one.symm.trans done)
    · rw [both] at done
      cases upper : fs.makeFrom anchor above with
      | error fault => rw [upper] at done; cases done
      | ok middle =>
        rw [upper] at done
        have lower : middle.makeHere ⟨anchor, (part :: above).reverse⟩ = .ok after := done
        obtain ⟨more, there⟩ := makeHere_eq_ok written lower
        exact ⟨(ih upper).1.trans more, there⟩

theorem makeFrom_of_isDirectory {anchor : Text} {parts : List Text}
    (found : fs.isDirectory ⟨anchor, parts.reverse⟩ = true) :
    fs.makeFrom anchor parts = .ok fs := by
  cases parts with
  | nil => exact makeHere_of_isDirectory found
  | cons part above =>
    rw [makeFrom, makeOne_of_isDirectory found]
    exact (if_neg (by simp)).trans (if_pos found)

theorem makeDirectory_eq_ok (written : List Path) (done : fs.makeDirectory p = .ok after) :
    Keeps written fs after ∧ after.isDirectory p = true := by
  have made := makeFrom_eq_ok written done
  rwa [List.reverse_reverse] at made

theorem makeDirectory_of_isDirectory (found : fs.isDirectory p = true) :
    fs.makeDirectory p = .ok fs :=
  makeFrom_of_isDirectory (by rwa [List.reverse_reverse])

end Operations

end Files.FileSystem

end DocReport

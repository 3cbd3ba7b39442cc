import DocReport.Proofs.Compilation.Search
import DocReport.Proofs.Report.Outline

/-!
The order of files in a compilation. A key leads to the first declaration that goes by it, so the
index depends on the order as soon as two files give different meanings to a key. Where they do
not, every order answers every question alike, and a report is the same chunks in another order.
-/
namespace DocReport.Compilation

open DocReport.Symbol

/-- Files that give the same meaning to every key they both have. -/
def SameMeaning (file other : SourceFile) : Prop :=
  ∀ d ∈ file.declarations, ∀ e ∈ other.declarations, ∀ key ∈ keys d, key ∈ keys e →
    documentationId d = documentationId e

instance (file other : SourceFile) : Decidable (SameMeaning file other) :=
  inferInstanceAs (Decidable (∀ d ∈ file.declarations, _))

theorem SameMeaning.symm {file other : SourceFile} (same : SameMeaning file other) :
    SameMeaning other file := fun e inOther d inFile key named shared =>
  (same d inFile e inOther key shared named).symm

/-- What a key means in a file of its own. -/
def meaning? (key : Text) (file : SourceFile) : Option Text :=
  (file.declarations.find? (GoesBy · key)).map documentationId

theorem meaning?_eq_some {key id : Text} {file : SourceFile} (found : meaning? key file = some id) :
    ∃ d ∈ file.declarations, key ∈ keys d ∧ documentationId d = id := by
  obtain ⟨d, first, same⟩ := Option.map_eq_some_iff.1 found
  have named : GoesBy d key := by simpa using List.find?_some first
  exact ⟨d, List.mem_of_find?_eq_some first, (mem_keys_iff d key).2 named, same⟩

theorem SameMeaning.meaning?_eq {file other : SourceFile} (same : SameMeaning file other)
    {key id id' : Text} (found : meaning? key file = some id)
    (found' : meaning? key other = some id') : id = id' := by
  obtain ⟨d, inFile, named, rfl⟩ := meaning?_eq_some found
  obtain ⟨e, inOther, shared, rfl⟩ := meaning?_eq_some found'
  exact same d inFile e inOther key named shared

/-- A key leads to what it means in the first file that has it. -/
theorem find?_ofFiles_meaning (files : List SourceFile) (key : Text) :
    (Index.ofFiles files).find? key = files.findSome? (meaning? key) := by
  rw [Index.find?_ofFiles, declarations, List.find?_flatMap, List.map_findSome?]
  rfl

/-- Where files agree on meanings, it does not matter which of them comes first. -/
theorem findSome?_meaning_perm {files others : List SourceFile} (perm : files.Perm others)
    (agree : files.Pairwise SameMeaning) (key : Text) :
    files.findSome? (meaning? key) = others.findSome? (meaning? key) := by
  induction perm with
  | nil => rfl
  | cons file _ ih =>
    rw [List.findSome?_cons, List.findSome?_cons, ih (List.pairwise_cons.1 agree).2]
  | swap file other rest =>
    have same := (List.pairwise_cons.1 agree).1 file List.mem_cons_self
    simp only [List.findSome?_cons]
    cases here : meaning? key file with
    | none => rfl
    | some id =>
      cases there : meaning? key other with
      | none => rfl
      | some id' => rw [same.meaning?_eq there here]
  | trans first _ ih ih' =>
    exact (ih agree).trans (ih' (agree.perm first SameMeaning.symm))

theorem find?_ofFiles_perm {files others : List SourceFile} (perm : files.Perm others)
    (agree : files.Pairwise SameMeaning) (key : Text) :
    (Index.ofFiles files).find? key = (Index.ofFiles others).find? key := by
  rw [find?_ofFiles_meaning, find?_ofFiles_meaning, findSome?_meaning_perm perm agree]

/-! ### What depends on answers of the index only -/

section Answers

variable {index other : Index} (same : ∀ key, index.find? key = other.find? key)

include same

theorem bind_of_answers (reference : Text) (d : Declaration) :
    bind index reference d = bind other reference d := by
  simp only [bind, resolve?, same]

theorem bindParts_of_answers (d : Declaration) (parts : List FragmentPart) :
    bindParts index d parts = bindParts other d parts := by
  induction parts with
  | nil => rfl
  | cons part rest ih =>
    rw [bindParts, bindParts, ih]
    cases part with
    | plain c => rfl
    | reference opening quote target => simp only [bindPart, bind_of_answers same]

theorem member?_of_answers (d : Declaration) : member? index d = member? other d := by
  simp only [member?, bindFragment, bindParts_of_answers same]

end Answers

end DocReport.Compilation

namespace DocReport.Report

open Files Compilation

theorem fileEntries_of_answers {index other : Index}
    (same : ∀ key, index.find? key = other.find? key) (fs : FileSystem) (setup : Setup)
    (file : SourceFile) : fileEntries fs setup index file = fileEntries fs setup other file := by
  have member : memberEntries index setup.options = memberEntries other setup.options := by
    funext d
    simp only [memberEntries, section?, member?_of_answers same]
  rw [fileEntries, fileEntries, member]

/-- What a report says on one file of a compilation. -/
def fileText (fs : FileSystem) (setup : Setup) (index : Index) (file : SourceFile) : Text :=
  entriesText (fileEntries fs setup index file)

theorem entriesText_outline (fs : FileSystem) (setup : Setup) (index : Index)
    (files : List SourceFile) :
    entriesText (outline fs setup index files) = files.flatMap (fileText fs setup index) :=
  List.flatMap_assoc

/-- If no two files of a compilation give different meanings to a key, every order of them gives
every declaration the same member, and a report that is the same header with the same text for
each file, in that order. -/
theorem file_order_permutes_report (fs : FileSystem) (setup : Setup)
    (files others : List SourceFile) (perm : files.Perm others)
    (agree : files.Pairwise SameMeaning) :
    (∀ d, member? (Index.ofFiles others) d = member? (Index.ofFiles files) d) ∧
    (assemble fs setup files).value =
      headerText setup ++ files.flatMap (fileText fs setup (Index.ofFiles files)) ∧
    (assemble fs setup others).value =
      headerText setup ++ others.flatMap (fileText fs setup (Index.ofFiles files)) := by
  have same : ∀ key, (Index.ofFiles others).find? key = (Index.ofFiles files).find? key :=
    fun key => (find?_ofFiles_perm perm agree key).symm
  have texts : fileText fs setup (Index.ofFiles others) =
      fileText fs setup (Index.ofFiles files) := by
    funext file
    rw [fileText, fileEntries_of_answers same, fileText]
  refine ⟨member?_of_answers same, ?_, ?_⟩
  · rw [assemble_value, entriesText_outline]
  · rw [assemble_value, entriesText_outline, texts]

/-- Two parts of one class, the first with a reference into the second. -/
def queueFront : SourceFile :=
  ⟨"Front.cs".toList,
    [{ name := "Queue".toList, kind := .classKind, namespaceName := "Demo".toList
       documentation := some "<summary>See <see cref=\"Count\"/>.</summary>".toList }]⟩

def queueBack : SourceFile :=
  ⟨"Back.cs".toList,
    [{ name := "Queue".toList, kind := .classKind, namespaceName := "Demo".toList },
     { name := "Count".toList, kind := .property, namespaceName := "Demo".toList
       containingTypes := ["Queue".toList] }]⟩

theorem file_order_permutes_report_partial :
    let fs := FileSystem.startingAt []
    let setup : Setup := { moment := ⟨2024, 1, 2, 3, 4, 5⟩ }
    let files := [queueFront, queueBack]
    files.Pairwise SameMeaning ∧
    (∃ d ∈ queueFront.declarations, ∃ e ∈ queueBack.declarations, plainKey d = plainKey e) ∧
    (assemble fs setup [queueBack, queueFront]).value = headerText setup ++
      [queueBack, queueFront].flatMap (fileText fs setup (Index.ofFiles files)) := by
  have agree : [queueFront, queueBack].Pairwise SameMeaning := by decide
  exact ⟨agree, by decide, (file_order_permutes_report _ _ _ _ (.swap _ _ _) agree).2.2⟩

end DocReport.Report

import DocReport.Proofs.Symbol.AnyText
import DocReport.Proofs.Symbol.MarkerRemoval
import DocReport.Proofs.Symbol.Qualified

/-!
Documentation IDs as readers see them. The only colon of an ID is that of its kind marker, as long
as no text that it is made of holds one: segments, types and arities bring in none. So removing
markers takes the one in front and nothing else, and an event keeps its marker.
-/
namespace DocReport.Symbol

/-- No text that the documentation ID of a declaration is made of holds a colon. The type of a
member is such a text only for conversions. -/
structure WithoutColon (d : Declaration) : Prop where
  inNamespace : ':' ∉ d.namespaceName
  inTypes : ∀ t ∈ d.containingTypes, ':' ∉ t
  inName : ':' ∉ d.name
  inParameters : ∀ p ∈ d.parameters, ':' ∉ p.typeText
  inTarget : d.kind = .conversion → ':' ∉ d.typeText

theorem colon_not_mem_ofNat (n : Nat) : ':' ∉ Text.ofNat n := by
  intro member
  have digit := Nat.isDigit_of_mem_toDigits (by decide) (by decide) member
  exact absurd digit (by decide)

theorem colon_not_mem_typeName {s : Text} (absent : ':' ∉ s) : ':' ∉ typeName s :=
  not_mem_typeName (by decide) absent

theorem mem_of_mem_cutFirst {mark c : Char} {t : Text} (member : c ∈ (Text.cutFirst mark t).1) :
    c ∈ t := by
  induction t with
  | nil => exact member
  | cons d r ih =>
    rw [Text.cutFirst] at member
    split at member
    · cases member
    · rcases List.mem_cons.1 member with rfl | inner
      · exact List.mem_cons_self
      · exact List.mem_cons_of_mem _ (ih inner)

theorem colon_not_mem_segment {display : Text} (absent : ':' ∉ display) :
    ':' ∉ segment display := by
  unfold segment
  split
  · have front : ':' ∉ (splitGeneric display).1 := fun member =>
      absent (mem_of_mem_cutFirst member)
    have number := colon_not_mem_ofNat (splitArguments (splitGeneric display).2).length
    simp [front, number]
  · exact absent

theorem colon_not_mem_withArity {mark name : Text} (plain : ':' ∉ mark) (absent : ':' ∉ name)
    (typeParameters : List Text) : ':' ∉ withArity mark name typeParameters := by
  unfold withArity
  split
  · exact absent
  · simp [plain, absent, colon_not_mem_ofNat]

section Parts

variable {d : Declaration} (plain : WithoutColon d)

include plain

theorem colon_not_mem_metadataName : ':' ∉ metadataName d := by
  have known : ∀ table ∈ [unaryOperators, binaryOperators], ∀ entry ∈ table, ':' ∉ entry.2 := by
    decide +kernel
  unfold metadataName
  split
  · decide
  · decide
  · decide
  · split <;> decide
  · have named : ∀ table ∈ [unaryOperators, binaryOperators],
        ':' ∉ (table.lookup d.name).getD ("op_".toList ++ d.name) := by
      intro table listed
      cases found : table.lookup d.name with
      | none => simp [plain.inName]
      | some name => exact known table listed (d.name, name) (mem_of_lookup found)
    exact named _ (by split <;> simp)
  · exact plain.inName

theorem colon_not_mem_enclosingSegments : ∀ part ∈ enclosingSegments d, ':' ∉ part := by
  intro part listed
  rcases List.mem_append.1 listed with inNamespace | inTypes
  · intro member
    have cut := (List.mem_filter.1 inNamespace).1
    have whole := Text.join_cutAll '.' d.namespaceName
    exact plain.inNamespace (whole ▸ Text.mem_join_of_mem cut member)
  · obtain ⟨t, belongs, rfl⟩ := List.mem_map.1 inTypes
    exact colon_not_mem_segment (plain.inTypes t belongs)

theorem colon_not_mem_ownSegment : ':' ∉ ownSegment d := by
  have member := colon_not_mem_metadataName plain
  unfold ownSegment
  split
  · exact colon_not_mem_withArity (by decide) plain.inName _
  · split
    · exact colon_not_mem_withArity (by decide) member _
    · exact member

theorem colon_not_mem_trailer : ':' ∉ trailer d := by
  have parameters : ':' ∉ documentationParameters d.parameters := by
    refine Text.not_mem_join_map (by decide) fun p listed => ?_
    have named := colon_not_mem_typeName (plain.inParameters p listed)
    unfold documentationParameter
    split <;> simp [named]
  have target : ':' ∉ targetPart d := by
    unfold targetPart
    split
    · rename_i conversion
      simp [colon_not_mem_typeName (plain.inTarget conversion)]
    · simp
  have list : ':' ∉ parameterPart d := by
    unfold parameterPart
    split <;> simp [parameters]
  unfold trailer
  split
  · simp
  · simp [list, target]

theorem colon_not_mem_qualifiedName (declared : d.kind ≠ .namespaceKind) :
    ':' ∉ qualifiedName d := by
  rw [qualifiedName_eq declared, List.mem_append, not_or]
  refine ⟨fun member => ?_, colon_not_mem_trailer plain⟩
  rcases Text.mem_join member with dot | ⟨part, listed, inside⟩
  · exact absurd dot (by decide)
  · rcases List.mem_append.1 listed with enclosing | own
    · exact colon_not_mem_enclosingSegments plain part enclosing inside
    · rw [List.mem_singleton.1 own] at inside
      exact colon_not_mem_ownSegment plain inside

end Parts

theorem markerFree_of_not_mem {letters : List Char} {t : Text} (absent : ':' ∉ t) :
    MarkerFree letters t := by
  intro letter _ part
  exact absent (part.subset (by simp))

/-- A text with one colon has one marker at most. -/
theorem removeInOrder_single {order : List Char} (colon : ':' ∉ order) {name : Text}
    (plain : ':' ∉ name) (letter : Char) (opens : letter ≠ ':') :
    removeInOrder order (letter :: ':' :: name) =
      if letter ∈ order then name else letter :: ':' :: name := by
  have once : (letter :: ':' :: name).count ':' = 1 := by
    simp [opens, List.count_eq_zero.2 plain]
  have flat : ¬ Stacked order order (letter :: ':' :: name) := by
    rintro ⟨first, -, row, nonempty, -, stack⟩
    obtain ⟨c, row, rfl⟩ := List.exists_cons_of_ne_nil nonempty
    have pair : [':', ':'].Sublist (first :: markerRow (c :: row) ++ [':']) := by
      simp [markerRow]
    have less := (pair.trans stack.sublist).count_le ':'
    rw [once] at less
    exact absurd less (by decide)
  rw [removeInOrder_of_flat colon flat]
  split
  · rename_i listed
    rw [dropMarkers_marker listed, dropMarkers_eq_self_iff]
    exact markerFree_of_not_mem plain
  · rename_i foreign
    rw [dropMarkers_eq_self_iff, markerFree_cons, markerFree_cons]
    exact ⟨fun listed => absurd listed foreign, fun listed => absurd listed colon,
      markerFree_of_not_mem plain⟩

theorem kindLetter_mem_markers_iff {kind : Kind} (declared : kind ≠ .namespaceKind) :
    kindLetter kind ∈ markers ↔ kind ≠ .event := by
  cases kind <;> simp_all [kindLetter, markers]

/-- Of an ID without other colons, removing markers takes the kind marker only, and nothing at all
if it is that of an event. -/
theorem displayed_id_lacks_kind_marker_only (d : Declaration) (declared : d.kind ≠ .namespaceKind)
    (plain : WithoutColon d) :
    withoutMarkers (documentationId d) =
      if d.kind = .event then documentationId d else (documentationId d).drop 2 := by
  have opens : kindLetter d.kind ≠ ':' := by cases d.kind <;> decide
  have removed := @removeInOrder_single markers (by decide) _
    (colon_not_mem_qualifiedName plain declared) (kindLetter d.kind) opens
  rw [removeInOrder_markers] at removed
  rw [documentationId, removed]
  simp only [kindLetter_mem_markers_iff declared, ne_eq, ite_not]
  rfl

/-- A conversion of a generic type, with a keyword in a parameter and in the target. -/
def toArray : Declaration :=
  { name := "explicit".toList
    kind := .conversion
    namespaceName := "Demo.Data".toList
    containingTypes := ["Row<T>".toList]
    parameters := [{ name := "row".toList, typeText := "Row<long>".toList }]
    typeText := "long []".toList }

theorem displayed_id_lacks_kind_marker_only_conversion :
    toArray.kind ≠ .namespaceKind ∧ WithoutColon toArray ∧
      withoutMarkers (documentationId toArray) = (documentationId toArray).drop 2 ∧
      (documentationId toArray).drop 2 =
        "Demo.Data.Row`1.op_Explicit(Row\x7bSystem.Int64\x7d)~System.Int64[]".toList := by
  have declared : toArray.kind ≠ .namespaceKind := by decide
  have plain : WithoutColon toArray :=
    ⟨by decide, by decide, by decide, by decide, fun _ => by decide⟩
  exact ⟨declared, plain, displayed_id_lacks_kind_marker_only toArray declared plain,
    by decide +kernel⟩

end DocReport.Symbol

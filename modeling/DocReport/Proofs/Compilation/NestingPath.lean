import DocReport.Proofs.Compilation.EnclosingType
import DocReport.Proofs.Symbol.Qualified

/-!
The path to what stands in a type is derived three times: for the documentation ID, with the number
of type parameters counted in the display name; for the lookup key, with the type parameters
dropped from it; and for the scopes in which references are looked up. All three continue the path
of the type itself.
-/
namespace DocReport.Compilation

open DocReport.Symbol

variable {type m : Declaration}

theorem enclosingSegments_of_standsIn (inside : StandsIn m type)
    (declares : type.kind.isType = true) (named : IsName type.name)
    (parameters : ∀ p ∈ type.typeParameters, IsName p) :
    enclosingSegments m = enclosingSegments type ++ [ownSegment type] := by
  rw [enclosingSegments, inside.1, inside.2, List.map_append, List.map_singleton,
    segment_displayName named parameters, ownSegment, if_pos declares, enclosingSegments,
    List.append_assoc]

/-- The ID of a type, and a dot, begin the ID of whatever stands in the type. -/
theorem qualifiedName_of_standsIn (inside : StandsIn m type) (declares : type.kind.isType = true)
    (declared : m.kind ≠ .namespaceKind) (named : IsName type.name)
    (parameters : ∀ p ∈ type.typeParameters, IsName p) :
    qualifiedName m = qualifiedName type ++ ['.'] ++ ownSegment m ++ trailer m := by
  have isNo : type.kind ≠ .namespaceKind := by
    intro space
    rw [space] at declares
    cases declares
  have bare : trailer type = [] := if_pos declares
  rw [qualifiedName_eq declared, qualifiedName_eq isNo, bare, List.append_nil,
    enclosingSegments_of_standsIn inside declares named parameters, Text.joinDots, Text.joinDots,
    Text.join_concat _ _ (by simp)]

theorem plainKey_of_standsIn (inside : StandsIn m type) (named : IsName type.name)
    (parameters : ∀ p ∈ type.typeParameters, IsName p) :
    plainKey m = plainKey type ++ ['.'] ++ m.name := by
  rw [plainKey, scopeParts_of_standsIn inside named.no_bracket fun p member =>
    (parameters p member).no_bracket, plainKey, Text.joinDots, Text.joinDots,
    Text.join_concat _ _ (by simp)]

theorem scopes_of_type (declares : type.kind.isType = true) :
    scopes type = scopesOf (scopeParts type ++ [type.name]) := by
  simp [scopes, scopesOf, declares]

theorem scopes_of_standsIn (inside : StandsIn m type) (declares : type.kind.isType = true)
    (member : m.kind.isType = false) (named : IsName type.name)
    (parameters : ∀ p ∈ type.typeParameters, IsName p) : scopes m = scopes type := by
  rw [scopes_of_member member, scopes_of_type declares,
    scopeParts_of_standsIn inside named.no_bracket fun p member =>
      (parameters p member).no_bracket]

/-- What a reference is bound to depends on the scopes around it only. -/
theorem bind_value_congr {d e : Declaration} (same : scopes d = scopes e) (index : Index)
    (reference : Text) : (bind index reference d).value = (bind index reference e).value := by
  rw [bind_value, bind_value, resolve?, resolve?, same]

/-- Where a declaration stands directly in a type, its documentation ID and its plain key continue
those of the type, and a member that is no type itself sees the same scopes as the type, so that
every reference is bound alike in both. -/
theorem nesting_path_continues (type m : Declaration) (declares : type.kind.isType = true)
    (declared : m.kind ≠ .namespaceKind) (inside : StandsIn m type) (named : IsName type.name)
    (parameters : ∀ p ∈ type.typeParameters, IsName p) :
    ((documentationId type).drop 2 ++ ['.'] <+: (documentationId m).drop 2) ∧
    plainKey m = plainKey type ++ ['.'] ++ m.name ∧
    (m.kind.isType = false → scopes m = scopes type ∧
      ∀ index reference, (bind index reference m).value = (bind index reference type).value) := by
  refine ⟨⟨ownSegment m ++ trailer m, ?_⟩, plainKey_of_standsIn inside named parameters, ?_⟩
  · have path := qualifiedName_of_standsIn inside declares declared named parameters
    simp only [documentationId, List.drop_succ_cons, List.drop_zero, path, List.append_assoc]
  · intro member
    have same := scopes_of_standsIn inside declares member named parameters
    exact ⟨same, fun index reference => bind_value_congr same index reference⟩

/-- A generic type in a generic type, and a method of it. -/
def entry : Declaration :=
  { name := "Entry".toList, kind := .structKind, namespaceName := "Demo.Core".toList
    containingTypes := ["Map<K, V>".toList], typeParameters := ["A".toList, "B".toList] }

def entrySwap : Declaration :=
  { name := "Swap".toList, kind := .method, namespaceName := "Demo.Core".toList
    containingTypes := ["Map<K, V>".toList, "Entry<A, B>".toList] }

theorem nesting_path_continues_generic :
    StandsIn entrySwap entry ∧
    (documentationId entry).drop 2 = "Demo.Core.Map\x602.Entry\x602".toList ∧
    ((documentationId entry).drop 2 ++ ['.'] <+: (documentationId entrySwap).drop 2) ∧
    plainKey entrySwap = plainKey entry ++ ['.'] ++ entrySwap.name ∧
    scopes entrySwap = scopes entry := by
  have inside : StandsIn entrySwap entry := by decide
  obtain ⟨id, key, same⟩ := nesting_path_continues entry entrySwap (by decide) (by decide) inside
    (by decide) (by decide)
  exact ⟨inside, by decide +kernel, id, key, (same (by decide)).1⟩

end DocReport.Compilation

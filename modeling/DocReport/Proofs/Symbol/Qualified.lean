import DocReport.Proofs.Symbol.Identifier
import DocReport.Proofs.Symbol.SimpleType

/-!
The parts of a documentation ID: the segments of the scopes around a declaration, its own segment,
and what stands behind the dotted name. The segment of a type that encloses others is read off its
display name again and comes out as the type's own segment.
-/
namespace DocReport.Symbol

theorem IsName.avoids_typeMarks {name : Text} (named : IsName name) :
    Text.Avoids typeMarks name := by
  intro c member
  refine ⟨(named.2 c member).1, fun mark => (named.2 c member).2 ?_⟩
  have marks : ∀ d ∈ typeMarks, d ∈ nameMarks := by simp [typeMarks, nameMarks]
  exact marks c mark

/-- As many parameters are counted in a display name as it was made of. -/
theorem length_splitArguments_join {typeParameters : List Text}
    (parameters : ∀ p ∈ typeParameters, IsName p) :
    (splitArguments (Text.join [',', ' '] typeParameters)).length = typeParameters.length := by
  have each : ∀ p ∈ typeParameters, ∀ part, Text.Spaced [p] part →
      Names part ((systemName? p).getD p) := fun p member _ spaced =>
    names_word (parameters p member).1 (parameters p member).avoids_typeMarks spaced
  have names := typeNames_separated (Text.spaced_join typeParameters) each
  have lengths := congrArg List.length names
  rwa [List.length_map, List.length_map] at lengths

/-- The segment read off a display name is the name with the number of its type parameters. -/
theorem segment_displayName {name : Text} {typeParameters : List Text} (named : IsName name)
    (parameters : ∀ p ∈ typeParameters, IsName p) :
    segment (displayName name typeParameters) = withArity ['\x60'] name typeParameters := by
  have plain : '<' ∉ name := named.2.not_mem (by decide)
  unfold displayName withArity
  split
  · rw [segment, if_neg fun both => plain both.2]
  · have cut : splitGeneric (name ++ ['<'] ++ Text.join [',', ' '] typeParameters ++ ['>']) =
        (name, Text.join [',', ' '] typeParameters) := by
      simp [splitGeneric, Text.cutFirst_append plain]
    rw [segment, if_pos ⟨List.getLast?_concat, by simp⟩, cut,
      length_splitArguments_join parameters]

/-- The segments of the scopes around a declaration. -/
def enclosingSegments (d : Declaration) : List Text :=
  namespaceParts d.namespaceName ++ d.containingTypes.map segment

/-- The last segment of a documentation ID. -/
def ownSegment (d : Declaration) : Text :=
  if d.kind.isType then withArity ['\x60'] d.name d.typeParameters
  else if d.kind = .method then withArity ['\x60', '\x60'] (metadataName d) d.typeParameters
  else metadataName d

/-- The parameters of a declaration in its documentation ID. -/
def parameterPart (d : Declaration) : Text :=
  if d.parameters.isEmpty then [] else ['('] ++ documentationParameters d.parameters ++ [')']

/-- The target of a conversion in its documentation ID. -/
def targetPart (d : Declaration) : Text :=
  if d.kind = .conversion then '~' :: typeName d.typeText else []

/-- What stands behind the dotted name. -/
def trailer (d : Declaration) : Text :=
  if d.kind.isType then [] else parameterPart d ++ targetPart d

theorem qualifiedName_eq {d : Declaration} (declared : d.kind ≠ .namespaceKind) :
    qualifiedName d = Text.joinDots (enclosingSegments d ++ [ownSegment d]) ++ trailer d := by
  unfold qualifiedName ownSegment trailer parameterPart targetPart enclosingSegments
  rw [if_neg declared]
  split
  · rw [List.append_nil]
  · rw [List.append_assoc]

end DocReport.Symbol

import DocReport.Proofs.Symbol.Braces
import DocReport.Proofs.Text.Edges

/-!
Parameters with a passing mode. Documentation IDs mark a parameter that is passed by reference
behind the name of its type, while the language writes the mode in front of the type. `typeName`
knows neither: a mode in front is taken for a part of the type, which then has a name with a blank
in it, and a name with the mark behind it is left as it is.
-/
namespace DocReport.Symbol

/-! ### A word in front of a type -/

section Modified

variable {word front : Text} (named : IsName word)

include named

/-- The word and the path that follows are kept, with the spaces between them. -/
theorem exists_trim_modified {path : TypePath} (own : Text.Spaced [path.text] front) :
    ∃ gap, Text.IsSpaces gap ∧
      Text.trim (word ++ ' ' :: front) = word ++ ' ' :: gap ++ path.text := by
  obtain ⟨gap, behind, spaces, spaces', rfl⟩ := own.exists_gaps
  refine ⟨gap, spaces, ?_⟩
  obtain ⟨nonempty, plain⟩ := named
  obtain ⟨start, d, ending⟩ := (List.eq_nil_or_concat' path.text).resolve_left path.nonempty
  have last : Text.isBlank d = false := (path.plain d (by simp [ending])).1
  cases word with
  | nil => exact absurd rfl nonempty
  | cons c rest =>
    have first := (plain c List.mem_cons_self).1
    have inner := Text.trim_between first last (rest ++ ' ' :: gap ++ start)
    have whole : c :: rest ++ ' ' :: (gap ++ path.text ++ behind) =
        (c :: (rest ++ ' ' :: gap ++ start) ++ [d]) ++ behind := by
      simp [ending]
    rw [whole, Text.trim_append_gap spaces'.isGap, inner]
    simp [ending]

theorem parenthesis_not_mem_modified {gap : Text} (path : TypePath) (spaces : Text.IsSpaces gap) :
    '(' ∉ word ++ ' ' :: gap ++ path.text := by
  have inWord : '(' ∉ word := named.2.not_mem (by decide)
  have inPath : '(' ∉ path.text := path.plain.not_mem (by decide)
  have inGap : '(' ∉ gap := by
    intro member
    cases spaces _ member
  simp [inWord, inPath, inGap]

/-- A word and a path are one name with a blank in it. -/
theorem typeName_modified_path {path : TypePath} (own : Text.Spaced [path.text] front) :
    ' ' ∈ typeName (word ++ ' ' :: front) ∧ '(' ∉ typeName (word ++ ' ' :: front) := by
  obtain ⟨gap, spaces, whole⟩ := exists_trim_modified named own
  obtain ⟨start, d, ending⟩ := (List.eq_nil_or_concat' path.text).resolve_left path.nonempty
  have last : (word ++ ' ' :: gap ++ path.text).getLast? = some d := by
    rw [ending, ← List.append_assoc, List.getLast?_concat]
  have plain : d ∉ ['?', ']', '>'] := by
    intro mark
    have subset : ['?', ']', '>'] ⊆ typeMarks := by decide
    exact (path.plain d (by simp [ending])).2 (subset mark)
  have same : typeName (word ++ ' ' :: front) = word ++ ' ' :: gap ++ path.text := by
    rw [← typeName_trim, whole]
    refine typeName_of_last ?_ last plain (@systemName?_of_mem _ ' ' (by simp) (by decide +kernel))
    rw [← whole, Text.trim_trim]
  rw [same]
  exact ⟨by simp, parenthesis_not_mem_modified named path spaces⟩

/-- Whatever type a word stands in front of, the name of both has a blank in it. -/
theorem SimpleType.typeName_modified (t : SimpleType) :
    ∀ s, t.Spelled s → ' ' ∈ typeName (word ++ ' ' :: s) ∧ '(' ∉ typeName (word ++ ' ' :: s) := by
  induction t with
  | keyword known system found =>
    intro s spelled
    have nonempty : known ≠ [] := by
      rintro rfl
      cases found
    exact @typeName_modified_path word s named ⟨known, nonempty, keyword_avoids found⟩ spelled
  | path path other =>
    intro s spelled
    exact typeName_modified_path named spelled
  | generic path arguments _ =>
    intro s spelled
    obtain ⟨front, inside, gap, spaces, own, others, rfl⟩ := spelled.of_generic
    have absent : '<' ∉ word ++ ' ' :: front := by
      have inWord : '<' ∉ word := named.2.not_mem (by decide)
      have inFront : '<' ∉ front := not_mem_of_word path.plain own (by decide)
      simp [inWord, inFront]
    have whole : word ++ ' ' :: (front ++ '<' :: inside ++ '>' :: gap) =
        (word ++ ' ' :: front) ++ '<' :: inside ++ '>' :: gap := by
      simp
    obtain ⟨between, spaces', head⟩ := exists_trim_modified named own
    have names := typeNames_separated others fun t _ part => t.names_of_spelled part
    have inNames : '(' ∉ Text.join [','] (arguments.map documentationName) :=
      Text.not_mem_join_map (by decide) fun t _ => t.documentationName_avoids.not_mem (by decide)
    have inHead := parenthesis_not_mem_modified named path spaces'
    rw [whole, typeName_generic spaces.isGap absent, head, names]
    refine ⟨by simp, ?_⟩
    simp only [List.mem_append, not_or] at inHead ⊢
    exact ⟨⟨⟨inHead, by decide⟩, inNames⟩, by decide⟩
  | nullable inner ih =>
    intro s spelled
    obtain ⟨front, gap, spaces, own, rfl⟩ := spelled.of_nullable
    have whole : word ++ ' ' :: (front ++ '?' :: gap) = (word ++ ' ' :: front) ++ '?' :: gap := by
      simp
    obtain ⟨blank, absent⟩ := ih front own
    -- With a word in front no keyword is seen, but both branches name the inner text anyway.
    rw [whole, typeName_annotated spaces.isGap]
    split
    · simp [blank, absent]
    · exact ⟨blank, absent⟩
  | array inner commas ih =>
    intro s spelled
    obtain ⟨front, rank, gap, spaces, own, others, rfl⟩ := spelled.of_array
    have last : '[' ∉ rank := not_mem_rank others (by decide) (by decide)
    have whole : word ++ ' ' :: (front ++ '[' :: rank ++ ']' :: gap) =
        (word ++ ' ' :: front) ++ '[' :: rank ++ ']' :: gap := by
      simp
    obtain ⟨blank, absent⟩ := ih front own
    rw [whole, typeName_array spaces.isGap last, (rank_of_spaced others).2]
    simp [blank, absent]

end Modified

/-! ### Types written as they are named -/

namespace SimpleType

theorem documentationName_ne_nil (t : SimpleType) : t.documentationName ≠ [] := by
  induction t with
  | keyword word system known =>
    have table : ∀ entry ∈ keywordTypes, entry.2 ≠ [] := by decide +kernel
    exact table (word, system) (mem_of_lookup known)
  | path name other => exact name.nonempty
  | generic name arguments _ => simp [documentationName]
  | nullable inner ih =>
    rw [documentationName]
    split
    · simp
    · exact ih
  | array inner commas _ => simp [documentationName]

/-- A name that braces close is its own name. -/
theorem typeName_of_closed {t : SimpleType} {front : Text}
    (closed : t.documentationName = front ++ ['\x7d']) :
    typeName t.documentationName = t.documentationName := by
  have last : t.documentationName.getLast? = some '\x7d' := by rw [closed, List.getLast?_concat]
  refine typeName_of_last t.documentationName_avoids.trim last (by decide) ?_
  exact systemName?_of_mem (List.mem_of_getLast? last) (by decide +kernel)

/-- Naming a type changes nothing about its name. -/
theorem typeName_documentationName (t : SimpleType) :
    typeName t.documentationName = t.documentationName := by
  induction t with
  | keyword word system known =>
    have table : ∀ entry ∈ keywordTypes, '.' ∈ entry.2 := by decide +kernel
    have dotted := table (word, system) (mem_of_lookup known)
    have plain : Text.Avoids typeMarks system := fun c member =>
      ⟨((keyword word system known).documentationName_avoids c member).1,
        not_mark_of_systemCharacter (List.all_eq_true.1 (systemName_characters known).1 c member)⟩
    rw [documentationName, typeName_word plain, systemName?_of_mem dotted (by decide +kernel)]
    rfl
  | path name other =>
    rw [documentationName, typeName_word name.plain, other]
    rfl
  | generic name arguments _ => exact typeName_of_closed rfl
  | nullable inner ih =>
    by_cases value : inner.isValueKeyword = true
    · have closed : (nullable inner).documentationName =
          "System.Nullable".toList ++ ['\x7b'] ++ inner.documentationName ++ ['\x7d'] := by
        rw [documentationName, if_pos value]
      exact typeName_of_closed closed
    · rw [documentationName, if_neg value, ih]
  | array inner commas ih =>
    have last : '[' ∉ List.replicate commas ',' := by simp [List.mem_replicate]
    have kept : (List.replicate commas ',').filter (· != ' ') = List.replicate commas ',' := by
      simp
    have named := typeName_array Text.isGap_nil last inner.documentationName
    rw [ih, kept] at named
    simpa [documentationName] using named

theorem names_documentationName (t : SimpleType) :
    Names t.documentationName t.documentationName where
  whole := t.whole_documentationName
  solid := by rw [t.documentationName_avoids.trim]; exact t.documentationName_ne_nil
  named := t.typeName_documentationName

theorem names_marked (t : SimpleType) :
    Names (t.documentationName ++ ['@']) (t.documentationName ++ ['@']) where
  whole := t.whole_documentationName.append (Whole.of_plain 0 (by simp [nesting]))
  solid := Text.trim_ne_nil (c := '@') (by simp) (by decide)
  named := by
    have solid : Text.Avoids unnamedMarks (t.documentationName ++ ['@']) :=
      t.documentationName_avoids.append (by decide)
    refine typeName_of_last solid.trim List.getLast?_concat (by decide) ?_
    exact @systemName?_of_mem _ '@' (by simp) (by decide +kernel)

end SimpleType

section Parameter

variable {p : Parameter} (written : ∃ t : SimpleType, t.Spelled p.typeText)

include written

theorem names_documentationParameter :
    Names (documentationParameter p) (documentationParameter p) := by
  obtain ⟨t, spelled⟩ := written
  rw [documentationParameter, (t.names_of_spelled _ spelled).named]
  split
  · exact t.names_marked
  · exact t.names_documentationName

theorem documentationParameter_avoids :
    Text.Avoids SimpleType.unnamedMarks (documentationParameter p) := by
  obtain ⟨t, spelled⟩ := written
  rw [documentationParameter, (t.names_of_spelled _ spelled).named]
  split
  · exact t.documentationName_avoids.append (by decide)
  · exact t.documentationName_avoids

end Parameter

/-- A parameter as a reference writes it: its type, with the passing mode in front if it is passed
by reference. -/
def writtenParameter (p : Parameter) : Text :=
  if isByReference p then p.modifier.getD [] ++ ' ' :: p.typeText else p.typeText

theorem writtenParameter_of_value {p : Parameter} (byValue : isByReference p = false) :
    writtenParameter p = p.typeText := by
  rw [writtenParameter, byValue]
  rfl

theorem exists_mode {p : Parameter} (byReference : isByReference p = true) :
    ∃ mode, IsName mode ∧ writtenParameter p = mode ++ ' ' :: p.typeText := by
  have modes : ∀ mode ∈ ["ref".toList, "out".toList, "in".toList], IsName mode := by decide
  have whole : writtenParameter p = p.modifier.getD [] ++ ' ' :: p.typeText := by
    rw [writtenParameter, byReference]
    rfl
  unfold isByReference at byReference
  split at byReference
  · cases byReference
  · rename_i mode modified
    rw [modified] at whole
    exact ⟨mode, modes mode (List.contains_iff_mem.1 byReference), whole⟩

section Written

variable {p : Parameter} (written : ∃ t : SimpleType, t.Spelled p.typeText)

include written

theorem whole_writtenParameter : Whole 0 (writtenParameter p) := by
  obtain ⟨t, spelled⟩ := written
  have own := (t.names_of_spelled _ spelled).whole
  cases mode : isByReference p with
  | false => rwa [writtenParameter_of_value mode]
  | true =>
    obtain ⟨mode, named, whole⟩ := exists_mode mode
    have space : Text.IsSpaces [' '] := by simp [Text.IsSpaces]
    have front := whole_of_word named.avoids_typeMarks ((Text.Spaced.single mode).append_gap space)
    rw [whole]
    simpa using front.append own

theorem trim_writtenParameter_ne_nil : Text.trim (writtenParameter p) ≠ [] := by
  obtain ⟨t, spelled⟩ := written
  cases mode : isByReference p with
  | false =>
    rw [writtenParameter_of_value mode]
    exact (t.names_of_spelled _ spelled).solid
  | true =>
    obtain ⟨mode, ⟨nonempty, plain⟩, whole⟩ := exists_mode mode
    obtain ⟨c, member⟩ := List.exists_mem_of_ne_nil mode nonempty
    rw [whole]
    exact Text.trim_ne_nil (List.mem_append_left _ member) (plain c member).1

theorem parenthesis_not_mem_written : ')' ∉ writtenParameter p := by
  obtain ⟨t, spelled⟩ := written
  have own : ')' ∉ p.typeText := by
    intro member
    rcases Text.Spaced.mem spelled member with space | ⟨token, belongs, inside⟩
    · cases space
    · exact t.parenthesis_not_mem_tokens token belongs inside
  cases mode : isByReference p with
  | false => rwa [writtenParameter_of_value mode]
  | true =>
    obtain ⟨mode, named, whole⟩ := exists_mode mode
    have inMode : ')' ∉ mode := named.2.not_mem (by decide)
    simp [whole, inMode, own]

/-- Spaces around a parameter do not count. -/
theorem names_written {part : Text} (spaced : Text.Spaced [writtenParameter p] part) :
    Names part (typeName (writtenParameter p)) := by
  obtain ⟨before, behind, spaces, spaces', rfl⟩ := spaced.exists_gaps
  have trimmed : Text.trim (before ++ writtenParameter p ++ behind) =
      Text.trim (writtenParameter p) := by
    rw [Text.trim_append_gap spaces'.isGap, Text.trim_gap_append spaces.isGap]
  constructor
  · exact ((whole_of_spaces spaces 0).append (whole_writtenParameter written)).append
      (whole_of_spaces spaces' 0)
  · rw [trimmed]
    exact trim_writtenParameter_ne_nil written
  · rw [← typeName_trim, trimmed, typeName_trim]

/-- A passing mode in front of a type leaves a blank in the name that is asked for. -/
theorem typeName_written :
    '(' ∉ typeName (writtenParameter p) ∧
      (isByReference p = true → ' ' ∈ typeName (writtenParameter p)) := by
  obtain ⟨t, spelled⟩ := written
  cases mode : isByReference p with
  | false =>
    rw [writtenParameter_of_value mode, (t.names_of_spelled _ spelled).named]
    exact ⟨t.documentationName_avoids.not_mem (by decide), by simp⟩
  | true =>
    obtain ⟨mode, named, whole⟩ := exists_mode mode
    obtain ⟨blank, absent⟩ := t.typeName_modified named _ spelled
    rw [whole]
    exact ⟨absent, fun _ => blank⟩

end Written

end DocReport.Symbol

import DocReport.Proofs.Symbol.Qualified

/-!
Parameter lists of documentation IDs can be read back. The names of types are in one piece, so the
commas between parameters are known; they hold no parenthesis, so the end of the list is known; and
none ends with an `@` of its own unless a dot is before it, so a parameter that is passed by
reference is known by its `@`.
-/
namespace DocReport.Symbol

/-- An identifier in a documentation ID; an `@` can only begin it. -/
structure SymbolName where
  text : Text
  named : IsName text
  first : '@' ∉ text.tail

/-- Identifiers with dots between them. -/
def IsDotted (t : Text) : Prop :=
  ∃ names : List SymbolName, names ≠ [] ∧ t = Text.joinDots (names.map (·.text))

namespace SimpleType

mutual

/-- The paths that occur in a type. -/
def paths : SimpleType → List Text
  | .keyword _ _ _ => []
  | .path name _ => [name.text]
  | .generic name arguments => name.text :: pathsOfAll arguments
  | .nullable inner => inner.paths
  | .array inner _ => inner.paths

def pathsOfAll : List SimpleType → List Text
  | [] => []
  | t :: ts => t.paths ++ pathsOfAll ts

end

end SimpleType

/-- The text of a simple type whose paths are made of identifiers. -/
def IsWrittenType (s : Text) : Prop :=
  ∃ t : SimpleType, (∀ path ∈ t.paths, IsDotted path) ∧ t.Spelled s

/-- Letters, digits and dots, which the system names are made of. -/
def isSystemCharacter (c : Char) : Bool :=
  c.isAlphanum || c == '.'

theorem systemName_characters {word system : Text} (known : systemName? word = some system) :
    system.all isSystemCharacter = true ∧ system.getLast?.any Char.isAlphanum = true := by
  have table : keywordTypes.all (fun entry =>
      entry.2.all isSystemCharacter && entry.2.getLast?.any Char.isAlphanum) = true := by
    decide +kernel
  have own := List.all_eq_true.1 table (word, system) (mem_of_lookup known)
  simpa using own

theorem not_mark_of_systemCharacter {c : Char} (plain : isSystemCharacter c = true) :
    c ∉ typeMarks := by
  intro mark
  have marks : typeMarks.all (fun d => !isSystemCharacter d) = true := by decide
  have other := List.all_eq_true.1 marks c mark
  simp [plain] at other

theorem whole_of_systemCharacters {t : Text} (plain : t.all isSystemCharacter = true) :
    Whole 0 t := by
  apply Whole.of_plain
  intro c member
  exact flat_of_not_mark (not_mark_of_systemCharacter (List.all_eq_true.1 plain c member))

namespace SimpleType

/-- The name of a type is in one piece, like the type as written. -/
theorem whole_documentationName (t : SimpleType) : Whole 0 t.documentationName := by
  induction t with
  | keyword word system known => exact whole_of_systemCharacters (systemName_characters known).1
  | path name other =>
    apply Whole.of_plain
    intro c member
    exact flat_of_not_mark (name.plain c member).2
  | generic name arguments ih =>
    rw [documentationName, documentationNames_eq_map]
    have front : Whole 0 name.text :=
      Whole.of_plain 0 fun c member => flat_of_not_mark (name.plain c member).2
    have inner : Whole 1 (Text.join [','] (arguments.map documentationName)) := by
      apply Whole.join
      intro part member
      obtain ⟨t, belongs, rfl⟩ := List.mem_map.1 member
      exact (ih t belongs).mono (by decide)
    have braces :
        Whole 0 ('\x7b' :: Text.join [','] (arguments.map documentationName) ++ ['\x7d']) :=
      Whole.enclosed (by decide) (by decide) inner
    simpa using front.append braces
  | nullable inner ih =>
    rw [documentationName]
    split
    · have front : Whole 0 "System.Nullable".toList := whole_of_systemCharacters (by decide)
      have braces : Whole 0 ('\x7b' :: inner.documentationName ++ ['\x7d']) :=
        Whole.enclosed (by decide) (by decide) (ih.mono (by decide))
      simpa using front.append braces
    · exact ih
  | array inner commas ih =>
    have flat : ∀ c ∈ List.replicate commas ',', nesting c = 0 := by
      intro c member
      rw [List.eq_of_mem_replicate member]
      decide
    have bracket : Whole 0 ('[' :: List.replicate commas ',' ++ [']']) :=
      Whole.enclosed (by decide) (by decide) (Whole.of_flat flat)
    simpa [documentationName] using ih.append bracket

theorem parenthesis_not_mem (t : SimpleType) : ')' ∉ t.documentationName := by
  induction t with
  | keyword word system known =>
    intro member
    have plain := List.all_eq_true.1 (systemName_characters known).1 _ member
    cases plain
  | path name other => exact name.plain.not_mem (by decide)
  | generic name arguments ih =>
    rw [documentationName, documentationNames_eq_map]
    intro member
    have inner : ')' ∉ Text.join [','] (arguments.map documentationName) :=
      Text.not_mem_join_map (by decide) ih
    have own : ')' ∉ name.text := name.plain.not_mem (by decide)
    simp [inner, own] at member
  | nullable inner ih =>
    rw [documentationName]
    split
    · simp [ih]
    · exact ih
  | array inner commas ih => simp [documentationName, ih, List.mem_replicate]

end SimpleType

/-- The last character is no dot, and an `@` only where an identifier begins. -/
def EndsInName (t : Text) : Prop :=
  ∃ front last, t = front ++ [last] ∧ last ≠ '.' ∧
    (last = '@' → front = [] ∨ front.getLast? = some '.')

theorem EndsInName.of_last {t : Text} {last : Char} (final : t.getLast? = some last)
    (dot : last ≠ '.') (mark : last ≠ '@') : EndsInName t := by
  obtain ⟨front, rfl⟩ := List.getLast?_eq_some_iff.1 final
  exact ⟨front, last, rfl, dot, fun same => absurd same mark⟩

/-- A mark for passing by reference is not taken for a part of a name. -/
theorem EndsInName.ne_append {t other : Text} (ends : EndsInName t) (ends' : EndsInName other) :
    t ≠ other ++ ['@'] := by
  obtain ⟨front, last, rfl, _, start⟩ := ends
  obtain ⟨front', last', rfl, dot, _⟩ := ends'
  intro same
  obtain ⟨rfl, mark⟩ := List.append_inj' same rfl
  rcases start (List.cons.inj mark).1 with empty | dotted
  · simp at empty
  · rw [List.getLast?_concat] at dotted
    exact dot (Option.some.inj dotted)

theorem EndsInName.append_symbolName {front : Text}
    (start : front = [] ∨ front.getLast? = some '.') (name : SymbolName) :
    EndsInName (front ++ name.text) := by
  obtain ⟨text, ⟨nonempty, plain⟩, first⟩ := name
  have noDot : '.' ∉ text := plain.not_mem (by decide)
  cases text with
  | nil => exact absurd rfl nonempty
  | cons c rest =>
    rcases List.eq_nil_or_concat rest with rfl | ⟨middle, last, rfl⟩
    · refine ⟨front, c, rfl, ?_, fun _ => start⟩
      rintro rfl
      simp at noDot
    · refine ⟨front ++ c :: middle, last, by simp, ?_, ?_⟩
      · rintro rfl
        simp at noDot
      · rintro rfl
        simp at first

theorem IsDotted.endsInName {t : Text} (dotted : IsDotted t) : EndsInName t := by
  obtain ⟨names, nonempty, rfl⟩ := dotted
  rcases List.eq_nil_or_concat names with rfl | ⟨outer, last, rfl⟩
  · exact absurd rfl nonempty
  · rw [List.concat_eq_append, List.map_append, List.map_singleton]
    by_cases alone : outer.map (·.text) = []
    · rw [alone]
      exact EndsInName.append_symbolName (Or.inl rfl) last
    · rw [Text.joinDots, Text.join_concat _ _ alone]
      exact EndsInName.append_symbolName (Or.inr List.getLast?_concat) last

theorem SimpleType.endsInName (t : SimpleType) (dotted : ∀ path ∈ t.paths, IsDotted path) :
    EndsInName t.documentationName := by
  induction t with
  | keyword word system known =>
    have last := (systemName_characters known).2
    cases final : system.getLast? with
    | none => simp [final] at last
    | some c =>
      rw [final, Option.any_some] at last
      refine EndsInName.of_last final ?_ ?_
      · rintro rfl
        cases last
      · rintro rfl
        cases last
  | path name other => exact (dotted name.text (by simp [paths])).endsInName
  | generic name arguments =>
    exact EndsInName.of_last List.getLast?_concat (by decide) (by decide)
  | nullable inner ih =>
    rw [documentationName]
    split
    · exact EndsInName.of_last List.getLast?_concat (by decide) (by decide)
    · exact ih dotted
  | array inner commas =>
    exact EndsInName.of_last List.getLast?_concat (by decide) (by decide)

section Parameters

/-- What a documentation ID tells of a parameter. -/
def passing (p : Parameter) : Text × Bool :=
  (typeName p.typeText, isByReference p)

theorem documentationParameter_inj {p q : Parameter} (ends : EndsInName (typeName p.typeText))
    (ends' : EndsInName (typeName q.typeText))
    (same : documentationParameter p = documentationParameter q) : passing p = passing q := by
  unfold documentationParameter at same
  unfold passing
  cases mark : isByReference p <;> cases mark' : isByReference q <;>
    simp only [mark, mark', if_true, if_false, Bool.false_eq_true] at same
  · rw [same]
  · exact absurd same (ends.ne_append ends')
  · exact absurd same.symm (ends'.ne_append ends)
  · rw [List.append_cancel_right same]

variable {p : Parameter} (written : IsWrittenType p.typeText)

include written

theorem endsInName_of_written : EndsInName (typeName p.typeText) := by
  obtain ⟨t, dotted, spelled⟩ := written
  rw [(t.names_of_spelled _ spelled).named]
  exact t.endsInName dotted

theorem whole_documentationParameter : Whole 0 (documentationParameter p) := by
  obtain ⟨t, _, spelled⟩ := written
  have whole := t.whole_documentationName
  rw [← (t.names_of_spelled _ spelled).named] at whole
  unfold documentationParameter
  split
  · exact whole.append (Whole.of_plain 0 (by simp [nesting]))
  · exact whole

theorem parenthesis_not_mem_documentationParameter : ')' ∉ documentationParameter p := by
  obtain ⟨t, _, spelled⟩ := written
  have absent := t.parenthesis_not_mem
  rw [← (t.names_of_spelled _ spelled).named] at absent
  unfold documentationParameter
  split
  · simp [absent]
  · exact absent

end Parameters

/-- Elements that are told apart by `f` are told apart by what `f` determines. -/
theorem map_eq_map_of_determined {α β γ : Type} {f : α → β} {g : α → γ} {xs ys : List α}
    (determined : ∀ x ∈ xs, ∀ y ∈ ys, f x = f y → g x = g y) (same : xs.map f = ys.map f) :
    xs.map g = ys.map g := by
  induction xs generalizing ys with
  | nil =>
    cases ys with
    | nil => rfl
    | cons y ys => cases same
  | cons x xs ih =>
    cases ys with
    | nil => cases same
    | cons y ys =>
      obtain ⟨first, rest⟩ := List.cons.inj same
      have others := ih (fun a inside b inside' => determined a (List.mem_cons_of_mem _ inside) b
        (List.mem_cons_of_mem _ inside')) rest
      rw [List.map_cons, List.map_cons, others,
        determined x List.mem_cons_self y List.mem_cons_self first]

/-- Two parameter lists that are written alike have the same types, passed in the same way. -/
theorem documentationParameters_inj {ps qs : List Parameter} (nonempty : ps ≠ [])
    (nonempty' : qs ≠ []) (written : ∀ p ∈ ps, IsWrittenType p.typeText)
    (written' : ∀ q ∈ qs, IsWrittenType q.typeText)
    (same : documentationParameters ps = documentationParameters qs) :
    ps.map passing = qs.map passing := by
  have cut : ∀ {rs : List Parameter}, rs ≠ [] → (∀ r ∈ rs, IsWrittenType r.typeText) →
      cutAtDepth (· == ',') 0 (documentationParameters rs) = rs.map documentationParameter := by
    intro rs filled all
    apply cutAtDepth_join (by simpa using filled)
    intro part member
    obtain ⟨r, belongs, rfl⟩ := List.mem_map.1 member
    exact whole_documentationParameter (all r belongs) 0 (Int.le_refl 0)
  have parts : ps.map documentationParameter = qs.map documentationParameter := by
    rw [← cut nonempty written, same, cut nonempty' written']
  refine map_eq_map_of_determined (fun p inside q inside' => ?_) parts
  exact documentationParameter_inj (endsInName_of_written (written p inside))
    (endsInName_of_written (written' q inside'))

end DocReport.Symbol

import DocReport.Proofs.Symbol.Cuts
import DocReport.Proofs.Symbol.PassingMode

/-!
Naming any text, whether it is a type or not. `typeName` looks at the end of a text only, so every
text falls into one of a few shapes: an annotation, a rank, type arguments, or none of these.
Brackets need not match. Names have the characters of the text but for those that system names and
punctuation bring in, they are cut at commas like the text, and they are their own names.
-/
namespace DocReport.Symbol

/-- Induction over the shapes in which `typeName` sees a text. -/
theorem typeName_induct {motive : Text → Prop} (trim : ∀ s, motive (Text.trim s) → motive s)
    (annotated : ∀ inner, motive inner → motive (inner ++ '?' :: []))
    (array : ∀ base rank, '[' ∉ rank → motive base → motive (base ++ '[' :: rank ++ ']' :: []))
    (generic : ∀ front inside, '<' ∉ front → (∀ part ∈ splitArguments inside, motive part) →
      motive (front ++ '<' :: inside ++ '>' :: []))
    (other : ∀ t, typeName t = (systemName? t).getD t → motive t) (s : Text) : motive s := by
  induction size : s.length using Nat.strongRecOn generalizing s with
  | ind n ih =>
    subst size
    apply trim
    have bound := Text.length_trim_le s
    have trimmed := Text.trim_trim s
    generalize Text.trim s = t at bound trimmed
    have shorter : ∀ u : Text, u.length < t.length → motive u := fun u less =>
      ih u.length (Nat.lt_of_lt_of_le less bound) u rfl
    by_cases annotation : t.getLast? = some '?'
    · obtain ⟨inner, rfl⟩ := List.getLast?_eq_some_iff.1 annotation
      exact annotated inner (shorter inner (by simp))
    by_cases isArray : t.getLast? = some ']' ∧ '[' ∈ t
    · obtain ⟨front, rfl⟩ := List.getLast?_eq_some_iff.1 isArray.1
      have inside : '[' ∈ front.reverse := by simpa using isArray.2
      obtain ⟨rank, base, cut, absent⟩ := List.eq_append_cons_of_mem inside
      have whole : front = base.reverse ++ '[' :: rank.reverse := by
        simpa using congrArg List.reverse cut
      rw [whole]
      refine array _ _ (by simpa using absent) (shorter _ ?_)
      simp [whole]
    by_cases isGeneric : t.getLast? = some '>' ∧ '<' ∈ t
    · obtain ⟨front, rfl⟩ := List.getLast?_eq_some_iff.1 isGeneric.1
      have inside : '<' ∈ front := by simpa using isGeneric.2
      obtain ⟨name, arguments, rfl, absent⟩ := List.eq_append_cons_of_mem inside
      refine generic _ _ absent fun part member => shorter part ?_
      have bound := length_le_of_mem_splitArguments member
      simp
      omega
    · refine other t ?_
      rw [typeName, trimmed, dif_neg annotation, dif_neg isArray, dif_neg isGeneric]

/-! ### Characters of names -/

theorem mem_of_mem_cutAtDepth {depth : Int} {t part : Text} {c : Char}
    (cut : part ∈ cutAtDepth (· == ',') depth t) (member : c ∈ part) : c ∈ t :=
  join_cutAtDepth ',' depth t ▸ Text.mem_join_of_mem cut member

theorem mem_of_mem_trim {t : Text} {c : Char} (member : c ∈ Text.trim t) : c ∈ t := by
  have reversed := (List.dropWhile_sublist Text.isBlank).mem (List.mem_reverse.1 member)
  exact (List.dropWhile_sublist Text.isBlank).mem (List.mem_reverse.1 reversed)

theorem mem_splitArguments {t part : Text} (member : part ∈ splitArguments t) :
    ∃ raw ∈ cutAtDepth (· == ',') 0 t, part = Text.trim raw := by
  have mapped : part ∈ (cutAtDepth (· == ',') 0 t).map Text.trim := by
    simp only [splitArguments, splitTopLevel] at member
    split at member
    · cases member
    · exact member
  obtain ⟨raw, cut, same⟩ := List.mem_map.1 mapped
  exact ⟨raw, cut, same.symm⟩

/-- The characters that names bring in: those of system names, and what encloses and separates. -/
def isSuppliedCharacter (c : Char) : Bool :=
  isSystemCharacter c || ['\x7b', '\x7d', '[', ']', ','].contains c

section Characters

variable {p : Char → Prop} (own : ∀ c, isSuppliedCharacter c = true → p c)

include own

theorem forall_of_all {t : Text} (all : t.all isSuppliedCharacter = true) : ∀ c ∈ t, p c :=
  fun c member => own c (List.all_eq_true.1 all c member)

theorem systemName?_forall {t : Text} (plain : ∀ c ∈ t, p c) :
    ∀ c ∈ (systemName? t).getD t, p c := by
  cases known : systemName? t with
  | none => exact plain
  | some system =>
    intro c member
    refine own c ?_
    rw [isSuppliedCharacter, List.all_eq_true.1 (systemName_characters known).1 c member]
    rfl

/-- Names are made of the characters of the text and of those that names bring in. -/
theorem typeName_forall {s : Text} (plain : ∀ c ∈ s, p c) : ∀ c ∈ typeName s, p c := by
  induction s using typeName_induct with
  | trim s ih =>
    rw [← typeName_trim]
    exact ih fun c member => plain c (mem_of_mem_trim member)
  | annotated inner ih =>
    have named := ih fun c member => plain c (List.mem_append_left _ member)
    have nullable := forall_of_all own (t := "System.Nullable".toList) (by decide)
    rw [typeName_annotated Text.isGap_nil]
    split
    · simp only [List.forall_mem_append, List.forall_mem_singleton]
      exact ⟨⟨⟨nullable, own _ (by decide)⟩, named⟩, own _ (by decide)⟩
    · exact named
  | array base rank last ih =>
    simp only [List.forall_mem_append, List.forall_mem_cons] at plain
    rw [typeName_array Text.isGap_nil last]
    simp only [List.forall_mem_append, List.forall_mem_singleton]
    refine ⟨⟨⟨ih plain.1.1, own _ (by decide)⟩, ?_⟩, own _ (by decide)⟩
    exact fun c member => plain.1.2.2 c (List.mem_filter.1 member).1
  | generic front inside first ih =>
    simp only [List.forall_mem_append, List.forall_mem_cons] at plain
    rw [typeName_generic Text.isGap_nil first]
    simp only [List.forall_mem_append, List.forall_mem_singleton]
    refine ⟨⟨⟨?_, own _ (by decide)⟩, ?_⟩, own _ (by decide)⟩
    · exact fun c member => plain.1.1 c (mem_of_mem_trim member)
    · intro c member
      rcases Text.mem_join member with comma | ⟨name, listed, inName⟩
      · rw [List.mem_singleton.1 comma]
        exact own _ (by decide)
      · obtain ⟨part, belongs, rfl⟩ := List.mem_map.1 listed
        obtain ⟨raw, cut, rfl⟩ := mem_splitArguments belongs
        refine ih _ belongs (fun d inside => ?_) c inName
        exact plain.1.2.2 d (mem_of_mem_cutAtDepth cut (mem_of_mem_trim inside))
  | other t named =>
    rw [named]
    exact systemName?_forall own plain

end Characters

theorem not_mem_typeName {c : Char} (foreign : isSuppliedCharacter c = false) {s : Text}
    (absent : c ∉ s) : c ∉ typeName s := by
  intro member
  refine typeName_forall (p := (· ≠ c)) ?_ ?_ c member rfl
  · rintro d named rfl
    rw [foreign] at named
    cases named
  · rintro d inside rfl
    exact absent inside

/-! ### Cuts of names -/

/-- White space at the edges takes no part in cuts. -/
theorem sameCuts_trim (t : Text) : SameCuts (Text.trim t) t := by
  obtain ⟨behind, white, whole⟩ := Text.exists_append_trimEnd (Text.trimStart t)
  have front : SameCuts (t.takeWhile Text.isBlank) [] :=
    SameCuts.of_gap fun c member => Text.mem_takeWhile member
  have edges := (front.append (SameCuts.refl (Text.trim t))).append (SameCuts.of_gap white)
  have text : t.takeWhile Text.isBlank ++ Text.trim t ++ behind = t := by
    rw [List.append_assoc, Text.trim, ← whole]
    exact List.takeWhile_append_dropWhile
  rw [text, List.append_nil, List.nil_append] at edges
  exact edges.symm

theorem sameCuts_systemName (t : Text) : SameCuts ((systemName? t).getD t) t := by
  cases known : systemName? t with
  | none => exact SameCuts.refl t
  | some system =>
    have written : SameCuts t [] := SameCuts.of_avoids (keyword_avoids known)
    have named : SameCuts system [] := SameCuts.of_plain fun c member =>
      flat_of_not_mark (not_mark_of_systemCharacter
        (List.all_eq_true.1 (systemName_characters known).1 c member))
    exact named.trans written.symm

/-- What is written around a keyword closes all that it opens. -/
theorem sameCuts_nullable {inner : Text} (value : isValueKeyword (Text.trim inner) = true) :
    SameCuts ("System.Nullable".toList ++ ['\x7b'] ++ typeName inner ++ ['\x7d']) inner := by
  have braces : SameCuts ['\x7b', '\x7d'] [] := by
    intro depth
    have back : depthAfter depth ['\x7b', '\x7d'] = depth + 1 + -1 := rfl
    exact ⟨back.trans (by rw [depthAfter]; omega), rfl⟩
  have nullable : SameCuts "System.Nullable".toList [] := SameCuts.of_avoids (by decide)
  obtain ⟨system, known⟩ := Option.isSome_iff_exists.1 (Bool.and_eq_true_iff.1 value).1
  have bare : SameCuts (Text.trim inner) [] := SameCuts.of_avoids (keyword_avoids known)
  have named : SameCuts (typeName inner) [] := by
    rw [← typeName_trim, typeName_word (keyword_avoids known)]
    exact (sameCuts_systemName _).trans bare
  have outside := ((nullable.append (SameCuts.refl ['\x7b'])).append named).append
    (SameCuts.refl ['\x7d'])
  exact (outside.trans braces).trans (bare.symm.trans (sameCuts_trim inner))

/-- The names of the types in a list that commas separate, separated in the same way. -/
def listName (list : Text) : Text :=
  Text.join [','] ((splitArguments list).map typeName)

theorem typeName_nil : typeName [] = [] := typeName_word (by simp [Text.Avoids])

/-- Whether a blank list has no type or one without a name makes no difference. -/
theorem listName_eq (list : Text) :
    listName list = Text.join [','] ((cutAtDepth (· == ',') 0 list).map typeName) := by
  have names : (cutAtDepth (· == ',') 0 list).map typeName =
      ((cutAtDepth (· == ',') 0 list).map Text.trim).map typeName := by
    simp [typeName_trim]
  rw [names, listName, splitArguments, splitTopLevel]
  split
  · rename_i blank
    rw [blank, List.map_singleton, typeName_nil]
    rfl
  · rfl

/-- A part of a list is one of its types, or blank. -/
theorem trim_mem_splitArguments {list raw : Text} (cut : raw ∈ cutAtDepth (· == ',') 0 list) :
    Text.trim raw ∈ splitArguments list ∨ Text.trim raw = [] := by
  have mapped := List.mem_map_of_mem (f := Text.trim) cut
  rw [splitArguments, splitTopLevel]
  split
  · rename_i blank
    rw [blank] at mapped
    exact .inr (List.mem_singleton.1 mapped)
  · exact .inl mapped

/-- A name is cut like the text that it names. -/
theorem sameCuts_typeName (s : Text) : SameCuts (typeName s) s := by
  induction s using typeName_induct with
  | trim s ih =>
    rw [typeName_trim] at ih
    exact ih.trans (sameCuts_trim s)
  | annotated inner ih =>
    have mark : SameCuts ('?' :: []) [] := SameCuts.of_plain (by simp [nesting])
    have bare : SameCuts (inner ++ '?' :: []) inner := by
      simpa using (SameCuts.refl inner).append mark
    rw [typeName_annotated Text.isGap_nil]
    split
    · rename_i value
      exact (sameCuts_nullable value).trans bare.symm
    · exact ih.trans bare.symm
  | array base rank last ih =>
    rw [typeName_array Text.isGap_nil last]
    have rank := (SameCuts.refl ['[']).append (SameCuts.filter_space rank)
    simpa using (ih.append rank).append (SameCuts.refl [']'])
  | generic front inside first ih =>
    rw [typeName_generic Text.isGap_nil first]
    have opening : SameCuts ['\x7b'] ['<'] := fun _ => ⟨rfl, rfl⟩
    have closing : SameCuts ['\x7d'] ['>'] := fun _ => ⟨rfl, rfl⟩
    have arguments : SameCuts (listName inside) inside := by
      have each : ∀ raw ∈ cutAtDepth (· == ',') 0 inside, SameCuts (typeName raw) raw := by
        intro raw cut
        rw [← typeName_trim]
        refine SameCuts.trans ?_ (sameCuts_trim raw)
        rcases trim_mem_splitArguments cut with listed | blank
        · exact ih _ listed
        · rw [blank, typeName_nil]
          exact SameCuts.refl []
      have joined := SameCuts.join each
      rwa [← listName_eq, join_cutAtDepth] at joined
    have whole := (((sameCuts_trim front).append opening).append arguments).append closing
    simpa [listName] using whole
  | other t named =>
    rw [named]
    exact sameCuts_systemName t

/-! ### Names of names -/

/-- A name that a brace closes is its own name. -/
theorem typeName_closed {front : Text} (start : Text.trimStart front = front) :
    typeName (front ++ ['\x7d']) = front ++ ['\x7d'] := by
  rw [typeName_of_brace Text.isGap_nil, start]

theorem typeName_systemName {word system : Text} (known : systemName? word = some system) :
    typeName system = system :=
  (SimpleType.keyword word system known).typeName_documentationName

/-- Naming a text a second time changes nothing. -/
theorem typeName_typeName (s : Text) : typeName (typeName s) = typeName s := by
  induction s using typeName_induct with
  | trim s ih => rwa [typeName_trim] at ih
  | annotated inner ih =>
    rw [typeName_annotated Text.isGap_nil]
    split
    · exact typeName_closed rfl
    · exact ih
  | array base rank last ih =>
    have last' : '[' ∉ rank.filter (· != ' ') := fun member => last (List.mem_filter.1 member).1
    have again := typeName_array Text.isGap_nil last' (typeName base)
    rw [typeName_array Text.isGap_nil last]
    simpa [ih] using again
  | generic front inside first ih =>
    rw [typeName_generic Text.isGap_nil first]
    refine typeName_closed ?_
    rw [List.append_assoc, List.singleton_append, Text.trimStart_append_solid (by decide),
      Text.trimStart, Text.dropWhile_trim fun _ => id]
  | other t named =>
    rw [named]
    cases known : systemName? t with
    | none => simpa [known] using named
    | some system => exact typeName_systemName known

/-- Naming the types of a list a second time changes nothing. -/
theorem listName_listName (list : Text) : listName (listName list) = listName list := by
  have parts : AreParts 0 ((cutAtDepth (· == ',') 0 list).map typeName) :=
    (areParts_cutAtDepth 0 list).map fun part _ => sameCuts_typeName part
  rw [listName_eq (listName list), listName_eq list, cutAtDepth_of_areParts parts, List.map_map]
  congr 1
  exact List.map_congr_left fun part _ => typeName_typeName part

end DocReport.Symbol

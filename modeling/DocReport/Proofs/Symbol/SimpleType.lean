import DocReport.Proofs.Symbol.Nesting
import DocReport.Proofs.Text.Spaced
import DocReport.Proofs.Text.Solid
import DocReport.Symbol.TypeName

/-!
The grammar of simple types and the names that documentation IDs have for them. Whatever spaces a
type is written with, `typeName` reads its structure off the text: an annotation or a rank at the
end, else type arguments up to the end, else a keyword or a path.
-/
namespace DocReport.Symbol

section Shapes

theorem typeName_trim (t : Text) : typeName (Text.trim t) = typeName t := by
  rw [typeName, Text.trim_trim]
  conv => rhs; rw [typeName]

theorem typeName_trimStart (t : Text) : typeName (Text.trimStart t) = typeName t := by
  rw [← typeName_trim, Text.trim_trimStart, typeName_trim]

variable {gap : Text}

theorem typeName_annotated (blank : Text.IsGap gap) (inner : Text) :
    typeName (inner ++ '?' :: gap) =
      if isValueKeyword (Text.trim inner) then
        "System.Nullable".toList ++ ['\x7b'] ++ typeName inner ++ ['\x7d']
      else typeName inner := by
  have cut := Text.trim_append_solid (c := '?') (by decide) blank inner
  rw [typeName, cut, dif_pos List.getLast?_concat]
  simp only [List.dropLast_concat, Text.trim_trimStart, typeName_trim]

theorem typeName_array (blank : Text.IsGap gap) {rank : Text} (last : '[' ∉ rank) (base : Text) :
    typeName (base ++ '[' :: rank ++ ']' :: gap) =
      typeName base ++ ['['] ++ rank.filter (· != ' ') ++ [']'] := by
  have whole : Text.trim (base ++ '[' :: rank ++ ']' :: gap) =
      Text.trimStart base ++ '[' :: rank ++ [']'] := by
    rw [Text.trim_append_solid (by decide) blank, Text.trimStart_append_solid (by decide)]
  have cut : Text.cutLast '[' (Text.trimStart base ++ '[' :: rank ++ [']']) =
      (Text.trimStart base, rank ++ [']']) := by
    rw [List.append_assoc, List.cons_append, Text.cutLast_append (by simp [last])]
  rw [typeName, whole, List.getLast?_concat, dif_neg (by simp), dif_pos (by simp), cut,
    typeName_trimStart, List.filter_append, ← List.append_assoc]
  rfl

theorem typeName_generic (blank : Text.IsGap gap) {front : Text} (first : '<' ∉ front)
    (inside : Text) :
    typeName (front ++ '<' :: inside ++ '>' :: gap) =
      Text.trim front ++ ['\x7b'] ++ Text.join [','] ((splitArguments inside).map typeName) ++
        ['\x7d'] := by
  have whole : Text.trim (front ++ '<' :: inside ++ '>' :: gap) =
      Text.trimStart front ++ '<' :: inside ++ ['>'] := by
    rw [Text.trim_append_solid (by decide) blank, Text.trimStart_append_solid (by decide)]
  have absent : '<' ∉ Text.trimStart front := fun member =>
    first ((List.dropWhile_sublist _).mem member)
  have cut : splitGeneric (Text.trimStart front ++ '<' :: inside ++ ['>']) =
      (Text.trimStart front, inside) := by
    rw [splitGeneric, List.append_assoc, List.cons_append, Text.cutFirst_append absent]
    simp
  rw [typeName, whole, List.getLast?_concat, dif_neg (by simp), dif_neg (by simp),
    dif_pos (by simp), List.attach_map_val, cut, Text.trim_trimStart]

end Shapes

/-- Marks that enclose, separate or annotate types. -/
def typeMarks : Text :=
  ['<', '>', '\x7b', '\x7d', '[', ']', '(', ')', ',', '?']

theorem typeName_word {word : Text} (plain : Text.Avoids typeMarks word) :
    typeName word = (systemName? word).getD word := by
  have ends : ∀ c ∈ typeMarks, word.getLast? ≠ some c := fun c mark last =>
    plain.not_mem mark (List.mem_of_getLast? last)
  rw [typeName, plain.trim, dif_neg (ends _ (by decide)), dif_neg fun h => ends _ (by decide) h.1,
    dif_neg fun h => ends _ (by decide) h.1]

/-- What a table gives for a key is an entry of it. -/
theorem mem_of_lookup {table : List (Text × Text)} {key value : Text}
    (found : table.lookup key = some value) : (key, value) ∈ table := by
  obtain ⟨before, behind, rfl, _⟩ := List.lookup_eq_some_iff.1 found
  simp

theorem keyword_avoids {word system : Text} (known : systemName? word = some system) :
    Text.Avoids typeMarks word := by
  have table : ∀ entry ∈ keywordTypes, Text.Avoids typeMarks entry.1 := by decide +kernel
  exact table (word, system) (mem_of_lookup known)

/-- Keywords hold no mark of a type. -/
theorem isValueKeyword_of_mark {t : Text} {c : Char} (member : c ∈ t) (mark : c ∈ typeMarks) :
    isValueKeyword t = false := by
  cases known : systemName? t with
  | none => simp [isValueKeyword, known]
  | some system => exact absurd member ((keyword_avoids known).not_mem mark)

/-- A dotted path of identifiers; the dots are characters of it like all others. -/
structure TypePath where
  text : Text
  nonempty : text ≠ []
  plain : Text.Avoids typeMarks text

/-- Simple types: keywords, paths, paths with type arguments, annotated types, and arrays with the
number of commas in their rank. -/
inductive SimpleType where
  | keyword (word system : Text) (known : systemName? word = some system)
  | path (name : TypePath) (other : systemName? name.text = none)
  | generic (name : TypePath) (arguments : List SimpleType)
  | nullable (inner : SimpleType)
  | array (inner : SimpleType) (commas : Nat)

namespace SimpleType

/-- Induction over a type, with the claim for each type argument at hand. -/
@[induction_eliminator]
theorem induct {motive : SimpleType → Prop}
    (keyword : ∀ word system known, motive (.keyword word system known))
    (path : ∀ name other, motive (.path name other))
    (generic : ∀ name arguments, (∀ t ∈ arguments, motive t) → motive (.generic name arguments))
    (nullable : ∀ inner, motive inner → motive (.nullable inner))
    (array : ∀ inner commas, motive inner → motive (.array inner commas)) (t : SimpleType) :
    motive t :=
  @SimpleType.rec motive (fun ts => ∀ t ∈ ts, motive t) keyword path generic nullable array
    (by simp) (fun _ _ first others => List.forall_mem_cons.2 ⟨first, others⟩) t

/-- Keyword types whose annotated form is a type of its own. -/
def isValueKeyword : SimpleType → Bool
  | .keyword word _ _ => !(["object".toList, "string".toList, "dynamic".toList].contains word)
  | _ => false

mutual

/-- The tokens that a type is written with. -/
def tokens : SimpleType → List Text
  | .keyword word _ _ => [word]
  | .path name _ => [name.text]
  | .generic name arguments =>
    [name.text] ++ ['<'] :: Text.separated (tokensOfAll arguments) ++ [['>']]
  | .nullable inner => inner.tokens ++ [['?']]
  | .array inner commas => inner.tokens ++ ['['] :: List.replicate commas [','] ++ [[']']]

def tokensOfAll : List SimpleType → List (List Text)
  | [] => []
  | t :: ts => t.tokens :: tokensOfAll ts

end

mutual

/-- The name of a type in documentation IDs. -/
def documentationName : SimpleType → Text
  | .keyword _ system _ => system
  | .path name _ => name.text
  | .generic name arguments =>
    name.text ++ ['\x7b'] ++ Text.join [','] (documentationNames arguments) ++ ['\x7d']
  | .nullable inner =>
    if inner.isValueKeyword then
      "System.Nullable".toList ++ ['\x7b'] ++ inner.documentationName ++ ['\x7d']
    else inner.documentationName
  | .array inner commas => inner.documentationName ++ ['['] ++ List.replicate commas ',' ++ [']']

def documentationNames : List SimpleType → List Text
  | [] => []
  | t :: ts => t.documentationName :: documentationNames ts

end

theorem tokensOfAll_eq_map (ts : List SimpleType) : tokensOfAll ts = ts.map tokens := by
  induction ts with
  | nil => rfl
  | cons t ts ih => rw [tokensOfAll, ih, List.map_cons]

theorem documentationNames_eq_map (ts : List SimpleType) :
    documentationNames ts = ts.map documentationName := by
  induction ts with
  | nil => rfl
  | cons t ts ih => rw [documentationNames, ih, List.map_cons]

/-- The type as written with the given numbers of spaces around its tokens. -/
def spelling (t : SimpleType) (gaps : List Nat) : Text :=
  Text.spread gaps t.tokens

/-- A text spells a type if it is the type's tokens with any spaces around them. -/
def Spelled (t : SimpleType) (s : Text) : Prop :=
  Text.Spaced t.tokens s

variable {s : Text}

theorem Spelled.of_nullable {inner : SimpleType} (spelled : (nullable inner).Spelled s) :
    ∃ front gap, Text.IsSpaces gap ∧ inner.Spelled front ∧ s = front ++ '?' :: gap := by
  obtain ⟨front, gap, spaces, own, rfl⟩ := Text.Spaced.exists_last spelled
  exact ⟨front, gap, spaces, own, by simp⟩

theorem Spelled.of_array {inner : SimpleType} {commas : Nat}
    (spelled : (array inner commas).Spelled s) :
    ∃ front rank gap, Text.IsSpaces gap ∧ inner.Spelled front ∧
      Text.Spaced (List.replicate commas [',']) rank ∧ s = front ++ '[' :: rank ++ ']' :: gap :=
  Text.Spaced.exists_enclosed spelled

theorem Spelled.of_generic {name : TypePath} {arguments : List SimpleType}
    (spelled : (generic name arguments).Spelled s) :
    ∃ front inside gap, Text.IsSpaces gap ∧ Text.Spaced [name.text] front ∧
      Text.Spaced (Text.separated (arguments.map tokens)) inside ∧
      s = front ++ '<' :: inside ++ '>' :: gap := by
  rw [Spelled, tokens, tokensOfAll_eq_map] at spelled
  exact Text.Spaced.exists_enclosed spelled

end SimpleType

theorem flat_of_not_mark {c : Char} (plain : c ∉ typeMarks) : nesting c = 0 ∧ c ≠ ',' := by
  simp only [typeMarks, List.mem_cons, not_or] at plain
  simp [nesting, plain]

theorem whole_of_spaces {gap : Text} (spaces : Text.IsSpaces gap) (least : Int) :
    Whole least gap := by
  apply Whole.of_plain
  intro c member
  rw [spaces c member]
  decide

theorem whole_of_word {word s : Text} (plain : Text.Avoids typeMarks word)
    (spaced : Text.Spaced [word] s) : Whole 0 s := by
  apply Whole.of_plain
  intro c member
  rcases spaced.mem member with space | ⟨token, only, inside⟩
  · rw [space]
    decide
  · rw [List.mem_singleton.1 only] at inside
    exact flat_of_not_mark (plain c inside).2

/-- A text that can stand in a list of types, with its name: it is in one piece and not blank. -/
structure Names (s name : Text) : Prop where
  whole : Whole 0 s
  solid : Text.trim s ≠ []
  named : typeName s = name

section Lists

variable {parts names : List Text}

theorem whole_of_names (each : List.Forall₂ Names parts names) :
    ∀ part ∈ parts, Whole 0 part := by
  induction each with
  | nil => simp
  | cons first _ ih => exact List.forall_mem_cons.2 ⟨first.whole, ih⟩

theorem typeNames_join (each : List.Forall₂ Names parts names) :
    (splitArguments (Text.join [','] parts)).map typeName = names := by
  have whole := fun part member => whole_of_names each part member 0 (Int.le_refl 0)
  have solid : parts.map Text.trim ≠ [[]] := by
    cases each with
    | nil => simp
    | cons first _ => simp [first.solid]
  rw [splitArguments_join whole solid, List.map_map]
  clear whole solid
  induction each with
  | nil => rfl
  | cons first _ ih => rw [List.map_cons, Function.comp_apply, typeName_trim, first.named, ih]

variable {α : Type} {items : List α} {row : α → List Text} {name : α → Text} {s : Text}

/-- A list of types is written as parts that commas join; a list of none may have spaces in it. -/
theorem exists_parts (spaced : Text.Spaced (Text.separated (items.map row)) s)
    (each : ∀ item ∈ items, ∀ part, Text.Spaced (row item) part → Names part (name item)) :
    ∃ parts, List.Forall₂ Names parts (items.map name) ∧
      (s = Text.join [','] parts ∨ parts = [] ∧ Text.IsSpaces s) := by
  cases items with
  | nil =>
    cases spaced with
    | nil spaces => exact ⟨[], .nil, Or.inr ⟨rfl, spaces⟩⟩
  | cons first rest =>
    obtain ⟨parts, spelled, whole⟩ := spaced.exists_join (by simp)
    rw [List.forall₂_map_left_iff] at spelled
    have both := (List.forall₂_and_left _ _).2 ⟨each, spelled⟩
    refine ⟨parts, ?_, Or.inl whole⟩
    rw [List.forall₂_map_right_iff]
    exact (both.imp fun item part found => found.1 part found.2).flip

theorem typeNames_separated (spaced : Text.Spaced (Text.separated (items.map row)) s)
    (each : ∀ item ∈ items, ∀ part, Text.Spaced (row item) part → Names part (name item)) :
    (splitArguments s).map typeName = items.map name := by
  obtain ⟨parts, named, rfl | ⟨rfl, spaces⟩⟩ := exists_parts spaced each
  · exact typeNames_join named
  · have uncut := (whole_of_spaces spaces 0 0 (Int.le_refl 0)).2
    rw [splitArguments, splitTopLevel, uncut, List.map_singleton, Text.trim_gap spaces.isGap]
    exact typeNames_join named

theorem whole_separated (spaced : Text.Spaced (Text.separated (items.map row)) s)
    (each : ∀ item ∈ items, ∀ part, Text.Spaced (row item) part → Names part (name item)) :
    Whole 1 s := by
  obtain ⟨parts, named, rfl | ⟨rfl, spaces⟩⟩ := exists_parts spaced each
  · exact Whole.join fun part member => (whole_of_names named part member).mono (by decide)
  · exact whole_of_spaces spaces 1

end Lists

section Constructors

variable {s gap : Text}

theorem names_word {word : Text} (nonempty : word ≠ []) (plain : Text.Avoids typeMarks word)
    (spaced : Text.Spaced [word] s) : Names s ((systemName? word).getD word) where
  whole := whole_of_word plain spaced
  solid := by rwa [spaced.trim_eq plain]
  named := by rw [← typeName_trim, spaced.trim_eq plain, typeName_word plain]

theorem names_annotated {front name : Text} (spaces : Text.IsSpaces gap)
    (inner : Names front name) :
    Names (front ++ '?' :: gap)
      (if isValueKeyword (Text.trim front) then
        "System.Nullable".toList ++ ['\x7b'] ++ name ++ ['\x7d']
      else name) where
  whole := by
    have mark : Whole 0 ['?'] := Whole.of_plain 0 (by simp [nesting])
    exact inner.whole.append (mark.append (whole_of_spaces spaces 0))
  solid := Text.trim_ne_nil (c := '?') (by simp) (by decide)
  named := by rw [typeName_annotated spaces.isGap, inner.named]

/-- The characters of a rank, and its commas. -/
theorem rank_of_spaced {rank : Text} {commas : Nat}
    (spaced : Text.Spaced (List.replicate commas [',']) rank) :
    (∀ c ∈ rank, c = ' ' ∨ c = ',') ∧ rank.filter (· != ' ') = List.replicate commas ',' := by
  refine ⟨?_, ?_⟩
  · intro c member
    rcases spaced.mem member with space | ⟨token, belongs, inside⟩
    · exact Or.inl space
    · rw [List.eq_of_mem_replicate belongs] at inside
      exact Or.inr (List.mem_singleton.1 inside)
  · rw [spaced.filter_eq, List.flatten_replicate_singleton]
    intro token belongs
    rw [List.eq_of_mem_replicate belongs]
    decide

theorem names_array {front name rank : Text} {commas : Nat} (spaces : Text.IsSpaces gap)
    (inner : Names front name) (spaced : Text.Spaced (List.replicate commas [',']) rank) :
    Names (front ++ '[' :: rank ++ ']' :: gap)
      (name ++ ['['] ++ List.replicate commas ',' ++ [']']) where
  whole := by
    have flat : ∀ c ∈ rank, nesting c = 0 := by
      intro c member
      rcases (rank_of_spaced spaced).1 c member with rfl | rfl <;> decide
    have bracket : Whole 0 ('[' :: rank ++ [']']) :=
      Whole.enclosed (by decide) (by decide) (Whole.of_flat flat)
    have all := (inner.whole.append bracket).append (whole_of_spaces spaces 0)
    simpa using all
  solid := Text.trim_ne_nil (c := '[') (by simp) (by decide)
  named := by
    have absent : '[' ∉ rank := by
      intro member
      rcases (rank_of_spaced spaced).1 _ member with same | same <;> cases same
    rw [typeName_array spaces.isGap absent, inner.named, (rank_of_spaced spaced).2]

theorem names_generic {front inside : Text} {path : TypePath} {items : List SimpleType}
    (spaces : Text.IsSpaces gap) (own : Text.Spaced [path.text] front)
    (spaced : Text.Spaced (Text.separated (items.map SimpleType.tokens)) inside)
    (each : ∀ t ∈ items, ∀ part, t.Spelled part → Names part t.documentationName) :
    Names (front ++ '<' :: inside ++ '>' :: gap)
      (path.text ++ ['\x7b'] ++ Text.join [','] (items.map SimpleType.documentationName) ++
        ['\x7d']) where
  whole := by
    have bracket : Whole 0 ('<' :: inside ++ ['>']) :=
      Whole.enclosed (by decide) (by decide) (whole_separated spaced each)
    have all := ((whole_of_word path.plain own).append bracket).append (whole_of_spaces spaces 0)
    simpa using all
  solid := Text.trim_ne_nil (c := '<') (by simp) (by decide)
  named := by
    have absent : '<' ∉ front := by
      intro member
      rcases own.mem member with space | ⟨token, only, inside⟩
      · cases space
      · rw [List.mem_singleton.1 only] at inside
        exact path.plain.not_mem (by decide) inside
    rw [typeName_generic spaces.isGap absent, own.trim_eq path.plain,
      typeNames_separated spaced each]

end Constructors

namespace SimpleType

/-- An annotation makes another type of a value keyword only, and the text says which that is. -/
theorem isValueKeyword_trim (t : SimpleType) {s : Text} (spelled : t.Spelled s) :
    Symbol.isValueKeyword (Text.trim s) = t.isValueKeyword := by
  cases t with
  | keyword word system known =>
    have same : Text.trim s = word := Text.Spaced.trim_eq spelled (keyword_avoids known)
    rw [same, Symbol.isValueKeyword, known]
    rfl
  | path name other =>
    have same : Text.trim s = name.text := Text.Spaced.trim_eq spelled name.plain
    rw [same, Symbol.isValueKeyword, other]
    rfl
  | generic name arguments =>
    obtain ⟨front, inside, gap, spaces, -, -, rfl⟩ := spelled.of_generic
    rw [Text.trim_append_solid (by decide) spaces.isGap]
    exact isValueKeyword_of_mark (c := '>') (by simp) (by decide)
  | nullable inner =>
    obtain ⟨front, gap, spaces, -, rfl⟩ := spelled.of_nullable
    rw [Text.trim_append_solid (by decide) spaces.isGap]
    exact isValueKeyword_of_mark (c := '?') (by simp) (by decide)
  | array inner commas =>
    obtain ⟨front, rank, gap, spaces, -, -, rfl⟩ := spelled.of_array
    rw [Text.trim_append_solid (by decide) spaces.isGap]
    exact isValueKeyword_of_mark (c := ']') (by simp) (by decide)

/-- However a type is spelled, its text stands for it in every list of types. -/
theorem names_of_spelled (t : SimpleType) : ∀ s, t.Spelled s → Names s t.documentationName := by
  induction t with
  | keyword word system known =>
    intro s spelled
    have nonempty : word ≠ [] := by
      rintro rfl
      cases known
    have named := names_word nonempty (keyword_avoids known) spelled
    rwa [known] at named
  | path name other =>
    intro s spelled
    have named := names_word name.nonempty name.plain spelled
    rwa [other] at named
  | generic name arguments ih =>
    intro s spelled
    obtain ⟨front, inside, gap, spaces, own, others, rfl⟩ := spelled.of_generic
    rw [documentationName, documentationNames_eq_map]
    exact names_generic spaces own others ih
  | nullable inner ih =>
    intro s spelled
    obtain ⟨front, gap, spaces, own, rfl⟩ := spelled.of_nullable
    rw [documentationName, ← isValueKeyword_trim inner own]
    exact names_annotated spaces (ih front own)
  | array inner commas ih =>
    intro s spelled
    obtain ⟨front, rank, gap, spaces, own, others, rfl⟩ := spelled.of_array
    exact names_array spaces (ih front own) others

/-- No type is written with parentheses. -/
theorem parenthesis_not_mem_tokens (t : SimpleType) : ∀ token ∈ t.tokens, ')' ∉ token := by
  induction t with
  | keyword word system known =>
    intro token member
    rw [List.mem_singleton.1 member]
    exact (keyword_avoids known).not_mem (by decide)
  | path name other =>
    intro token member
    rw [List.mem_singleton.1 member]
    exact name.plain.not_mem (by decide)
  | generic name arguments ih =>
    intro token member
    simp only [tokens, tokensOfAll_eq_map, List.mem_append, List.mem_cons, List.not_mem_nil,
      or_false] at member
    rcases member with (rfl | rfl | inner) | rfl
    · exact name.plain.not_mem (by decide)
    · decide
    · rcases Text.mem_separated inner with rfl | ⟨row, belongs, inside⟩
      · decide
      · obtain ⟨t, argument, rfl⟩ := List.mem_map.1 belongs
        exact ih t argument token inside
    · decide
  | nullable inner ih =>
    intro token member
    rcases List.mem_append.1 member with own | mark
    · exact ih token own
    · rw [List.mem_singleton.1 mark]
      decide
  | array inner commas ih =>
    intro token member
    simp only [tokens, List.mem_append, List.mem_cons, List.mem_replicate, List.not_mem_nil,
      or_false] at member
    rcases member with (own | rfl | ⟨_, rfl⟩) | rfl
    · exact ih token own
    all_goals decide

end SimpleType

/-- The name of a written type depends on the type alone, not on how it is spaced: keywords become
system names, type arguments stand in braces, an annotation counts for value keywords only, and
ranks keep their commas. -/
theorem typeName_spelling (t : SimpleType) (gaps : List Nat) :
    typeName (t.spelling gaps) = t.documentationName :=
  (t.names_of_spelled _ (Text.spaced_spread gaps t.tokens)).named

example : typeName " Map < string , int ? [ , ] > ?".toList =
    "Map\x7bSystem.String,System.Nullable\x7bSystem.Int32\x7d[,]\x7d".toList := by
  decide +kernel

end DocReport.Symbol

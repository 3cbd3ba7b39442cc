import DocReport.Proofs.Symbol.ParameterList
import DocReport.Proofs.Text.Edges

/-!
Type arguments in braces. Braces nest like angle brackets, so a text is cut at the same places
whichever it is written with. But `typeName` translates arguments in angle brackets only and takes a
type that ends in a brace over as it is written. Both spellings give the same name exactly if the
arguments are written as documentation IDs have them.
-/
namespace DocReport.Symbol

/-- The brace for an angle bracket. -/
def braceOf (c : Char) : Char :=
  if c = '<' then '\x7b' else if c = '>' then '\x7d' else c

/-- A text with braces for its angle brackets. -/
def braced (t : Text) : Text :=
  t.map braceOf

theorem braceOf_of_ne {c : Char} (less : c ≠ '<') (greater : c ≠ '>') : braceOf c = c := by
  rw [braceOf, if_neg less, if_neg greater]

/-- Braces are the only characters that come from others. -/
theorem braceOf_eq_iff {c d : Char} (plain : d ∉ ['<', '>', '\x7b', '\x7d']) :
    braceOf c = d ↔ c = d := by
  simp only [List.mem_cons, List.not_mem_nil, or_false, not_or] at plain
  by_cases less : c = '<'
  · subst less
    simp [braceOf, Ne.symm plain.2.2.1, Ne.symm plain.1]
  · by_cases greater : c = '>'
    · subst greater
      simp [braceOf, Ne.symm plain.2.2.2, Ne.symm plain.2.1]
    · rw [braceOf_of_ne less greater]

theorem nesting_braceOf (c : Char) : nesting (braceOf c) = nesting c := by
  by_cases less : c = '<'
  · rw [less]
    decide
  · by_cases greater : c = '>'
    · rw [greater]
      decide
    · rw [braceOf_of_ne less greater]

theorem isBlank_braceOf (c : Char) : Text.isBlank (braceOf c) = Text.isBlank c := by
  by_cases less : c = '<'
  · rw [less]
    decide
  · by_cases greater : c = '>'
    · rw [greater]
      decide
    · rw [braceOf_of_ne less greater]

theorem mem_braced_iff {c : Char} (plain : c ∉ ['<', '>', '\x7b', '\x7d']) (t : Text) :
    c ∈ braced t ↔ c ∈ t := by
  rw [braced, List.mem_map]
  constructor
  · rintro ⟨d, member, same⟩
    rwa [← (braceOf_eq_iff plain).1 same]
  · intro member
    exact ⟨c, member, (braceOf_eq_iff plain).2 rfl⟩

theorem braced_append (s t : Text) : braced (s ++ t) = braced s ++ braced t :=
  List.map_append

theorem braced_cons (c : Char) (t : Text) : braced (c :: t) = braceOf c :: braced t := rfl

theorem braced_eq_self {t : Text} (less : '<' ∉ t) (greater : '>' ∉ t) : braced t = t := by
  refine (List.map_congr_left fun c member => ?_).trans (List.map_id t)
  refine braceOf_of_ne ?_ ?_
  · rintro rfl
    exact less member
  · rintro rfl
    exact greater member

theorem braced_join (parts : List Text) :
    braced (Text.join [','] parts) = Text.join [','] (parts.map braced) := by
  induction parts with
  | nil => rfl
  | cons first rest ih =>
    cases rest with
    | nil => rfl
    | cons second rest =>
      rw [Text.join_cons_cons, braced_append, braced_append, ih]
      rfl

/-! ### Cuts and depths -/

section Cuts

theorem dropTail_braced {p : Char → Bool} (same : ∀ c, p (braceOf c) = p c) (t : Text) :
    Text.dropTail p (braced t) = braced (Text.dropTail p t) := by
  have classes : p ∘ braceOf = p := funext same
  rw [Text.dropTail, braced, ← List.map_reverse, List.dropWhile_map, classes, ← List.map_reverse]
  rfl

theorem trimStart_braced (t : Text) : Text.trimStart (braced t) = braced (Text.trimStart t) := by
  have classes : Text.isBlank ∘ braceOf = Text.isBlank := funext isBlank_braceOf
  rw [Text.trimStart, braced, List.dropWhile_map, classes]
  rfl

theorem trim_braced (t : Text) : Text.trim (braced t) = braced (Text.trim t) := by
  rw [Text.trim, trimStart_braced, Text.trimEnd, dropTail_braced isBlank_braceOf]
  rfl

/-- What stands in type arguments is dropped, and braces enclose them like angle brackets. -/
theorem dropArguments_braced (t : Text) : dropArguments (braced t) = dropArguments t := by
  unfold dropArguments
  generalize (0 : Int) = depth
  induction t generalizing depth with
  | nil => rfl
  | cons c rest ih =>
    by_cases less : c = '<'
    · subst less
      exact ih (depth + 1)
    · by_cases greater : c = '>'
      · subst greater
        exact ih (depth - 1)
      · have own : braced (c :: rest) = c :: braced rest := by
          rw [braced_cons, braceOf_of_ne less greater]
        rw [own]
        simp only [dropArgumentsFrom, ih]

theorem depthAfter_braced (depth : Int) (t : Text) :
    depthAfter depth (braced t) = depthAfter depth t := by
  induction t generalizing depth with
  | nil => rfl
  | cons c rest ih =>
    rw [braced_cons, depthAfter, nesting_braceOf, ih, depthAfter]

theorem cutAtDepth_braced (depth : Int) (t : Text) :
    cutAtDepth (· == ',') depth (braced t) = (cutAtDepth (· == ',') depth t).map braced := by
  induction t generalizing depth with
  | nil => rfl
  | cons c rest ih =>
    have comma : (braceOf c == ',') = (c == ',') := by
      rw [Bool.eq_iff_iff, beq_iff_eq, beq_iff_eq]
      exact braceOf_eq_iff (by decide)
    rw [braced_cons]
    simp only [cutAtDepth, nesting_braceOf, comma, ih]
    split
    · rfl
    · cases cutAtDepth (· == ',') (depth + nesting c) rest <;> rfl

theorem Whole.braced {least : Int} {t : Text} (whole : Whole least t) :
    Whole least (braced t) := by
  intro depth above
  obtain ⟨back, uncut⟩ := whole depth above
  refine ⟨?_, ?_⟩
  · rw [depthAfter_braced, back]
  · rw [cutAtDepth_braced, uncut]
    rfl

/-- Texts that are joined by commas are known from the joined text, if each is in one piece. -/
theorem join_map_eq_iff {α : Type} {items : List α} {f g : α → Text}
    (whole : ∀ item ∈ items, Whole 0 (f item)) (whole' : ∀ item ∈ items, Whole 0 (g item)) :
    Text.join [','] (items.map f) = Text.join [','] (items.map g) ↔
      ∀ item ∈ items, f item = g item := by
  constructor
  · intro same
    cases items with
    | nil => simp
    | cons first rest =>
      have cut : ∀ h : α → Text, (∀ item ∈ first :: rest, Whole 0 (h item)) →
          cutAtDepth (· == ',') 0 (Text.join [','] ((first :: rest).map h)) =
            (first :: rest).map h := by
        intro h all
        apply cutAtDepth_join (by simp)
        intro part member
        obtain ⟨item, belongs, rfl⟩ := List.mem_map.1 member
        exact all item belongs 0 (Int.le_refl 0)
      have parts : (first :: rest).map f = (first :: rest).map g := by
        rw [← cut f whole, same, cut g whole']
      exact List.map_inj_left.1 parts
  · intro each
    rw [List.map_congr_left each]

end Cuts

/-! ### Types without spaces -/

theorem flatten_separated (rows : List (List Text)) :
    (Text.separated rows).flatten = Text.join [','] (rows.map List.flatten) := by
  induction rows with
  | nil => rfl
  | cons row rows ih =>
    cases rows with
    | nil =>
      rw [Text.separated, List.intercalate_singleton]
      rfl
    | cons second rows =>
      rw [Text.separated, List.intercalate_cons_cons, List.flatten_append, List.flatten_append]
      change _ ++ (Text.separated (second :: rows)).flatten = _
      rw [ih]
      rfl

/-- Tokens that are written without a space are written one after the other. -/
theorem eq_flatten_of_spaced {tokens : List Text} {s : Text} (spaced : Text.Spaced tokens s)
    (compact : ' ' ∉ s) : s = tokens.flatten := by
  have nothing : ∀ {gap : Text}, Text.IsSpaces gap → ' ' ∉ gap → gap = [] := by
    intro gap spaces absent
    rw [List.eq_nil_iff_forall_not_mem]
    intro c member
    exact absent (spaces c member ▸ member)
  induction spaced with
  | nil spaces => exact nothing spaces compact
  | cons spaces behind ih =>
    simp only [List.mem_append, not_or] at compact
    rw [nothing spaces compact.1.1, ih compact.2]
    rfl

theorem spaced_flatten (tokens : List Text) : Text.Spaced tokens tokens.flatten := by
  have nothing : Text.IsSpaces [] := by simp [Text.IsSpaces]
  induction tokens with
  | nil => exact .nil nothing
  | cons token tokens ih => exact .cons nothing ih

namespace SimpleType

/-- A type as it is written without spaces. -/
def compact (t : SimpleType) : Text :=
  t.tokens.flatten

theorem compact_generic (name : TypePath) (arguments : List SimpleType) :
    (generic name arguments).compact =
      name.text ++ '<' :: Text.join [','] (arguments.map compact) ++ ['>'] := by
  have inner : (Text.separated (arguments.map tokens)).flatten =
      Text.join [','] (arguments.map compact) := by
    rw [flatten_separated, List.map_map]
    rfl
  simp [compact, tokens, tokensOfAll_eq_map, inner]

theorem compact_array (inner : SimpleType) (commas : Nat) :
    (array inner commas).compact = inner.compact ++ '[' :: List.replicate commas ',' ++ [']'] := by
  simp [compact, tokens, List.flatten_replicate_singleton]

mutual

/-- Types that documentation IDs name as they are written: no keyword and no annotation is in
them. -/
def isOwnName : SimpleType → Bool
  | .keyword _ _ _ => false
  | .path _ _ => true
  | .generic _ arguments => areOwnNames arguments
  | .nullable _ => false
  | .array inner _ => inner.isOwnName

def areOwnNames : List SimpleType → Bool
  | [] => true
  | t :: ts => t.isOwnName && areOwnNames ts

end

theorem areOwnNames_iff (ts : List SimpleType) :
    areOwnNames ts = true ↔ ∀ t ∈ ts, t.isOwnName = true := by
  induction ts with
  | nil => simp [areOwnNames]
  | cons t ts ih => rw [areOwnNames, Bool.and_eq_true, ih, List.forall_mem_cons]

/-- Types whose type arguments, if there are any, are named as they are written. -/
def hasOwnArguments : SimpleType → Bool
  | .keyword _ _ _ => true
  | .path _ _ => true
  | .generic _ arguments => areOwnNames arguments
  | .nullable inner => inner.hasOwnArguments
  | .array inner _ => inner.hasOwnArguments

/-- Marks that types are written with or next to, but not named with. -/
def unnamedMarks : Text :=
  ['?', '(', ')']

/-- Names of types hold neither white space, question marks nor parentheses. -/
theorem documentationName_avoids (t : SimpleType) :
    Text.Avoids unnamedMarks t.documentationName := by
  have opening : Text.Avoids unnamedMarks ['\x7b'] := by decide
  have closing : Text.Avoids unnamedMarks ['\x7d'] := by decide
  induction t with
  | keyword word system known =>
    have table : ∀ entry ∈ keywordTypes, Text.Avoids unnamedMarks entry.2 := by decide +kernel
    exact table (word, system) (mem_of_lookup known)
  | path name other => exact name.plain.mono (by decide)
  | generic name arguments ih =>
    have own : Text.Avoids unnamedMarks name.text := name.plain.mono (by decide)
    have inner : Text.Avoids unnamedMarks (Text.join [','] (arguments.map documentationName)) := by
      refine Text.Avoids.join (by decide) fun part member => ?_
      obtain ⟨t, listed, rfl⟩ := List.mem_map.1 member
      exact ih t listed
    rw [documentationName, documentationNames_eq_map]
    exact ((own.append opening).append inner).append closing
  | nullable inner ih =>
    have system : Text.Avoids unnamedMarks "System.Nullable".toList := by decide
    rw [documentationName]
    split
    · exact ((system.append opening).append ih).append closing
    · exact ih
  | array inner commas ih =>
    have rank : Text.Avoids unnamedMarks (List.replicate commas ',') := by
      intro c member
      rw [List.eq_of_mem_replicate member]
      decide
    exact ((ih.append (by decide)).append rank).append (by decide)

theorem whole_compact (t : SimpleType) : Whole 0 t.compact :=
  (t.names_of_spelled _ (spaced_flatten t.tokens)).whole

theorem keyword_ne_system {word system : Text} (known : systemName? word = some system) :
    word ≠ system := by
  have table : ∀ entry ∈ keywordTypes, entry.1 ≠ entry.2 := by decide +kernel
  exact table (word, system) (mem_of_lookup known)

/-- In braces a type is written as documentation IDs name it exactly if it has an own name. -/
theorem braced_compact_iff (t : SimpleType) :
    braced t.compact = t.documentationName ↔ t.isOwnName = true := by
  induction t with
  | keyword word system known =>
    have plain := keyword_avoids known
    have same : braced (keyword word system known).compact = word := by
      have single : (keyword word system known).compact = word := by simp [compact, tokens]
      rw [single, braced_eq_self (plain.not_mem (by decide)) (plain.not_mem (by decide))]
    rw [same, documentationName, isOwnName]
    simpa using keyword_ne_system known
  | path name other =>
    have same : braced (path name other).compact = name.text := by
      have single : (path name other).compact = name.text := by simp [compact, tokens]
      rw [single, braced_eq_self (name.plain.not_mem (by decide)) (name.plain.not_mem (by decide))]
    rw [same, documentationName, isOwnName]
    simp
  | generic name arguments ih =>
    have front : braced name.text = name.text :=
      braced_eq_self (name.plain.not_mem (by decide)) (name.plain.not_mem (by decide))
    have whole : braced (generic name arguments).compact =
        name.text ++ ['\x7b'] ++ Text.join [','] (arguments.map fun t => braced t.compact) ++
          ['\x7d'] := by
      rw [compact_generic, braced_append, braced_append, braced_cons, front, braced_join,
        List.map_map, List.append_cons]
      rfl
    rw [whole, documentationName, documentationNames_eq_map, isOwnName, areOwnNames_iff,
      List.append_left_inj, List.append_right_inj,
      join_map_eq_iff (fun t _ => t.whole_compact.braced) fun t _ => t.whole_documentationName]
    exact forall₂_congr ih
  | nullable inner ih =>
    have mark : '?' ∈ braced (nullable inner).compact := by
      rw [mem_braced_iff (by decide)]
      simp [compact, tokens]
    rw [isOwnName]
    refine ⟨fun same => ?_, fun own => by cases own⟩
    rw [same] at mark
    exact absurd mark ((nullable inner).documentationName_avoids.not_mem (by decide))
  | array inner commas ih =>
    have rank : braced (List.replicate commas ',') = List.replicate commas ',' :=
      List.map_replicate
    have whole : braced (array inner commas).compact =
        braced inner.compact ++ ['['] ++ List.replicate commas ',' ++ [']'] := by
      rw [compact_array, braced_append, braced_append, braced_cons, rank, List.append_cons]
      rfl
    rw [whole, documentationName, isOwnName, List.append_left_inj, List.append_left_inj,
      List.append_left_inj, ih]

end SimpleType

/-! ### Types with spaces -/

/-- What stands up to the last angle bracket, from the first visible character on. -/
def argumentPart (s : Text) : Text :=
  Text.trimStart (Text.dropTail (· != '>') s)

theorem dropTail_append_gone {p : Char → Bool} {t : Text} (gone : ∀ c ∈ t, p c = true)
    (s : Text) : Text.dropTail p (s ++ t) = Text.dropTail p s := by
  have reversed : ∀ c ∈ t.reverse, p c = true := fun c member => gone c (List.mem_reverse.1 member)
  rw [Text.dropTail, List.reverse_append, List.dropWhile_append_of_pos reversed]
  rfl

theorem argumentPart_append {t : Text} (absent : '>' ∉ t) (s : Text) :
    argumentPart (s ++ t) = argumentPart s := by
  rw [argumentPart, dropTail_append_gone (Text.bne_of_not_mem absent)]
  rfl

theorem argumentPart_of_not_mem {s : Text} (absent : '>' ∉ s) : argumentPart s = [] :=
  argumentPart_append absent []

theorem argumentPart_generic {front inside gap : Text} (spaces : Text.IsSpaces gap) :
    argumentPart (front ++ '<' :: inside ++ '>' :: gap) =
      Text.trimStart front ++ '<' :: inside ++ ['>'] := by
  have absent : '>' ∉ gap := fun member => by cases spaces _ member
  have whole : front ++ '<' :: inside ++ '>' :: gap = front ++ '<' :: inside ++ ['>'] ++ gap := by
    simp
  rw [whole, argumentPart_append absent, argumentPart,
    Text.dropTail_append_kept (by decide) (front ++ '<' :: inside) []]
  simp only [List.append_assoc, List.cons_append]
  exact Text.trimStart_append_solid (by decide) front _

/-- A text with a character that no keyword type has is none. -/
theorem systemName?_of_mem {s : Text} {c : Char} (member : c ∈ s)
    (foreign : ∀ entry ∈ keywordTypes, c ∉ entry.1) : systemName? s = none := by
  cases known : systemName? s with
  | none => rfl
  | some system => exact absurd member (foreign (s, system) (mem_of_lookup known))

/-- A text that ends like no annotated, array or generic type is its own name unless it is a
keyword. -/
theorem typeName_of_last {s : Text} {c : Char} (trimmed : Text.trim s = s)
    (last : s.getLast? = some c) (plain : c ∉ ['?', ']', '>']) (other : systemName? s = none) :
    typeName s = s := by
  have ends : ∀ mark ∈ ['?', ']', '>'], s.getLast? ≠ some mark := by
    intro mark listed same
    rw [last, Option.some_inj] at same
    exact plain (same ▸ listed)
  rw [typeName, trimmed, dif_neg (ends _ (by decide)), dif_neg fun h => ends _ (by decide) h.1,
    dif_neg fun h => ends _ (by decide) h.1, other]
  rfl

/-- A type that ends in a brace is taken over as it is written. -/
theorem typeName_of_brace {gap : Text} (blank : Text.IsGap gap) (front : Text) :
    typeName (front ++ '\x7d' :: gap) = Text.trimStart front ++ ['\x7d'] := by
  have trimmed := Text.trim_append_solid (c := '\x7d') (by decide) blank front
  rw [← typeName_trim, trimmed]
  refine typeName_of_last ?_ List.getLast?_concat (by decide) ?_
  · rw [← trimmed, Text.trim_trim]
  · exact @systemName?_of_mem _ '\x7d' (by simp) (by decide +kernel)

theorem isValueKeyword_braced (t : Text) : isValueKeyword (braced t) = isValueKeyword t := by
  by_cases less : '<' ∈ t
  · have brace : '\x7b' ∈ braced t := List.mem_map.2 ⟨'<', less, rfl⟩
    rw [isValueKeyword_of_mark brace (by decide), isValueKeyword_of_mark less (by decide)]
  · by_cases greater : '>' ∈ t
    · have brace : '\x7d' ∈ braced t := List.mem_map.2 ⟨'>', greater, rfl⟩
      rw [isValueKeyword_of_mark brace (by decide), isValueKeyword_of_mark greater (by decide)]
    · rw [braced_eq_self less greater]

section Spelled

variable {s front inside gap : Text}

theorem braced_of_spaces (spaces : Text.IsSpaces gap) : braced gap = gap := by
  refine braced_eq_self ?_ ?_
  · intro member
    cases spaces _ member
  · intro member
    cases spaces _ member

/-- A word with spaces around it holds no bracket. -/
theorem not_mem_of_word {word : Text} {c : Char} (plain : Text.Avoids typeMarks word)
    (spaced : Text.Spaced [word] s) (mark : c ∈ typeMarks) : c ∉ s := by
  intro member
  rcases spaced.mem member with rfl | ⟨token, only, own⟩
  · exact absurd mark (by decide)
  · rw [List.mem_singleton.1 only] at own
    exact plain.not_mem mark own

theorem braced_word {word : Text} (plain : Text.Avoids typeMarks word)
    (spaced : Text.Spaced [word] s) : braced s = s ∧ argumentPart s = [] := by
  have greater : '>' ∉ s := not_mem_of_word plain spaced (by decide)
  exact ⟨braced_eq_self (not_mem_of_word plain spaced (by decide)) greater,
    argumentPart_of_not_mem greater⟩

theorem typeName_braced_generic (path : TypePath) (spaces : Text.IsSpaces gap)
    (own : Text.Spaced [path.text] front) :
    typeName (braced (front ++ '<' :: inside ++ '>' :: gap)) =
      Text.trimStart front ++ '\x7b' :: braced inside ++ ['\x7d'] := by
  have plain := (braced_word path.plain own).1
  have whole : braced (front ++ '<' :: inside ++ '>' :: gap) =
      (front ++ '\x7b' :: braced inside) ++ '\x7d' :: gap := by
    rw [braced_append, braced_append, braced_cons, braced_cons, plain, braced_of_spaces spaces]
    rfl
  rw [whole, typeName_of_brace spaces.isGap, Text.trimStart_append_solid (by decide)]

theorem typeName_braced_annotated (spaces : Text.IsSpaces gap) (front : Text) :
    typeName (braced (front ++ '?' :: gap)) =
      if isValueKeyword (Text.trim front) then
        "System.Nullable".toList ++ ['\x7b'] ++ typeName (braced front) ++ ['\x7d']
      else typeName (braced front) := by
  have whole : braced (front ++ '?' :: gap) = braced front ++ '?' :: gap := by
    rw [braced_append, braced_cons, braced_of_spaces spaces]
    rfl
  rw [whole, typeName_annotated spaces.isGap, trim_braced, isValueKeyword_braced]

theorem not_mem_rank {rank : Text} {commas : Nat} {c : Char}
    (spaced : Text.Spaced (List.replicate commas [',']) rank) (space : c ≠ ' ') (comma : c ≠ ',') :
    c ∉ rank := by
  intro member
  rcases (rank_of_spaced spaced).1 c member with same | same
  · exact space same
  · exact comma same

theorem typeName_braced_array {rank : Text} {commas : Nat} (spaces : Text.IsSpaces gap)
    (spaced : Text.Spaced (List.replicate commas [',']) rank) (front : Text) :
    typeName (braced (front ++ '[' :: rank ++ ']' :: gap)) =
      typeName (braced front) ++ ['['] ++ rank.filter (· != ' ') ++ [']'] := by
  have kept : braced rank = rank :=
    braced_eq_self (not_mem_rank spaced (by decide) (by decide))
      (not_mem_rank spaced (by decide) (by decide))
  have whole : braced (front ++ '[' :: rank ++ ']' :: gap) =
      braced front ++ '[' :: rank ++ ']' :: gap := by
    rw [braced_append, braced_append, braced_cons, braced_cons, kept, braced_of_spaces spaces]
    rfl
  rw [whole, typeName_array spaces.isGap (not_mem_rank spaced (by decide) (by decide))]

theorem exists_trimStart_path (path : TypePath) (own : Text.Spaced [path.text] front) :
    ∃ behind, Text.IsSpaces behind ∧ Text.trimStart front = path.text ++ behind := by
  obtain ⟨before, behind, spaces, spaces', rfl⟩ := own.exists_gaps
  refine ⟨behind, spaces', ?_⟩
  rw [List.append_assoc, Text.trimStart_gap_append spaces.isGap]
  obtain ⟨text, nonempty, plain⟩ := path
  cases text with
  | nil => exact absurd rfl nonempty
  | cons c rest => exact List.dropWhile_cons_of_neg (by simp [(plain c List.mem_cons_self).1])

/-- A path stands alone before its arguments exactly if no space is between them. -/
theorem trimStart_path_iff (path : TypePath) (own : Text.Spaced [path.text] front) :
    Text.trimStart front = path.text ↔ ' ' ∉ Text.trimStart front := by
  obtain ⟨behind, spaces, start⟩ := exists_trimStart_path path own
  have solid : ' ' ∉ path.text := fun member => by cases (path.plain ' ' member).1
  rw [start]
  constructor
  · intro same
    rw [same]
    exact solid
  · intro absent
    have nothing : behind = [] := by
      rw [List.eq_nil_iff_forall_not_mem]
      intro c member
      exact absent (List.mem_append_right _ (spaces c member ▸ member))
    rw [nothing, List.append_nil]

/-- Arguments in braces are those of the documentation ID exactly if they are written without
spaces and have own names. -/
theorem braced_arguments_iff {arguments : List SimpleType}
    (spaced : Text.Spaced (Text.separated (arguments.map SimpleType.tokens)) inside) :
    braced inside = Text.join [','] (arguments.map SimpleType.documentationName) ↔
      ' ' ∉ inside ∧ ∀ t ∈ arguments, t.isOwnName = true := by
  have written : ' ' ∉ inside → braced inside =
      Text.join [','] (arguments.map fun t => braced t.compact) := by
    intro absent
    rw [eq_flatten_of_spaced spaced absent, flatten_separated, braced_join, List.map_map,
      List.map_map]
    rfl
  have named : (∀ t ∈ arguments, t.isOwnName = true) ↔
      Text.join [','] (arguments.map fun t => braced t.compact) =
        Text.join [','] (arguments.map SimpleType.documentationName) := by
    rw [join_map_eq_iff (fun t _ => t.whole_compact.braced) fun t _ => t.whole_documentationName]
    exact forall₂_congr fun t _ => t.braced_compact_iff.symm
  have compact : braced inside = Text.join [','] (arguments.map SimpleType.documentationName) →
      ' ' ∉ inside := by
    intro same member
    rw [← mem_braced_iff (by decide), same] at member
    exact Text.not_mem_join_map (by decide)
      (fun t _ inside => by cases (t.documentationName_avoids ' ' inside).1) member
  constructor
  · intro same
    exact ⟨compact same, named.2 ((written (compact same)).symm.trans same)⟩
  · rintro ⟨absent, own⟩
    exact (written absent).trans (named.1 own)

end Spelled

namespace SimpleType

/-- A type is written like its documentation ID as far as its type arguments reach: they have own
names, and no space is in or before them. -/
def WrittenAsNamed (t : SimpleType) (s : Text) : Prop :=
  t.hasOwnArguments = true ∧ ' ' ∉ argumentPart s

/-- A type with braces for angle brackets has the same name exactly if its type arguments are
written as documentation IDs have them. -/
theorem typeName_braced_iff (t : SimpleType) {s : Text} (spelled : t.Spelled s) :
    typeName (braced s) = typeName s ↔ t.WrittenAsNamed s := by
  induction t generalizing s with
  | keyword word system known =>
    obtain ⟨same, nothing⟩ := braced_word (keyword_avoids known) spelled
    simp [same, WrittenAsNamed, hasOwnArguments, nothing]
  | path name other =>
    obtain ⟨same, nothing⟩ := braced_word name.plain spelled
    simp [same, WrittenAsNamed, hasOwnArguments, nothing]
  | generic name arguments =>
    have named := (names_of_spelled _ s spelled).named
    obtain ⟨front, inside, gap, spaces, own, others, rfl⟩ := spelled.of_generic
    rw [named, typeName_braced_generic name spaces own, documentationName, documentationNames_eq_map,
      WrittenAsNamed, hasOwnArguments, areOwnNames_iff, argumentPart_generic spaces]
    have brace : '\x7b' ∉ Text.trimStart front := fun member =>
      not_mem_of_word name.plain own (by decide) ((List.dropWhile_sublist _).mem member)
    have apart : Text.trimStart front ++ '\x7b' :: braced inside ++ ['\x7d'] =
        name.text ++ ['\x7b'] ++ Text.join [','] (arguments.map documentationName) ++ ['\x7d'] ↔
        Text.trimStart front = name.text ∧
          braced inside = Text.join [','] (arguments.map documentationName) := by
      rw [List.append_left_inj, List.append_assoc, List.singleton_append]
      constructor
      · intro same
        obtain ⟨paths, -, inner⟩ := Text.run_inj (Text.bne_of_not_mem brace) (by simp)
          (Text.bne_of_not_mem (name.plain.not_mem (by decide))) (by simp) same
        exact ⟨paths, inner⟩
      · rintro ⟨paths, inner⟩
        rw [paths, inner]
    rw [apart, trimStart_path_iff name own, braced_arguments_iff others]
    simp only [List.mem_append, List.mem_cons, List.not_mem_nil, or_false, not_or]
    constructor
    · rintro ⟨before, within, named⟩
      exact ⟨named, ⟨before, by decide, within⟩, by decide⟩
    · rintro ⟨named, ⟨before, -, within⟩, -⟩
      exact ⟨before, within, named⟩
  | nullable inner ih =>
    obtain ⟨front, gap, spaces, own, rfl⟩ := spelled.of_nullable
    have part : argumentPart (front ++ '?' :: gap) = argumentPart front := by
      refine argumentPart_append ?_ front
      rw [List.mem_cons, not_or]
      exact ⟨by decide, fun member => by cases spaces _ member⟩
    have inner := ih own
    rw [WrittenAsNamed, part, typeName_braced_annotated spaces, typeName_annotated spaces.isGap]
    split
    · rw [List.append_left_inj, List.append_right_inj]
      exact inner
    · exact inner
  | array inner commas ih =>
    obtain ⟨front, rank, gap, spaces, own, others, rfl⟩ := spelled.of_array
    have part : argumentPart (front ++ '[' :: rank ++ ']' :: gap) = argumentPart front := by
      have inGap : '>' ∉ gap := fun member => by cases spaces _ member
      have inRank : '>' ∉ rank := not_mem_rank others (by decide) (by decide)
      rw [List.append_assoc]
      exact argumentPart_append (by simp [inGap, inRank]) front
    rw [WrittenAsNamed, part, typeName_braced_array spaces others,
      typeName_array spaces.isGap (not_mem_rank others (by decide) (by decide)),
      List.append_left_inj, List.append_left_inj, List.append_left_inj]
    exact ih own

/-- The name that a type in braces is given is in one piece. -/
theorem whole_typeName_braced (t : SimpleType) {s : Text} (spelled : t.Spelled s) :
    Whole 0 (typeName (braced s)) := by
  have brace : ∀ {inner : Text}, Whole 1 inner → Whole 0 ('\x7b' :: inner ++ ['\x7d']) :=
    fun inside => Whole.enclosed (by decide) (by decide) inside
  induction t generalizing s with
  | keyword word system known =>
    rw [(braced_word (keyword_avoids known) spelled).1, (names_of_spelled _ s spelled).named]
    exact whole_documentationName _
  | path name other =>
    rw [(braced_word name.plain spelled).1, (names_of_spelled _ s spelled).named]
    exact whole_documentationName _
  | generic name arguments =>
    obtain ⟨front, inside, gap, spaces, own, others, rfl⟩ := spelled.of_generic
    rw [typeName_braced_generic name spaces own, List.append_assoc]
    have start : Whole 0 (Text.trimStart front) := by
      obtain ⟨behind, spaces', same⟩ := exists_trimStart_path name own
      rw [same]
      exact whole_of_word name.plain ((Text.Spaced.single name.text).append_gap spaces')
    have inner : Whole 1 (braced inside) :=
      (whole_separated others fun t _ => t.names_of_spelled).braced
    exact start.append (brace inner)
  | nullable inner ih =>
    obtain ⟨front, gap, spaces, own, rfl⟩ := spelled.of_nullable
    rw [typeName_braced_annotated spaces]
    split
    · have front : Whole 0 "System.Nullable".toList := whole_of_systemCharacters (by decide)
      simpa using front.append (brace ((ih own).mono (by decide)))
    · exact ih own
  | array inner commas ih =>
    obtain ⟨front, rank, gap, spaces, own, others, rfl⟩ := spelled.of_array
    have flat : ∀ c ∈ rank.filter (· != ' '), nesting c = 0 := by
      intro c member
      rcases (rank_of_spaced others).1 c (List.mem_filter.1 member).1 with rfl | rfl <;> decide
    have bracket : Whole 0 ('[' :: rank.filter (· != ' ') ++ [']']) :=
      Whole.enclosed (by decide) (by decide) (Whole.of_flat flat)
    rw [typeName_braced_array spaces others]
    simpa using (ih own).append bracket

end SimpleType

end DocReport.Symbol

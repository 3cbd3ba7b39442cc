import DocReport.Proofs.Markup.Merging
import DocReport.Proofs.Markup.Splice

/-!
Writing markup. Characters that have a meaning in markup, and those that are read as others, are
written as references; everything else stands for itself. Each part of what is written is read back
in front of anything that may follow it: characters as their references or themselves, values up to
their quotes, tags up to their ends.
-/
namespace DocReport.Markup

/-- How a reference to a character is written: by name where it has one, or by number. -/
inductive ReferenceForm where
  | named | decimal | hexadecimal
  deriving DecidableEq, Repr

/-- What markup leaves to a writer: the form of each reference, the quotes around values, and
whether an element without content is one tag or two. -/
structure Style where
  form : Char → ReferenceForm := fun _ => .named
  singleQuotes : Bool := false
  shortEmpty : Bool := false

/-- How a tag ends: an element that is `closed` at once has no other tag. -/
def tagEnd (closed : Bool) : Text :=
  if closed then ['/', '>'] else ['>']

/-- Characters of text that are written as references. -/
def textMarks : List Char := ['&', '<', '>', '"', '\'', '\r']

/-- Characters of values that are written as references. White space other than the space itself
would be read as a space. -/
def valueMarks : List Char := textMarks ++ ['\t', '\n']

namespace Style

variable (style : Style)

/-- The quote around values. -/
def quote : Char :=
  if style.singleQuotes then '\'' else '"'

/-- What stands between the ampersand and the semicolon of a reference to a character. -/
def target (c : Char) : Text :=
  match style.form c, entities.find? (·.2 == c) with
  | .named, some (name, _) => name
  | .hexadecimal, _ => '#' :: 'x' :: Nat.toDigits 16 c.toNat
  | _, _ => '#' :: Nat.toDigits 10 c.toNat

/-- A character where `marks` are written as references. -/
def character (marks : List Char) (c : Char) : Text :=
  if c ∈ marks then '&' :: (style.target c ++ [';']) else [c]

/-- A text where `marks` are written as references. -/
def characters (marks : List Char) (t : Text) : Text :=
  t.flatMap (style.character marks)

/-- An attribute. -/
def attributeText (a : Attribute) : Text :=
  attributeStart a.name [] [] style.quote (style.characters valueMarks a.value ++ [style.quote])

/-- Attributes, with a space before each. -/
def attributesText (attributes : List Attribute) : Text :=
  attributes.flatMap fun a => ' ' :: style.attributeText a

/-- A start tag. -/
def startTag (tag : Text) (attributes : List Attribute) (closed : Bool) : Text :=
  '<' :: (tag ++ (style.attributesText attributes ++ tagEnd closed))

mutual

/-- A node as markup. -/
def node : Node → Text
  | .text value => style.characters textMarks value
  | .element tag attributes content =>
    if style.shortEmpty && content.isEmpty then style.startTag tag attributes true
    else style.startTag tag attributes false ++ (nodes content ++ '<' :: '/' :: (tag ++ ['>']))

/-- Nodes as markup, one after the other. -/
def nodes : List Node → Text
  | [] => []
  | first :: rest => node first ++ nodes rest

end

theorem isQuote_quote : isQuote style.quote = true := by
  unfold quote
  split <;> rfl

theorem characters_cons (marks : List Char) (c : Char) (t rest : Text) :
    style.characters marks (c :: t) ++ rest =
      style.character marks c ++ (style.characters marks t ++ rest) := by
  simp [characters]

theorem character_mark {marks : List Char} {c : Char} (mark : c ∈ marks) (rest : Text) :
    style.character marks c ++ rest = '&' :: (style.target c ++ ';' :: rest) := by
  simp [character, mark]

theorem character_plain {marks : List Char} {c : Char} (plain : c ∉ marks) (rest : Text) :
    style.character marks c ++ rest = c :: rest := by
  simp [character, plain]

end Style

/-- Whether a text holds characters of XML only. -/
def isLegal (t : Text) : Bool :=
  t.all fun c => !isForbidden c

/-- Whether a text is a name without a short name in front. -/
def isPlainName : Text → Bool
  | [] => false
  | c :: r => isNameStart c && r.all isNameCharacter

theorem isPlainName_iff {name : Text} :
    isPlainName name = true ↔ ∃ c r, name = c :: r ∧ isNameStart c = true ∧
      ∀ d ∈ r, isNameCharacter d = true := by
  cases name with
  | nil => simp [isPlainName]
  | cons c r => simp [isPlainName]

/-- Whether an attribute can be written: it is no declaration. -/
def Attribute.isPlain (a : Attribute) : Bool :=
  isPlainName a.name && a.name != ['x', 'm', 'l', 'n', 's'] && isLegal a.value

/-! ### References -/

theorem digitsValue_concat (base : Nat) (digits : Text) (c : Char) :
    digitsValue base (digits ++ [c]) = digitsValue base digits * base + digitValue c := by
  simp [digitsValue]

theorem digit_of_lt : ∀ d < 16, digitValue (Nat.digitChar d) = d ∧
    isHexDigit (Nat.digitChar d) = true := by
  decide

/-- The digits of a number are read back in any base up to sixteen. -/
theorem digitsValue_toDigits {base : Nat} (two : 1 < base) (sixteen : base ≤ 16) (n : Nat) :
    digitsValue base (Nat.toDigits base n) = n := by
  induction n using Nat.strongRecOn with
  | ind n ih =>
    rw [Nat.toDigits_eq_if two]
    split
    · rename_i small
      simpa [digitsValue] using (digit_of_lt n (by omega)).1
    · rename_i large
      have below : n / base < n := Nat.div_lt_self (by omega) two
      have last : n % base < 16 := Nat.lt_of_lt_of_le (Nat.mod_lt n (by omega)) sixteen
      rw [digitsValue_concat, ih _ below, (digit_of_lt _ last).1]
      exact Nat.div_add_mod' n base

theorem isHexDigit_of_mem_toDigits {n : Nat} {c : Char} (member : c ∈ Nat.toDigits 16 n) :
    isHexDigit c = true := by
  induction n using Nat.strongRecOn with
  | ind n ih =>
    rw [Nat.toDigits_eq_if (by decide)] at member
    split at member
    · rename_i small
      rw [List.mem_singleton.1 member]
      exact (digit_of_lt n small).2
    · rename_i large
      rcases List.mem_append.1 member with front | last
      · exact ih (n / 16) (by omega) front
      · rw [List.mem_singleton.1 last]
        exact (digit_of_lt _ (Nat.mod_lt n (by decide))).2

theorem isCharacterNumber_toNat {c : Char} (legal : isForbidden c = false) :
    isCharacterNumber c.toNat = true := by
  have valid : c.toNat < 0xD800 ∨ 0xDFFF < c.toNat ∧ c.toNat < 0x110000 := c.valid
  simp only [isCharacterNumber, Char.ofNat_toNat, legal, Bool.not_false, Bool.and_true,
    Bool.and_eq_true, Bool.not_eq_true', Bool.and_eq_false_iff, decide_eq_true_eq,
    decide_eq_false_iff_not]
  omega

theorem character_number {c : Char} (legal : isForbidden c = false) :
    (Reference.number c.toNat).character = .ok c := by
  rw [Reference.character, if_pos (isCharacterNumber_toNat legal), Char.ofNat_toNat]

/-- The named characters are read back by their names. -/
theorem readReference_named {entry : Text × Char} (member : entry ∈ entities) (here rest : Text) :
    readReference here (entry.1 ++ ';' :: rest) = .ok (.entity entry.1, rest) ∧
      (Reference.entity entry.1).character = .ok entry.2 := by
  have named : entities.all (fun e => isPlainName e.1) = true := by decide
  have known : entities.all (fun e => entities.lookup e.1 == some e.2) = true := by decide
  obtain ⟨c, r, name, start, inside⟩ := isPlainName_iff.1 (List.all_eq_true.1 named entry member)
  have found : entities.lookup entry.1 = some entry.2 :=
    beq_iff_eq.1 (List.all_eq_true.1 known entry member)
  refine ⟨?_, by rw [Reference.character, found]⟩
  rw [name]
  exact readReference_entity start inside here rest

theorem readNumber_toDigits {isDigit : Char → Bool} {base n : Nat} (stop : isDigit ';' = false)
    (two : 1 < base) (sixteen : base ≤ 16)
    (digits : ∀ d ∈ Nat.toDigits base n, isDigit d = true) (here rest : Text) :
    readNumber here isDigit base (Nat.toDigits base n ++ ';' :: rest) = .ok (.number n, rest) := by
  rw [readNumber_digits stop Nat.toDigits_ne_nil digits, digitsValue_toDigits two sixteen]

/-- A reference to a character is read back in whichever form it is written. -/
theorem readReference_target (style : Style) {c : Char} (legal : isForbidden c = false)
    (here rest : Text) :
    ∃ reference, readReference here (style.target c ++ ';' :: rest) = .ok (reference, rest) ∧
      reference.character = .ok c := by
  unfold Style.target
  split
  · rename_i name mark _ found
    have member := List.mem_of_find?_eq_some found
    obtain rfl : mark = c := by simpa using List.find?_some found
    exact ⟨_, readReference_named member here rest⟩
  · exact ⟨.number c.toNat, readNumber_toDigits (by decide) (by decide) (by decide)
      (fun _ => isHexDigit_of_mem_toDigits) here rest, character_number legal⟩
  · refine ⟨.number c.toNat, ?_, character_number legal⟩
    have digits : ∀ d ∈ Nat.toDigits 10 c.toNat, d.isDigit = true := fun _ =>
      Nat.isDigit_of_mem_toDigits (by decide) (by decide)
    have read := readNumber_toDigits (by decide) (by decide) (by decide) digits here rest
    obtain ⟨d, ds, row⟩ := List.exists_cons_of_ne_nil (Nat.toDigits_ne_nil (b := 10) (n := c.toNat))
    rw [row] at digits read ⊢
    have decimal : d ≠ 'x' := Text.ne_of_class (digits d List.mem_cons_self) (by decide)
    exact (readReference_decimal decimal here _).trans read

/-! ### Values and texts -/

theorem isLegal_cons {c : Char} {t : Text} :
    isLegal (c :: t) = true ↔ isForbidden c = false ∧ isLegal t = true := by
  simp [isLegal]

theorem ne_of_not_mem {marks : List Char} {c d : Char} (plain : c ∉ marks) (mark : d ∈ marks) :
    c ≠ d := by
  rintro rfl
  exact plain mark

/-- A value is read back up to its quote, white space included. -/
theorem readValue_characters (style : Style) {value : Text} (legal : isLegal value = true)
    (here rest : Text) :
    ∃ parts, readValue here style.quote (style.characters valueMarks value ++ style.quote :: rest) =
        .ok (parts, rest) ∧ ∀ there, expandValue there parts = .ok value := by
  have isMark := style.isQuote_quote
  induction value with
  | nil => exact ⟨[], readValue_quote isMark here rest, fun _ => rfl⟩
  | cons c value ih =>
    obtain ⟨allowed, legal⟩ := isLegal_cons.1 legal
    obtain ⟨parts, read, expanded⟩ := ih legal
    rw [style.characters_cons]
    by_cases mark : c ∈ valueMarks
    · rw [style.character_mark mark]
      obtain ⟨reference, referred, known⟩ := readReference_target style allowed here
        (style.characters valueMarks value ++ style.quote :: rest)
      refine ⟨_, by rw [readValue_reference isMark referred, read, ok_bind], fun there => ?_⟩
      rw [expandValue, known]
      simp only [expanded, ok_bind]
    · rw [style.character_plain mark]
      have differs : ∀ d ∈ valueMarks, c ≠ d := fun d => ne_of_not_mem mark
      have inside : c ≠ style.quote := by
        unfold Style.quote
        split
        · exact differs _ (by decide)
        · exact differs _ (by decide)
      -- White space that would be read as a space is among the marks.
      have kept : (if isSpace c then ' ' else c) = c := by
        split
        · rename_i white
          simp only [isSpace, Bool.or_eq_true, beq_iff_eq] at white
          rcases white with ((same | same) | same) | same
          · exact same.symm
          all_goals exact absurd same (differs _ (by decide))
        · rfl
      have lawful : ¬ (c = '<' ∨ isForbidden c = true) := by
        rw [allowed]
        simpa using differs '<' (by decide)
      refine ⟨.character c :: parts, ?_, fun there => ?_⟩
      · rw [readValue_character inside (differs _ (by decide)) lawful
          (fun lineEnd => absurd lineEnd (differs _ (by decide))), read, ok_bind, kept]
      · rw [expandValue, expanded, ok_bind]

theorem readToken_reference {r rest : Text} {reference : Reference} {c : Char}
    (read : readReference ('&' :: r) r = .ok (reference, rest))
    (known : reference.character = .ok c) : readToken '&' r = .ok (.character c, rest) := by
  rw [readToken, if_neg (by decide), if_pos rfl, read, ok_bind]
  simp only [known]

theorem readToken_plain {c : Char} {r : Text} (plain : c ∉ textMarks)
    (legal : isForbidden c = false) (apart : r.take 2 ≠ [']', '>']) :
    readToken c r = .ok (.character c, r) := by
  have differs : ∀ d ∈ textMarks, c ≠ d := fun d => ne_of_not_mem plain
  rw [readToken, if_neg (differs _ (by decide)), if_neg (differs _ (by decide)),
    if_neg (differs _ (by decide)), if_neg (fun both => apart both.2), if_neg (by simp [legal])]

/-- No closing bracket begins what is written. -/
theorem characters_head (style : Style) (t : Text) {rest : Text} (markup : rest.head? = some '<') :
    (style.characters textMarks t ++ rest).head? ≠ some '>' := by
  cases t with
  | nil =>
    intro first
    rw [show style.characters textMarks [] ++ rest = rest from rfl, markup] at first
    cases first
  | cons c t =>
    rw [style.characters_cons]
    by_cases mark : c ∈ textMarks
    · rw [style.character_mark mark]
      simp
    · rw [style.character_plain mark]
      simpa using ne_of_not_mem mark (show '>' ∈ textMarks by decide)

/-- What is written does not begin with the end of a section. -/
theorem characters_apart (style : Style) (t : Text) {rest : Text} (markup : rest.head? = some '<') :
    (style.characters textMarks t ++ rest).take 2 ≠ [']', '>'] := by
  intro ending
  cases t with
  | nil =>
    have first := congrArg List.head? ending
    rw [List.head?_take] at first
    simp [Style.characters, markup] at first
  | cons c t =>
    rw [style.characters_cons] at ending
    by_cases mark : c ∈ textMarks
    · rw [style.character_mark mark] at ending
      simp at ending
    · rw [style.character_plain mark] at ending
      obtain ⟨_, second⟩ := List.cons.inj ending
      apply characters_head style t markup
      have first := congrArg List.head? second
      rwa [List.head?_take, if_neg (by decide)] at first

/-- A text in front of markup is read back character by character. -/
theorem scan_characters (style : Style) {t rest : Text} (legal : isLegal t = true)
    (markup : rest.head? = some '<') :
    scan (style.characters textMarks t ++ rest) = t.map Token.character ++ scan rest := by
  induction t with
  | nil => rfl
  | cons c t ih =>
    obtain ⟨allowed, legal⟩ := isLegal_cons.1 legal
    rw [style.characters_cons, List.map_cons, List.cons_append, ← ih legal]
    by_cases mark : c ∈ textMarks
    · rw [style.character_mark mark]
      obtain ⟨reference, referred, known⟩ := readReference_target style allowed _ _
      exact scan_ok (readToken_reference referred known)
    · rw [style.character_plain mark]
      exact scan_ok (readToken_plain mark allowed (characters_apart style t markup))

/-! ### Tags -/

theorem Attribute.isPlain_iff {a : Attribute} :
    a.isPlain = true ↔ isPlainName a.name = true ∧ a.name ≠ ['x', 'm', 'l', 'n', 's'] ∧
      isLegal a.value = true := by
  simp [Attribute.isPlain, and_assoc]

theorem colon_not_mem_name {name : Text} (plain : isPlainName name = true) : ':' ∉ name := by
  obtain ⟨c, r, rfl, start, inside⟩ := isPlainName_iff.1 plain
  simp only [List.mem_cons, not_or]
  exact ⟨(Text.ne_of_class start (by decide)).symm,
    fun member => Text.ne_of_class (inside _ member) (by decide) rfl⟩

/-- A raw attribute that stands for an attribute: its references expand to the value. -/
def RawAttribute.Means (raw : RawAttribute) (a : Attribute) : Prop :=
  raw.name = a.name ∧ ∀ there, expandValue there raw.value = .ok a.value

theorem readAttribute_written (style : Style) {a : Attribute} (plain : a.isPlain = true)
    (here rest : Text) :
    startsName (style.attributeText a ++ rest) = true ∧
      ∃ raw, readAttribute here (style.attributeText a ++ rest) = .ok (raw, rest) ∧
        raw.Means a := by
  obtain ⟨named, _, legal⟩ := Attribute.isPlain_iff.1 plain
  obtain ⟨parts, read, expanded⟩ := readValue_characters style legal here rest
  obtain ⟨c, r, name, start, inside⟩ := isPlainName_iff.1 named
  have whole : style.attributeText a ++ rest = attributeStart (c :: r) [] [] style.quote
      (style.characters valueMarks a.value ++ style.quote :: rest) := by
    rw [Style.attributeText, attributeStart_append, name, List.append_assoc]
    rfl
  have qualified : readQualifiedName here (attributeStart (c :: r) [] [] style.quote
      (style.characters valueMarks a.value ++ style.quote :: rest)) = .ok (c :: r, '=' ::
        style.quote :: (style.characters valueMarks a.value ++ style.quote :: rest)) :=
    readQualifiedName_simple start inside (by simp; decide) here
  have found := readAttribute_start qualified nofun nofun style.isQuote_quote
  rw [read, ok_bind] at found
  rw [whole]
  exact ⟨startsName_iff.2 ⟨c, _, rfl, start⟩, _, found, name.symm, expanded⟩

theorem readAttributes_tagEnd (closed : Bool) (here rest : Text) :
    readAttributes here (tagEnd closed ++ rest) = .ok ([], closed, rest) := by
  cases closed with
  | true =>
    exact @readAttributes_end here [] ['/'] rest true nofun _ _ rfl (by decide) (by decide) rfl
  | false =>
    exact @readAttributes_end here [] [] rest false nofun _ _ rfl (by decide) (by decide) rfl

/-- The attributes of a tag are read back one by one. -/
theorem readAttributes_written (style : Style) {attributes : List Attribute}
    (plain : ∀ a ∈ attributes, a.isPlain = true) (closed : Bool) (here rest : Text) :
    ∃ raws, readAttributes here (style.attributesText attributes ++
        (tagEnd closed ++ rest)) = .ok (raws, closed, rest) ∧
      List.Forall₂ RawAttribute.Means raws attributes := by
  induction attributes with
  | nil => exact ⟨[], readAttributes_tagEnd closed here rest, .nil⟩
  | cons a attributes ih =>
    obtain ⟨raws, read, means⟩ := ih fun b member => plain b (List.mem_cons_of_mem _ member)
    obtain ⟨starts, raw, readFirst, meansFirst⟩ := readAttribute_written style
      (plain a List.mem_cons_self) here (style.attributesText attributes ++ (tagEnd closed ++ rest))
    refine ⟨raw :: raws, ?_, .cons meansFirst means⟩
    have space : ∀ c ∈ [' '], isSpace c = true := List.forall_mem_singleton.2 rfl
    have gapped := readAttributes_gap space starts here
    rw [attributesFrom, readFirst, ok_bind] at gapped
    simp only [read, ok_bind] at gapped
    rw [← gapped]
    simp [Style.attributesText]

theorem declaredLabel?_plain {name : Text} (plain : isPlainName name = true)
    (other : name ≠ ['x', 'm', 'l', 'n', 's']) : declaredLabel? name = none := by
  have different : name ≠ "xmlns".toList := other
  rw [declaredLabel?, Text.cutFirst_of_not_mem (colon_not_mem_name plain)]
  simp only [if_neg different]

/-- Plain attributes declare nothing. -/
theorem declare_plain {raws : List RawAttribute} {attributes : List Attribute}
    (means : List.Forall₂ RawAttribute.Means raws attributes)
    (plain : ∀ a ∈ attributes, a.isPlain = true) {seen : List Text}
    (distinct : (seen ++ attributes.map (·.name)).Nodup) (here : Text) (scope : Scope) :
    declare here seen scope raws = .ok (scope, attributes) := by
  induction means generalizing seen with
  | nil => rfl
  | @cons raw a raws attributes first _ ih =>
    obtain ⟨named, expanded⟩ := first
    obtain ⟨plainName, other, _⟩ := Attribute.isPlain_iff.1 (plain a List.mem_cons_self)
    have unseen : a.name ∉ seen := by
      intro member
      exact (List.nodup_append.1 distinct).2.2 _ member _ (by simp) rfl
    have further : ((a.name :: seen) ++ attributes.map (·.name)).Nodup :=
      (List.perm_middle.nodup_iff).1 distinct
    have rest := ih (fun b member => plain b (List.mem_cons_of_mem _ member)) further
    rw [declare, named, if_neg unseen, expanded, ok_bind, declaredLabel?_plain plainName other]
    simp only [rest, ok_bind]

theorem expandNames_plain {attributes : List Attribute}
    (plain : ∀ a ∈ attributes, ':' ∉ a.name) (here : Text) (scope : Scope) (seen : List Text) :
    expandNames here scope seen attributes = .ok attributes := by
  induction attributes with
  | nil => rfl
  | cons a attributes ih =>
    rw [expandNames, Text.cutFirst_of_not_mem (plain a List.mem_cons_self)]
    simp only [ih fun b member => plain b (List.mem_cons_of_mem _ member), ok_bind]

theorem expandTag_plain {tag : Text} (plain : isPlainName tag = true) (here : Text) :
    expandTag here .outermost tag = .ok tag := by
  rw [expandTag, Text.cutFirst_of_not_mem (colon_not_mem_name plain)]
  rfl

/-- The frame of an element outside of any namespace. -/
def plainFrame (tag : Text) (attributes : List Attribute) : Frame :=
  { written := tag, tag, attributes, scope := .outermost }

theorem Frame.ofTag_plain {tag : Text} {raws : List RawAttribute} {attributes : List Attribute}
    (means : List.Forall₂ RawAttribute.Means raws attributes) (named : isPlainName tag = true)
    (plain : ∀ a ∈ attributes, a.isPlain = true) (distinct : (attributes.map (·.name)).Nodup)
    (here : Text) : ofTag .outermost tag raws here = .ok (plainFrame tag attributes) := by
  have names : ∀ a ∈ attributes, ':' ∉ a.name := fun a member =>
    colon_not_mem_name (Attribute.isPlain_iff.1 (plain a member)).1
  rw [ofTag, declare_plain means plain distinct, ok_bind]
  simp only [expandNames_plain names, expandTag_plain named, ok_bind]
  rfl

/-- A name ends where its tag goes on. -/
theorem attributes_end_name (style : Style) (attributes : List Attribute) (closed : Bool)
    (rest : Text) (d : Char)
    (first : (style.attributesText attributes ++ (tagEnd closed ++ rest)).head? = some d) :
    isNameCharacter d = false ∧ d ≠ ':' := by
  cases attributes with
  | nil =>
    cases closed with
    | true => cases first; decide
    | false => cases first; decide
  | cons a attributes => cases first; decide

/-- A start tag is read back: it opens the element that was written. -/
theorem scan_startTag (style : Style) {tag : Text} {attributes : List Attribute}
    (named : isPlainName tag = true) (plain : ∀ a ∈ attributes, a.isPlain = true)
    (distinct : (attributes.map (·.name)).Nodup) (closed : Bool) (rest : Text) :
    ∃ raws here, scan (style.startTag tag attributes closed ++ rest) =
        .startTag tag raws closed here :: scan rest ∧
      Frame.ofTag .outermost tag raws here = .ok (plainFrame tag attributes) := by
  obtain ⟨c, r, rfl, start, inside⟩ := isPlainName_iff.1 named
  have whole : style.startTag (c :: r) attributes closed ++ rest =
      '<' :: c :: (r ++ (style.attributesText attributes ++ (tagEnd closed ++ rest))) := by
    simp [Style.startTag]
  generalize place : '<' :: c :: (r ++ (style.attributesText attributes ++ (tagEnd closed ++ rest)))
    = here at whole
  obtain ⟨raws, listed, means⟩ := readAttributes_written style plain closed here rest
  refine ⟨raws, here, ?_, Frame.ofTag_plain means named plain distinct here⟩
  rw [whole, ← place]
  apply scan_ok
  rw [readToken, if_pos rfl, readMarkup_startTag start, place,
    readQualifiedName_simple start inside (attributes_end_name style attributes closed rest),
    ok_bind]
  simp only [listed, ok_bind]

/-- An end tag is read back up to its end. -/
theorem scan_endTag {tag : Text} (named : isPlainName tag = true) (rest : Text) :
    scan ('<' :: '/' :: (tag ++ '>' :: rest)) =
      .endTag tag (tag ++ '>' :: rest) rest :: scan rest := by
  obtain ⟨c, r, rfl, start, inside⟩ := isPlainName_iff.1 named
  have parts : ∀ d ∈ r, (isNameCharacter d || d == ':') = true := fun d member => by
    rw [inside d member, Bool.true_or]
  have stop : (isNameCharacter '>' || '>' == ':') = false := by decide
  apply scan_ok
  have ended : readEndTag ('<' :: '/' :: (c :: r ++ '>' :: rest)) (c :: (r ++ '>' :: rest)) =
      .ok (c :: r, rest) := by
    rw [readEndTag, if_pos start]
    simp only [Text.dropWhile_run parts stop, Text.takeWhile_run parts stop]
    rfl
  rw [readToken, if_pos rfl, readMarkup]
  simp only [List.cons_append] at ended ⊢
  rw [ended]
  rfl

end DocReport.Markup

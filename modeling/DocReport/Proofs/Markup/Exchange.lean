import DocReport.Proofs.Markup.Fragment

/-!
Exchanging the value of an attribute in the text of a fragment. If the new text can be read as a
value between its quotes, the tree changes in that value only; if it cannot, and holds no closing
quote, nothing that follows can make the fragment well-formed again.
-/
namespace DocReport.Markup

/-! ### Values between quotes -/

/-- Whether a text can be read as the value of an attribute between these quotes. -/
def legible (quote : Char) (value : Text) : Bool :=
  match readValue [] quote (value ++ [quote]) with
  | .ok (parts, []) => (expandValue [] parts).isOk
  | _ => false

/-- A value without its closing quote is read up to that quote. -/
theorem readValue_quoted {there value z rest : Text} {quote : Char} {parts : List ValuePart}
    (isMark : isQuote quote = true) (inside : quote ∉ value)
    (read : readValue there quote (value ++ quote :: z) = .ok (parts, rest)) :
    rest = z ∧ ∀ here other, ∃ others, readValue here quote (value ++ quote :: other) =
        .ok (others, other) ∧
      others.map ValuePart.placeless = parts.map ValuePart.placeless := by
  obtain ⟨inner, whole, absent, again⟩ := readValue_used isMark read
  obtain ⟨rfl, _, rfl⟩ := Text.run_inj (Text.bne_of_not_mem inside) (by simp)
    (Text.bne_of_not_mem absent) (by simp) whole
  refine ⟨rfl, fun here other => ?_⟩
  obtain ⟨others, reread, same, _⟩ := again here other
  exact ⟨others, reread, same⟩

theorem legible_iff {quote : Char} {value : Text} (isMark : isQuote quote = true)
    (inside : quote ∉ value) (here there z : Text) :
    legible quote value = true ↔ ∃ parts expanded,
      readValue there quote (value ++ quote :: z) = .ok (parts, z) ∧
        expandValue here parts = .ok expanded := by
  constructor
  · intro readable
    unfold legible at readable
    split at readable
    · rename_i parts read
      obtain ⟨_, again⟩ := readValue_quoted isMark inside read
      obtain ⟨others, reread, same⟩ := again there z
      cases expanded : expandValue [] parts with
      | error fault =>
        rw [expanded] at readable
        cases readable
      | ok full =>
        exact ⟨others, full, reread, expandValue_placeless same.symm expanded here⟩
    · cases readable
  · rintro ⟨parts, expanded, read, full⟩
    obtain ⟨_, again⟩ := readValue_quoted isMark inside read
    obtain ⟨others, reread, same⟩ := again [] []
    simp only [legible, reread, expandValue_placeless same.symm full []]
    rfl

theorem not_mem_of_legible {quote : Char} {value : Text} (isMark : isQuote quote = true)
    (readable : legible quote value = true) : quote ∉ value := by
  unfold legible at readable
  split at readable
  · rename_i parts read
    obtain ⟨inner, whole, absent, _⟩ := readValue_used isMark read
    rw [List.append_cancel_right whole]
    exact absent
  · cases readable

/-- Whether a value was read to its end and can be expanded. -/
def Expands (read : Except Fault (List ValuePart × Text)) : Prop :=
  ∃ parts expanded, read = .ok (parts, []) ∧ expandValue [] parts = .ok expanded

theorem expands_character (d : Char) (read : Except Fault (List ValuePart × Text)) :
    Expands (do
      let (parts, rest) ← read
      .ok (.character d :: parts, rest)) ↔ Expands read := by
  constructor
  · rintro ⟨_, expanded, whole, full⟩
    obtain ⟨⟨parts, rest⟩, inner, done⟩ := bind_ok whole
    cases done
    obtain ⟨value, more, _⟩ := bind_ok full
    exact ⟨parts, value, inner, more⟩
  · rintro ⟨parts, expanded, rfl, full⟩
    refine ⟨.character d :: parts, d :: expanded, rfl, ?_⟩
    rw [expandValue, full]
    rfl

theorem cons_of_quoted {value r : Text} {quote c : Char} (whole : value ++ [quote] = c :: r)
    (other : c ≠ quote) : ∃ v, value = c :: v ∧ v ++ [quote] = r := by
  cases value with
  | nil => exact absurd (List.cons.inj whole).1.symm other
  | cons d v =>
    obtain ⟨rfl, rest⟩ := List.cons.inj whole
    exact ⟨v, rfl, rest⟩

/-- Without an ampersand only characters that no value may hold can be in the way. -/
theorem legible_iff_legal {quote : Char} {value : Text} (isMark : isQuote quote = true)
    (inside : quote ∉ value) (plain : '&' ∉ value) :
    legible quote value = true ↔ ∀ c ∈ value, ¬ (c = '<' ∨ isForbidden c = true) := by
  have noMark : ∀ c, isQuote c = false → c ≠ quote := fun c other =>
    (Text.ne_of_class isMark other).symm
  rw [legible_iff isMark inside [] [] []]
  change Expands (readValue [] quote (value ++ [quote])) ↔ _
  generalize whole : value ++ [quote] = t
  fun_induction readValue [] quote t generalizing value with
  | case1 => simp at whole
  | case2 r ih =>
    obtain ⟨_, rfl, next⟩ := cons_of_quoted whole (noMark _ (by decide))
    obtain ⟨v, rfl, rest⟩ := cons_of_quoted next (noMark _ (by decide))
    simp only [List.mem_cons, not_or] at inside plain
    rw [expands_character, ih inside.2.2 plain.2.2 rest, List.forall_mem_cons,
      and_iff_right (by decide), List.forall_mem_cons, and_iff_right (by decide)]
  | case3 r =>
    cases value with
    | nil =>
      obtain ⟨_, rfl⟩ := List.cons.inj whole
      exact ⟨fun _ => by simp, fun _ => ⟨[], [], rfl, rfl⟩⟩
    | cons c v =>
      obtain ⟨rfl, _⟩ := List.cons.inj whole
      exact absurd List.mem_cons_self inside
  | case4 r fault failed notQuote =>
    obtain ⟨v, rfl, _⟩ := cons_of_quoted whole (noMark _ (by decide))
    exact absurd List.mem_cons_self plain
  | case5 r reference after step found notQuote ih =>
    obtain ⟨v, rfl, _⟩ := cons_of_quoted whole (noMark _ (by decide))
    exact absurd List.mem_cons_self plain
  | case6 c r notEnd notQuote _ illegal =>
    obtain ⟨v, rfl, _⟩ := cons_of_quoted whole notQuote
    constructor
    · rintro ⟨_, _, failed, _⟩
      cases failed
    · intro legal
      exact absurd illegal (legal c List.mem_cons_self)
  | case7 c r notEnd notQuote _ legal ih =>
    obtain ⟨v, rfl, rest⟩ := cons_of_quoted whole notQuote
    simp only [List.mem_cons, not_or] at inside plain
    rw [expands_character, ih inside.2 plain.2 rest, List.forall_mem_cons, and_iff_right legal]

/-! ### Spots -/

/-- What is read at an attribute if `s` stands behind its opening quote. -/
def attributesAt (name gap after : Text) (quote : Char) (here s : Text) :
    Except Fault (List RawAttribute × Bool × Text) := do
  let (value, behind) ← readValue here quote s
  let (others, closed, rest) ← readAttributes here behind
  .ok (⟨name, value, attributeStart name gap after quote s⟩ :: others, closed, rest)

/-- Behind `p` stands an attribute of a start tag with this name and white space, up to its opening
quote: whatever follows, all before it is read in the same way. -/
def IsSpot (p name gap after : Text) (quote : Char) : Prop :=
  ∃ front tag earlier, ∀ s, ∃ tokens attributes here,
    tokens.map Token.placeless = front ∧ attributes.map RawAttribute.placeless = earlier ∧
      (∀ label place rest, .endTag label place rest ∈ tokens → s <:+ rest) ∧
      scan (p ++ attributeStart name gap after quote s) =
        tokens ++ tagRow tag attributes here (attributesAt name gap after quote here s)

theorem readAttribute_spot {here name gap after s rest : Text} {quote : Char} {raw : RawAttribute}
    (read : readAttribute here (attributeStart name gap after quote s) = .ok (raw, rest))
    (named : raw.name = name) (sign : '=' ∉ gap) (marks : ∀ c ∈ after, isQuote c = false)
    (isMark : isQuote quote = true) (there other : Text) :
    startsName name = true ∧
      readAttribute there (attributeStart name gap after quote other) = (do
        let (value, rest) ← readValue there quote other
        .ok (⟨name, value, attributeStart name gap after quote other⟩, rest)) := by
  obtain ⟨label, gap', after', quote', s', value, whole, spaces, spaces', isMark', opened, _, rfl⟩ :=
    readAttribute_shape read
  obtain rfl : label = name := named
  have tails := List.append_cancel_left whole
  have spaceSign : ∀ c, isSpace c = true → (c != '=') = true := by
    intro c space
    rw [bne_iff_ne]
    exact Text.ne_of_class space (by decide)
  have spaceMark : ∀ c, isSpace c = true → (!isQuote c) = true := by
    intro c space
    rw [not_quote_of_class (by decide) (by decide) space]
    rfl
  obtain ⟨rfl, _, tails⟩ := Text.run_inj (p := (· != '=')) (Text.bne_of_not_mem sign) (by decide)
    (fun c member => spaceSign c (spaces c member)) (by decide) tails
  obtain ⟨rfl, rfl, _⟩ := Text.run_inj (p := (!isQuote ·)) (fun c member => by simp [marks c member])
    (by simp [isMark]) (fun c member => spaceMark c (spaces' c member)) (by simp [isMark']) tails
  obtain ⟨_, ⟨c, cs, name, start⟩, again⟩ := readQualifiedName_used opened
  refine ⟨startsName_iff.2 ⟨c, cs, name, start⟩, ?_⟩
  apply readAttribute_start _ spaces spaces' isMark
  apply again
  cases gap <;> rfl

theorem isSpot_of_place {p name gap after s : Text} {quote : Char} {token : Token}
    (member : token ∈ scan (p ++ attributeStart name gap after quote s))
    (place : attributeStart name gap after quote s ∈ token.places name) (sign : '=' ∉ gap)
    (marks : ∀ c ∈ after, isQuote c = false) (isMark : isQuote quote = true) :
    IsSpot p name gap after quote := by
  obtain ⟨⟨here, raw, behind, read, named⟩, front, tag, earlier, again⟩ := scan_splice member place
  have spot := readAttribute_spot read named sign marks isMark
  refine ⟨front, tag, earlier, fun s => ?_⟩
  have starts : startsName (attributeStart name gap after quote s) = true :=
    startsName_append (spot [] []).1 _
  obtain ⟨tokens, attributes, here, same, sameEarlier, ends, row⟩ :=
    again (attributeStart name gap after quote s) starts
  refine ⟨tokens, attributes, here, same, sameEarlier, ?_, ?_⟩
  · intro label place rest member
    refine List.IsSuffix.trans ?_ (ends label place rest member)
    exact ⟨name ++ (gap ++ '=' :: (after ++ [quote])), by simp [attributeStart]⟩
  · rw [row, attributesFrom, (spot here s).2, attributesAt]
    cases readValue here quote s <;> rfl

section Exchange

variable {p name gap after : Text} {quote : Char}

/-- All attributes of a frame's tag had values. -/
theorem expands_of_declare {here : Text} {seen : List Text} {scope inner : Scope}
    {raws : List RawAttribute} {attributes : List Attribute}
    (read : declare here seen scope raws = .ok (inner, attributes)) :
    ∀ raw ∈ raws, ∃ value, expandValue here raw.value = .ok value := by
  induction raws generalizing seen scope attributes with
  | nil => simp
  | cons first raws ih =>
    intro raw member
    simp only [declare] at read
    split at read
    · cases read
    · obtain ⟨value, expanded, read⟩ := bind_ok read
      rcases List.mem_cons.1 member with rfl | member
      · exact ⟨value, expanded⟩
      · split at read
        · split at read
          · cases read
          · exact ih read raw member
        · obtain ⟨⟨scope, rest⟩, declared, done⟩ := bind_ok read
          cases done
          exact ih declared raw member

/-- What is built from an attribute on was read there, with a value that expands. -/
theorem build_tagRow {tag here s : Text} {earlier : List RawAttribute} {frame : Frame}
    {outer : List Frame} {node : Node}
    (built : build frame outer
      (tagRow tag earlier here (attributesAt name gap after quote here s)) = .ok node) :
    ∃ value behind others closed rest expanded, readValue here quote s = .ok (value, behind) ∧
      readAttributes here behind = .ok (others, closed, rest) ∧
      expandValue here value = .ok expanded := by
  cases valued : readValue here quote s with
  | error fault =>
    rw [attributesAt, valued] at built
    cases built
  | ok read =>
    obtain ⟨value, behind⟩ := read
    cases listed : readAttributes here behind with
    | error fault =>
      simp only [attributesAt, valued, ok_bind, listed] at built
      cases built
    | ok read =>
      obtain ⟨others, closed, rest⟩ := read
      simp only [attributesAt, valued, ok_bind, listed, tagRow] at built
      obtain ⟨inner, opened, _⟩ := bind_ok built
      obtain ⟨⟨scope, attributes⟩, declared, _⟩ := bind_ok opened
      obtain ⟨expanded, full⟩ := expands_of_declare declared
        ⟨name, value, attributeStart name gap after quote s⟩ (by simp)
      exact ⟨value, behind, others, closed, rest, expanded, rfl, listed, full⟩

/-- A fragment with an attribute whose value is `value`. -/
def withValue (p name gap after : Text) (quote : Char) (value z : Text) : Text :=
  p ++ attributeStart name gap after quote (value ++ quote :: z)

theorem scan_withValue (spot : IsSpot p name gap after quote) :
    ∃ front tag earlier, ∀ value z, ∃ tokens attributes here,
      tokens.map Token.placeless = front ∧ attributes.map RawAttribute.placeless = earlier ∧
        (∀ label place rest, .endTag label place rest ∈ tokens → epilogueFault? rest ≠ none) ∧
        readFragment (withValue p name gap after quote value z) = build rootFrame [] (tokens ++
          tagRow tag attributes here (attributesAt name gap after quote here
            (value ++ quote :: (z ++ rootEnd)))) := by
  obtain ⟨front, tag, earlier, again⟩ := spot
  refine ⟨front, tag, earlier, fun value z => ?_⟩
  obtain ⟨tokens, attributes, here, same, sameEarlier, ends, row⟩ :=
    again (value ++ quote :: (z ++ rootEnd))
  refine ⟨tokens, attributes, here, same, sameEarlier, ?_, ?_⟩
  · intro label place rest member
    obtain ⟨before, rfl⟩ := ends label place rest member
    have whole : before ++ (value ++ quote :: (z ++ rootEnd)) =
        before ++ (value ++ quote :: z) ++ rootEnd := by simp
    rw [whole]
    exact epilogueFault?_rootEnd _
  · have whole : withValue p name gap after quote value z ++ rootEnd =
        p ++ attributeStart name gap after quote (value ++ quote :: (z ++ rootEnd)) := by
      simp [withValue, attributeStart]
    rw [← row, ← whole]
    exact readFragment_eq _

/-- If the value of an attribute cannot be read, neither can the fragment. -/
theorem legible_of_readFragment (spot : IsSpot p name gap after quote)
    (isMark : isQuote quote = true) {value z : Text} (inside : quote ∉ value) {node : Node}
    (read : readFragment (withValue p name gap after quote value z) = .ok node) :
    legible quote value = true := by
  obtain ⟨front, tag, earlier, again⟩ := scan_withValue spot
  obtain ⟨tokens, attributes, here, _, _, ends, row⟩ := again value z
  rw [row] at read
  by_contra illegible
  refine build_append_ne_ok ends ?_ rootFrame [] node read
  intro frame outer node built
  obtain ⟨parts, behind, _, _, _, expanded, valued, _, full⟩ := build_tagRow built
  obtain ⟨rfl, _⟩ := readValue_quoted isMark inside valued
  exact illegible ((legible_iff isMark inside here here _).2 ⟨parts, expanded, valued, full⟩)

/-- A value that can be read takes the place of another one, and the tree changes in it only. -/
theorem readFragment_exchange (plain : declaredLabel? name = none)
    (unqualified : (Text.cutFirst ':' name).2 = none) (spot : IsSpot p name gap after quote)
    (isMark : isQuote quote = true) {value value' z : Text} (inside : quote ∉ value)
    (readable : legible quote value' = true) {node : Node}
    (read : readFragment (withValue p name gap after quote value z) = .ok node) :
    ∃ node', readFragment (withValue p name gap after quote value' z) = .ok node' ∧
      node'.blank name = node.blank name := by
  obtain ⟨front, tag, earlier, again⟩ := scan_withValue spot
  obtain ⟨tokens, attributes, here, same, sameEarlier, ends, row⟩ := again value z
  obtain ⟨tokens', attributes', here', same', sameEarlier', _, row'⟩ := again value' z
  rw [row] at read
  rw [row']
  -- No end tag in front of the tag ends the document, so the tag itself has been read.
  have opened : ∃ parts behind others closed rest expanded,
      readValue here quote (value ++ quote :: (z ++ rootEnd)) = .ok (parts, behind) ∧
        readAttributes here behind = .ok (others, closed, rest) ∧
        expandValue here parts = .ok expanded := by
    by_contra closed
    refine build_append_ne_ok ends ?_ rootFrame [] node read
    intro frame outer node built
    exact closed (build_tagRow built)
  obtain ⟨parts, behind, others, closed, rest, expanded, valued, listed, full⟩ := opened
  obtain ⟨rfl, _⟩ := readValue_quoted isMark inside valued
  obtain ⟨parts', expanded', valued', full'⟩ :=
    (legible_iff isMark (not_mem_of_legible isMark readable) here' here' (z ++ rootEnd)).1 readable
  -- The text behind the value is the same, and so is all that is read from it.
  obtain ⟨_, split, relisted⟩ := readAttributes_used listed
  obtain ⟨_, listed', _, back⟩ := relisted here' rest
  rw [← split, back rfl] at listed'
  simp only [attributesAt, valued, valued', listed, listed', ok_bind, tagRow] at read ⊢
  have exchanged : RawAttribute.Agree name
      ⟨name, parts, attributeStart name gap after quote (value ++ quote :: (z ++ rootEnd))⟩
      ⟨name, parts', attributeStart name gap after quote (value' ++ quote :: (z ++ rootEnd))⟩ :=
    ⟨rfl, fun _ there _ _ => ⟨expanded', expandValue_placeless rfl full' there, absurd rfl⟩⟩
  have sameOthers : List.Forall₂ (RawAttribute.Agree name) others others :=
    agree_of_placeless_map rfl
  refine build_agree plain unqualified ?_ rfl rfl read
  apply List.rel_append (rows_agree_of_placeless (same.trans same'.symm) ends)
  refine .cons (.startTag here here' ?_) (List.forall₂_same.2 fun token _ => .refl token)
  exact List.rel_append (agree_of_placeless_map (sameEarlier.trans sameEarlier'.symm))
    (.cons exchanged sameOthers)

end Exchange

end DocReport.Markup

import DocReport.Proofs.Markup.Locality.Value

/-!
Locality of the readers of attributes and tags. White space and the start of a name lead to the
next attribute, and a tag ends with its mark.
-/
namespace DocReport.Markup

/-- An attribute without its place and those in its value. -/
def RawAttribute.placeless (a : RawAttribute) : RawAttribute :=
  ⟨a.name, a.value.map ValuePart.placeless, []⟩

/-- An attribute as written up to its value: white space may surround the equals sign. -/
def attributeStart (name gap after : Text) (quote : Char) (s : Text) : Text :=
  name ++ (gap ++ '=' :: (after ++ quote :: s))

theorem attributeStart_append (name gap after : Text) (quote : Char) (s r : Text) :
    attributeStart name gap after quote s ++ r = attributeStart name gap after quote (s ++ r) := by
  simp [attributeStart]

/-- What an attribute is made of, if it can be read. -/
theorem readAttribute_shape {here t rest : Text} {raw : RawAttribute}
    (read : readAttribute here t = .ok (raw, rest)) :
    ∃ name gap after quote s value, t = attributeStart name gap after quote s ∧
      (∀ c ∈ gap, isSpace c = true) ∧ (∀ c ∈ after, isSpace c = true) ∧ isQuote quote = true ∧
      readQualifiedName here t = .ok (name, gap ++ '=' :: (after ++ quote :: s)) ∧
      readValue here quote s = .ok (value, rest) ∧ raw = ⟨name, value, t⟩ := by
  obtain ⟨⟨name, afterName⟩, named, read⟩ := bind_ok read
  simp only at read
  split at read
  · cases read
  · rename_i c r equals
    split at read
    · cases read
    · rename_i sign
      split at read
      · cases read
      · rename_i quote s opened
        split at read
        · rename_i isMark
          obtain ⟨⟨value, tail⟩, valued, done⟩ := bind_ok read
          simp only [Except.ok.injEq, Prod.mk.injEq] at done
          obtain ⟨rfl, rfl⟩ := done
          have sign : c = '=' := by simpa using sign
          subst sign
          have split := (readQualifiedName_used named).1
          have gap := (Text.run_of_dropWhile equals).1
          have after := (Text.run_of_dropWhile opened).1
          have whole : afterName =
              afterName.takeWhile isSpace ++ '=' :: (r.takeWhile isSpace ++ quote :: s) := by
            rw [← after]
            exact gap
          refine ⟨name, afterName.takeWhile isSpace, r.takeWhile isSpace, quote, s, value, ?_,
            fun _ => Text.mem_takeWhile, fun _ => Text.mem_takeWhile, by simpa [isQuote] using isMark,
            ?_, valued, rfl⟩
          · rw [attributeStart, ← whole]
            exact split
          · rw [← whole]
            exact named
        · cases read

theorem readAttribute_start {here name gap after s : Text} {quote : Char}
    (named : readQualifiedName here (attributeStart name gap after quote s) =
      .ok (name, gap ++ '=' :: (after ++ quote :: s)))
    (spaces : ∀ c ∈ gap, isSpace c = true) (others : ∀ c ∈ after, isSpace c = true)
    (isMark : isQuote quote = true) :
    readAttribute here (attributeStart name gap after quote s) = (do
      let (value, rest) ← readValue here quote s
      .ok (⟨name, value, attributeStart name gap after quote s⟩, rest)) := by
  have opened : isSpace quote = false := by
    simp only [isQuote, Bool.or_eq_true, beq_iff_eq] at isMark
    rcases isMark with rfl | rfl <;> rfl
  have mark : quote = '"' ∨ quote = '\'' := by simpa [isQuote] using isMark
  rw [readAttribute, named, ok_bind]
  simp only [Text.dropWhile_run spaces (show isSpace '=' = false by decide),
    Text.dropWhile_run others opened, ne_eq, not_true, if_false, if_pos mark]

/-- Whether a text begins with the start of a name. -/
def startsName (t : Text) : Bool :=
  t.head?.any isNameStart

theorem startsName_iff {t : Text} :
    startsName t = true ↔ ∃ c r, t = c :: r ∧ isNameStart c = true := by
  cases t with
  | nil => simp [startsName]
  | cons c r => simp [startsName]

theorem startsName_append {t : Text} (start : startsName t = true) (r : Text) :
    startsName (t ++ r) = true := by
  obtain ⟨c, s, rfl, first⟩ := startsName_iff.1 start
  exact startsName_iff.2 ⟨c, s ++ r, rfl, first⟩

theorem readAttribute_used {here t rest : Text} {raw : RawAttribute}
    (read : readAttribute here t = .ok (raw, rest)) :
    raw.here = t ∧ ∃ used, t = used ++ rest ∧ startsName used = true ∧
      ∀ there other, ∃ again, readAttribute there (used ++ other) = .ok (again, other) ∧
        again.placeless = raw.placeless ∧ (other = rest → again = raw) := by
  obtain ⟨name, gap, after, quote, s, value, rfl, spaces, others, isMark, named, valued, rfl⟩ :=
    readAttribute_shape read
  obtain ⟨inner, rfl, _, reread⟩ := readValue_used isMark valued
  obtain ⟨_, ⟨c, cs, rfl, start⟩, renamed⟩ := readQualifiedName_used named
  refine ⟨rfl, attributeStart (c :: cs) gap after quote (inner ++ [quote]), ?_,
    startsName_iff.2 ⟨c, _, rfl, start⟩, ?_⟩
  · simp [attributeStart]
  · intro there other
    obtain ⟨values, value', same, back⟩ := reread there other
    have named := renamed there (gap ++ '=' :: (after ++ quote :: (inner ++ quote :: other))) (by
      cases gap <;> rfl)
    refine ⟨⟨c :: cs, values, attributeStart (c :: cs) gap after quote (inner ++ quote :: other)⟩,
      ?_, ?_, ?_⟩
    · have whole : attributeStart (c :: cs) gap after quote (inner ++ [quote]) ++ other =
          attributeStart (c :: cs) gap after quote (inner ++ quote :: other) := by
        rw [attributeStart_append, List.append_assoc]
        rfl
      rw [whole, readAttribute_start named spaces others isMark, value']
      rfl
    · simp [RawAttribute.placeless, same]
    · intro whole
      rw [back whole, whole]

theorem readTagEnd_used {here t rest : Text} {closed : Bool}
    (read : readTagEnd here t = .ok (closed, rest)) :
    ∃ mark, t = mark ++ '>' :: rest ∧
      ∀ there other, readTagEnd there (mark ++ '>' :: other) = .ok (closed, other) := by
  unfold readTagEnd at read
  split at read
  · cases read
  · cases read
    exact ⟨[], rfl, fun _ _ => rfl⟩
  · cases read
    exact ⟨['/'], rfl, fun _ _ => rfl⟩
  · cases read
  · cases read
  · cases read

/-- Attributes from the name of the first one on. -/
def attributesFrom (here h : Text) : Except Fault (List RawAttribute × Bool × Text) := do
  let (first, after) ← readAttribute here h
  let (others, closed, rest) ← readAttributes here after
  .ok (first :: others, closed, rest)

/-- White space and the start of a name lead to an attribute. -/
theorem readAttributes_gap {space : Char} {gap h : Text}
    (spaces : ∀ c ∈ space :: gap, isSpace c = true) (start : startsName h = true) (here : Text) :
    readAttributes here (space :: gap ++ h) = attributesFrom here h := by
  obtain ⟨c, r, rfl, first⟩ := startsName_iff.1 start
  have blank : isSpace c = false := by
    cases white : isSpace c with
    | false => rfl
    | true =>
      simp only [isSpace, Bool.or_eq_true, beq_iff_eq] at white
      rcases white with ((rfl | rfl) | rfl) | rfl <;> exact absurd first (by decide)
  have gapped := Text.dropWhile_run spaces blank r
  rw [readAttributes.eq_def]
  split
  · rename_i none
    rw [gapped] at none
    cases none
  · rename_i d s same
    rw [gapped] at same
    obtain ⟨rfl, rfl⟩ := List.cons.inj same
    rw [if_pos ⟨first, by simp [spaces space List.mem_cons_self]⟩, attributesFrom]
    split
    · rename_i fault failed
      rw [failed]
      rfl
    · rename_i found
      rw [found]
      rfl

/-- The white space before an attribute. -/
theorem gap_before_attribute {t r : Text} {c : Char} (gap : t.dropWhile isSpace = c :: r)
    (spaced : t.head?.any isSpace = true) :
    ∃ space blanks, t = space :: blanks ++ c :: r ∧ ∀ d ∈ space :: blanks, isSpace d = true := by
  have whole := (Text.run_of_dropWhile gap).1
  have spaces : ∀ d ∈ t.takeWhile isSpace, isSpace d = true := fun _ => Text.mem_takeWhile
  cases run : t.takeWhile isSpace with
  | nil =>
    cases t with
    | nil => cases spaced
    | cons d ds =>
      have space : isSpace d = true := by simpa using spaced
      simp [space] at run
  | cons space blanks =>
    rw [run] at whole spaces
    exact ⟨space, blanks, whole, spaces⟩

theorem readAttributes_end {here gap mark other : Text} {closed : Bool}
    (spaces : ∀ c ∈ gap, isSpace c = true) {c : Char} {r : Text} (first : mark ++ '>' :: other = c :: r)
    (blank : isSpace c = false) (start : isNameStart c = false)
    (ended : readTagEnd here (mark ++ '>' :: other) = .ok (closed, other)) :
    readAttributes here (gap ++ (mark ++ '>' :: other)) = .ok ([], closed, other) := by
  rw [first] at ended ⊢
  have gapped := Text.dropWhile_run spaces blank r
  rw [readAttributes.eq_def]
  split
  · rename_i none
    rw [gapped] at none
    cases none
  · rename_i d s same
    rw [gapped] at same
    obtain ⟨rfl, rfl⟩ := List.cons.inj same
    rw [if_neg (by simp [start]), ended]
    rfl

theorem readTagEnd_first {here r rest : Text} {c : Char} {closed : Bool}
    (read : readTagEnd here (c :: r) = .ok (closed, rest)) :
    isSpace c = false ∧ isNameStart c = false := by
  unfold readTagEnd at read
  split at read
  · cases read
  · rename_i same
    rw [(List.cons.inj same).1]
    decide
  · rename_i same
    rw [(List.cons.inj same).1]
    decide
  · cases read
  · cases read
  · cases read

theorem readAttributes_used {here t rest : Text} {attributes : List RawAttribute} {closed : Bool}
    (read : readAttributes here t = .ok (attributes, closed, rest)) :
    ∃ inner, t = inner ++ '>' :: rest ∧
      ∀ there other, ∃ again, readAttributes there (inner ++ '>' :: other) =
          .ok (again, closed, other) ∧
        again.map RawAttribute.placeless = attributes.map RawAttribute.placeless ∧
        (other = rest → again = attributes) := by
  fun_induction readAttributes here t generalizing attributes closed rest with
  | case1 => cases read
  | case2 => cases read
  | case3 t c r gap more first tail step ih =>
    obtain ⟨⟨others, ended, last⟩, listed, done⟩ := bind_ok read
    simp only [Except.ok.injEq, Prod.mk.injEq] at done
    obtain ⟨rfl, rfl, rfl⟩ := done
    obtain ⟨inner, rfl, relisted⟩ := ih listed
    obtain ⟨_, used, split, start, reread⟩ := readAttribute_used step
    obtain ⟨space, blanks, rfl, spaces⟩ := gap_before_attribute gap more.2
    refine ⟨space :: blanks ++ (used ++ inner), ?_, ?_⟩
    · rw [List.append_assoc, List.append_assoc, ← split]
    · intro there other
      obtain ⟨again, found, same, back⟩ := relisted there other
      obtain ⟨firstAgain, firstFound, firstSame, firstBack⟩ :=
        reread there (inner ++ '>' :: other)
      refine ⟨firstAgain :: again, ?_, by simp [same, firstSame], ?_⟩
      · rw [List.append_assoc, List.append_assoc,
          readAttributes_gap spaces (startsName_append start _), attributesFrom, firstFound, ok_bind]
        simp only [found, ok_bind]
      · intro same
        rw [back same, firstBack (by rw [same])]
  | case4 t c r gap _ =>
    obtain ⟨⟨ended, last⟩, marked, done⟩ := bind_ok read
    simp only [Except.ok.injEq, Prod.mk.injEq] at done
    obtain ⟨rfl, rfl, rfl⟩ := done
    obtain ⟨mark, split, remarked⟩ := readTagEnd_used marked
    obtain ⟨blank, start⟩ := readTagEnd_first marked
    have whole := (Text.run_of_dropWhile gap).1
    have spaces : ∀ e ∈ t.takeWhile isSpace, isSpace e = true := fun _ => Text.mem_takeWhile
    refine ⟨t.takeWhile isSpace ++ mark, ?_, ?_⟩
    · rw [List.append_assoc, ← split]
      exact whole
    · intro there other
      refine ⟨[], ?_, rfl, fun _ => rfl⟩
      have front : ∃ s, mark ++ '>' :: other = c :: s := by
        cases mark with
        | nil => exact ⟨other, by rw [(List.cons.inj split).1]; rfl⟩
        | cons d ds => exact ⟨ds ++ '>' :: other, by rw [(List.cons.inj split).1]; rfl⟩
      obtain ⟨s, front⟩ := front
      rw [List.append_assoc]
      exact readAttributes_end spaces front blank start (remarked there other)

end DocReport.Markup

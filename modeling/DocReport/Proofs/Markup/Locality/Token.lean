import DocReport.Proofs.Markup.Locality.Tag

/-!
Locality of the readers of tokens. Every token but a character of text has an end mark of its own.
A carriage return looks at the next character, and a closing square bracket at the next two, to see
whether they make a line end or the end of a section with it.
-/
namespace DocReport.Markup

/-- A token without any place. -/
def Token.placeless : Token → Token
  | .startTag name attributes closed _ =>
    .startTag name (attributes.map RawAttribute.placeless) closed []
  | .endTag name _ _ => .endTag name [] []
  | .broken fault => .broken ⟨fault.reason, []⟩
  | token => token

theorem skipComment_character {c : Char} {r : Text} (apart : c = '-' → r.head? ≠ some '-')
    (legal : ¬ isForbidden c = true) (here : Text) :
    skipComment here (c :: r) = skipComment here r := by
  rw [skipComment.eq_def]
  split
  · rename_i same
    cases same
  · rename_i same
    obtain ⟨rfl, rfl⟩ := List.cons.inj same
    exact absurd rfl (apart rfl)
  · rename_i same
    obtain ⟨rfl, rfl⟩ := List.cons.inj same
    exact absurd rfl (apart rfl)
  · rename_i same
    obtain ⟨rfl, rfl⟩ := List.cons.inj same
    exact absurd rfl (apart rfl)
  · rename_i same
    obtain ⟨rfl, rfl⟩ := List.cons.inj same
    rw [if_neg legal]

theorem skipComment_used {here t rest : Text} (read : skipComment here t = .ok rest) :
    ∃ inner, t = inner ++ '-' :: '-' :: '>' :: rest ∧
      ∀ there other, skipComment there (inner ++ '-' :: '-' :: '>' :: other) = .ok other := by
  fun_induction skipComment here t with
  | case1 => cases read
  | case2 r =>
    cases read
    exact ⟨[], rfl, fun _ _ => rfl⟩
  | case3 => cases read
  | case4 => cases read
  | case5 => cases read
  | case6 c r _ _ apart legal ih =>
    obtain ⟨inner, rfl, again⟩ := ih read
    refine ⟨c :: inner, rfl, fun there other => ?_⟩
    rw [List.cons_append, skipComment_character ?_ legal]
    · exact again there other
    · intro hyphen next
      cases inner with
      | nil => exact apart _ hyphen rfl
      | cons d ds =>
        have first : d = '-' := by simpa using next
        exact apart (ds ++ '-' :: '-' :: '>' :: rest) hyphen (by rw [first]; rfl)

theorem skipInstruction_character {c : Char} {r : Text} (apart : c = '?' → r.head? ≠ some '>')
    (legal : ¬ isForbidden c = true) (here : Text) :
    skipInstruction here (c :: r) = skipInstruction here r := by
  rw [skipInstruction.eq_def]
  split
  · rename_i same
    cases same
  · rename_i same
    obtain ⟨rfl, rfl⟩ := List.cons.inj same
    exact absurd rfl (apart rfl)
  · rename_i same
    obtain ⟨rfl, rfl⟩ := List.cons.inj same
    rw [if_neg legal]

theorem skipInstruction_used {here t rest : Text} (read : skipInstruction here t = .ok rest) :
    ∃ inner, t = inner ++ '?' :: '>' :: rest ∧
      ∀ there other, skipInstruction there (inner ++ '?' :: '>' :: other) = .ok other := by
  fun_induction skipInstruction here t with
  | case1 => cases read
  | case2 r =>
    cases read
    exact ⟨[], rfl, fun _ _ => rfl⟩
  | case3 => cases read
  | case4 c r apart legal ih =>
    obtain ⟨inner, rfl, again⟩ := ih read
    refine ⟨c :: inner, rfl, fun there other => ?_⟩
    rw [List.cons_append, skipInstruction_character ?_ legal]
    · exact again there other
    · intro mark next
      cases inner with
      | nil => simp at next
      | cons d ds =>
        have first : d = '>' := by simpa using next
        exact apart (ds ++ '?' :: '>' :: rest) mark (by rw [first]; rfl)

theorem expectWord_used {here word t rest : Text} (read : expectWord here word t = .ok rest) :
    t = word ++ rest ∧ ∀ there other, expectWord there word (word ++ other) = .ok other := by
  fun_induction expectWord here word t with
  | case1 t =>
    cases read
    exact ⟨rfl, fun _ _ => rfl⟩
  | case2 => cases read
  | case3 w ws r ih =>
    obtain ⟨rfl, again⟩ := ih read
    refine ⟨rfl, fun there other => ?_⟩
    rw [List.cons_append, expectWord, if_pos rfl]
    exact again there other
  | case4 => cases read

/-- An instruction ends with its mark, whether or not anything stands behind its target. -/
theorem readInstruction_used {here t target rest : Text}
    (read : readInstruction here t = .ok (target, rest)) :
    ∃ inner, t = inner ++ '?' :: '>' :: rest ∧
      ∀ there other, readInstruction there (inner ++ '?' :: '>' :: other) =
        .ok (target, other) := by
  unfold readInstruction at read
  split at read
  · cases read
  · rename_i c r
    split at read
    · rename_i start
      have name : ∀ d ∈ r.takeWhile isNameCharacter, isNameCharacter d = true :=
        fun _ => Text.mem_takeWhile
      simp only at read
      split at read
      · cases read
      · rename_i d s same
        obtain ⟨whole, stop⟩ := Text.run_of_dropWhile same
        split at read
        · cases read
        · rename_i ends
          split at read
          · cases read
          · rename_i permitted
            split at read
            · rename_i space
              obtain ⟨tail, skipped, done⟩ := bind_ok read
              simp only [Except.ok.injEq, Prod.mk.injEq] at done
              obtain ⟨rfl, rfl⟩ := done
              obtain ⟨inner, rfl, again⟩ := skipInstruction_used skipped
              refine ⟨c :: (r.takeWhile isNameCharacter ++ d :: inner), ?_, fun there other => ?_⟩
              · simp only [List.cons_append, List.append_assoc]
                rw [← whole]
              · simp only [List.cons_append, List.append_assoc]
                rw [readInstruction, if_pos start]
                simp only [Text.dropWhile_run name stop, Text.takeWhile_run name stop, if_neg ends,
                  if_neg permitted, if_pos space, again there other, ok_bind]
            · rename_i space
              split at read
              · cases read
              · rename_i e tail
                split at read
                · rename_i closed
                  subst closed
                  simp only [Except.ok.injEq, Prod.mk.injEq] at read
                  obtain ⟨rfl, rfl⟩ := read
                  have mark : d = '?' := by simpa [space] using ends
                  subst mark
                  refine ⟨c :: r.takeWhile isNameCharacter, ?_, fun there other => ?_⟩
                  · rw [List.cons_append, ← whole]
                  · rw [List.cons_append, readInstruction, if_pos start]
                    simp only [Text.dropWhile_run name stop, Text.takeWhile_run name stop,
                      if_neg ends, if_neg permitted, if_neg space]
                    rfl
                · cases read
    · cases read

theorem readCdata_character {c : Char} {r : Text} (apart : c = ']' → r.take 2 ≠ [']', '>'])
    (line : c = '\r' → r.head? ≠ some '\n') (legal : ¬ isForbidden c = true) :
    readCdata (c :: r) = (do
      let (value, rest) ← readCdata r
      .ok ((if c = '\r' then '\n' else c) :: value, rest)) := by
  rw [readCdata.eq_def]
  split
  · rename_i same
    cases same
  · rename_i same
    obtain ⟨rfl, rfl⟩ := List.cons.inj same
    exact absurd rfl (apart rfl)
  · rename_i same
    obtain ⟨rfl, rfl⟩ := List.cons.inj same
    exact absurd rfl (line rfl)
  · rename_i same
    obtain ⟨rfl, rfl⟩ := List.cons.inj same
    rw [if_neg legal]

theorem readCdata_used {t value rest : Text} (read : readCdata t = .ok (value, rest)) :
    ∃ inner, t = inner ++ ']' :: ']' :: '>' :: rest ∧
      ∀ other, readCdata (inner ++ ']' :: ']' :: '>' :: other) = .ok (value, other) := by
  fun_induction readCdata t generalizing value rest with
  | case1 => cases read
  | case2 r =>
    cases read
    exact ⟨[], rfl, fun _ => rfl⟩
  | case3 r ih =>
    obtain ⟨⟨inside, tail⟩, step, done⟩ := bind_ok read
    simp only [Except.ok.injEq, Prod.mk.injEq] at done
    obtain ⟨rfl, rfl⟩ := done
    obtain ⟨inner, rfl, again⟩ := ih step
    refine ⟨'\r' :: '\n' :: inner, rfl, fun other => ?_⟩
    rw [List.cons_append, List.cons_append, readCdata, again other]
    rfl
  | case4 => cases read
  | case5 c r apart line legal ih =>
    obtain ⟨⟨inside, tail⟩, step, done⟩ := bind_ok read
    simp only [Except.ok.injEq, Prod.mk.injEq] at done
    obtain ⟨rfl, rfl⟩ := done
    obtain ⟨inner, rfl, again⟩ := ih step
    refine ⟨c :: inner, rfl, fun other => ?_⟩
    rw [List.cons_append, readCdata_character ?_ ?_ legal, again other]
    · rfl
    · intro bracket next
      match inner with
      | [] => simp at next
      | [d] => simp at next
      | d :: e :: es =>
        obtain ⟨rfl, rfl⟩ : d = ']' ∧ e = '>' := by simpa using next
        exact apart _ bracket rfl
    · intro lineEnd next
      cases inner with
      | nil => simp at next
      | cons d ds =>
        have first : d = '\n' := by simpa using next
        exact line (ds ++ ']' :: ']' :: '>' :: tail) lineEnd (by rw [first]; rfl)

theorem readEndTag_used {here t name rest : Text} (read : readEndTag here t = .ok (name, rest)) :
    ∃ inner, t = inner ++ '>' :: rest ∧ '<' ∉ inner ∧
      ∀ there other, readEndTag there (inner ++ '>' :: other) = .ok (name, other) := by
  unfold readEndTag at read
  split at read
  · cases read
  · rename_i c r
    split at read
    · rename_i start
      simp only at read
      split at read
      · cases read
      · rename_i d tail same
        split at read
        · rename_i closed
          subst closed
          simp only [Except.ok.injEq, Prod.mk.injEq] at read
          obtain ⟨rfl, rfl⟩ := read
          generalize part : (fun d => isNameCharacter d || d == ':') = isPart at same
          obtain ⟨whole, _⟩ := Text.run_of_dropWhile same
          have name : ∀ d ∈ r.takeWhile isPart, isPart d = true := fun _ => Text.mem_takeWhile
          have spaces : ∀ d ∈ (r.dropWhile isPart).takeWhile isSpace, isSpace d = true :=
            fun _ => Text.mem_takeWhile
          generalize gap : (r.dropWhile isPart).takeWhile isSpace = blanks at whole spaces
          have stop : ∀ other d, (blanks ++ '>' :: other).head? = some d → isPart d = false := by
            intro other d first
            cases blanks with
            | nil =>
              obtain rfl : '>' = d := by simpa using first
              rw [← part]
              decide
            | cons e es =>
              refine Text.stop_of_dropWhile isPart r d ?_
              rw [whole]
              exact first
          refine ⟨c :: (r.takeWhile isPart ++ blanks), ?_, ?_, fun there other => ?_⟩
          · rw [List.cons_append, List.append_assoc, ← whole, List.takeWhile_append_dropWhile]
          · have outside : isPart '<' = false := by
              rw [← part]
              decide
            simp only [List.mem_cons, List.mem_append, not_or]
            exact ⟨(Text.ne_of_class start (by decide)).symm,
              fun member => Text.ne_of_class (name _ member) outside rfl,
              fun member => Text.ne_of_class (spaces _ member) (by decide) rfl⟩
          · rw [List.cons_append, List.append_assoc, readEndTag, if_pos start]
            simp only [part]
            rw [Text.dropWhile_append_stop name (stop other),
              Text.takeWhile_append_stop name (stop other),
              Text.dropWhile_run spaces (by decide)]
            rfl
        · cases read
    · cases read

theorem readMarkup_startTag {c : Char} (start : isNameStart c = true) (r : Text) :
    readMarkup (c :: r) = (do
      let (name, after) ← readQualifiedName ('<' :: c :: r) (c :: r)
      let (attributes, closed, rest) ← readAttributes ('<' :: c :: r) after
      .ok (.startTag name attributes closed ('<' :: c :: r), rest)) := by
  have mark : ∀ d, isNameStart d = false → c ≠ d := fun d => Text.ne_of_class start
  unfold readMarkup
  split
  · rename_i same
    exact absurd (List.cons.inj same).1 (mark '!' (by decide))
  · rename_i same
    exact absurd (List.cons.inj same).1 (mark '!' (by decide))
  · rename_i same
    exact absurd (List.cons.inj same).1 (mark '!' (by decide))
  · rename_i same
    exact absurd (List.cons.inj same).1 (mark '?' (by decide))
  · rename_i same
    exact absurd (List.cons.inj same).1 (mark '/' (by decide))
  · rfl

theorem readMarkup_used {t rest : Text} {token : Token}
    (read : readMarkup t = .ok (token, rest)) :
    ∃ inner, t = inner ++ '>' :: rest ∧
      ∀ other, ∃ again, readMarkup (inner ++ '>' :: other) = .ok (again, other) ∧
        again.placeless = token.placeless := by
  unfold readMarkup at read
  split at read
  · obtain ⟨opened, word, read⟩ := bind_ok read
    obtain ⟨tail, skipped, done⟩ := bind_ok read
    simp only [Except.ok.injEq, Prod.mk.injEq] at done
    obtain ⟨rfl, rfl⟩ := done
    obtain ⟨rfl, reword⟩ := expectWord_used word
    obtain ⟨inner, rfl, again⟩ := skipComment_used skipped
    refine ⟨'!' :: '-' :: '-' :: (inner ++ ['-', '-']), by simp, fun other => ⟨.ignored, ?_, rfl⟩⟩
    have opens := reword ('<' :: '!' :: '-' :: '-' :: (inner ++ '-' :: '-' :: '>' :: other))
      (inner ++ '-' :: '-' :: '>' :: other)
    simp only [List.cons_append, List.append_assoc, List.nil_append] at opens ⊢
    simp only [readMarkup, opens, ok_bind, again]
  · obtain ⟨opened, word, read⟩ := bind_ok read
    obtain ⟨⟨value, tail⟩, valued, done⟩ := bind_ok read
    simp only [Except.ok.injEq, Prod.mk.injEq] at done
    obtain ⟨rfl, rfl⟩ := done
    obtain ⟨rfl, reword⟩ := expectWord_used word
    obtain ⟨inner, rfl, again⟩ := readCdata_used valued
    refine ⟨'!' :: '[' :: ("CDATA[".toList ++ (inner ++ [']', ']'])), by simp,
      fun other => ⟨.cdata value, ?_, rfl⟩⟩
    have opens := reword ('<' :: '!' :: '[' :: ("CDATA[".toList ++ (inner ++ ']' :: ']' :: '>' :: other)))
      (inner ++ ']' :: ']' :: '>' :: other)
    simp only [List.cons_append, List.append_assoc, List.nil_append]
    simp only [readMarkup, opens, ok_bind, again]
  · cases read
  · obtain ⟨⟨target, tail⟩, instruction, read⟩ := bind_ok read
    simp only at read
    split at read
    · cases read
    · rename_i permitted
      simp only [Except.ok.injEq, Prod.mk.injEq] at read
      obtain ⟨rfl, rfl⟩ := read
      obtain ⟨inner, rfl, again⟩ := readInstruction_used instruction
      refine ⟨'?' :: (inner ++ ['?']), by simp, fun other => ⟨.ignored, ?_, rfl⟩⟩
      simp only [List.cons_append, List.append_assoc, List.nil_append]
      simp only [readMarkup, again, ok_bind, if_neg permitted]
  · obtain ⟨⟨name, tail⟩, ended, done⟩ := bind_ok read
    simp only [Except.ok.injEq, Prod.mk.injEq] at done
    obtain ⟨rfl, rfl⟩ := done
    obtain ⟨inner, rfl, _, again⟩ := readEndTag_used ended
    refine ⟨'/' :: inner, rfl, fun other => ⟨.endTag name (inner ++ '>' :: other) other, ?_, rfl⟩⟩
    rw [List.cons_append, readMarkup, again]
    rfl
  · obtain ⟨⟨name, opened⟩, named, read⟩ := bind_ok read
    obtain ⟨⟨attributes, closed, tail⟩, listed, done⟩ := bind_ok read
    simp only [Except.ok.injEq, Prod.mk.injEq] at done
    obtain ⟨rfl, rfl⟩ := done
    obtain ⟨rfl, ⟨c, cs, rfl, start⟩, rename⟩ := readQualifiedName_used named
    obtain ⟨inner, rfl, again⟩ := readAttributes_used listed
    refine ⟨c :: cs ++ inner, by simp, fun other => ?_⟩
    obtain ⟨others, relisted, same, _⟩ := again ('<' :: (c :: cs ++ (inner ++ '>' :: other))) other
    refine ⟨.startTag (c :: cs) others closed ('<' :: (c :: cs ++ (inner ++ '>' :: other))), ?_, ?_⟩
    · have renamed := rename ('<' :: (c :: cs ++ (inner ++ '>' :: other))) (inner ++ '>' :: other)
        (by cases inner <;> rfl)
      rw [List.append_assoc, List.cons_append, readMarkup_startTag start]
      rw [List.cons_append] at renamed relisted
      rw [renamed, ok_bind]
      simp only [relisted, ok_bind]
    · simp [Token.placeless, same]

/-- What may follow a token that begins with `c` and takes nothing of `used` with it. -/
def Follows (c : Char) (used other : Text) : Prop :=
  used = [] → (c = '\r' → other.head? ≠ some '\n') ∧ (c = ']' → other.take 2 ≠ [']', '>'])

theorem readToken_used {c : Char} {r rest : Text} {token : Token}
    (read : readToken c r = .ok (token, rest)) :
    ∃ used, r = used ++ rest ∧ Follows c used rest ∧
      ∀ other, Follows c used other → ∃ again, readToken c (used ++ other) = .ok (again, other) ∧
        again.placeless = token.placeless := by
  unfold readToken at read
  split at read
  · rename_i opening
    obtain ⟨inner, rfl, again⟩ := readMarkup_used read
    refine ⟨inner ++ ['>'], by simp, fun none => by simp at none, fun other _ => ?_⟩
    rw [List.append_assoc, readToken, if_pos opening]
    exact again other
  · rename_i noMarkup
    split at read
    · rename_i ampersand
      obtain ⟨⟨reference, tail⟩, referred, read⟩ := bind_ok read
      obtain ⟨word, rfl, _, again⟩ := readReference_used referred
      simp only at read
      split at read
      · rename_i d known
        simp only [Except.ok.injEq, Prod.mk.injEq] at read
        obtain ⟨rfl, rfl⟩ := read
        refine ⟨word ++ [';'], by simp, fun none => by simp at none,
          fun other _ => ⟨.character d, ?_, rfl⟩⟩
        rw [List.append_assoc, readToken, if_neg noMarkup, if_pos ampersand]
        simp only [List.cons_append, List.nil_append, again, ok_bind, known]
      · cases read
    · rename_i plain
      split at read
      · rename_i lineEnd
        simp only [Except.ok.injEq, Prod.mk.injEq] at read
        obtain ⟨rfl, rfl⟩ := read
        split
        · rename_i feed
          obtain ⟨tail, rfl⟩ := List.head?_eq_some_iff.1 feed
          refine ⟨['\n'], rfl, fun none => by simp at none,
            fun other _ => ⟨.character '\n', ?_, rfl⟩⟩
          rw [readToken, if_neg noMarkup, if_neg plain, if_pos lineEnd]
          rfl
        · rename_i noFeed
          have follows : Follows c [] r := fun _ =>
            ⟨fun _ => noFeed, fun bracket => absurd (lineEnd.symm.trans bracket) (by decide)⟩
          refine ⟨[], rfl, follows, fun other follows => ⟨.character '\n', ?_, rfl⟩⟩
          rw [readToken, if_neg noMarkup, if_neg plain, if_pos lineEnd, List.nil_append,
            if_neg ((follows rfl).1 lineEnd)]
      · rename_i noLine
        split at read
        · cases read
        · rename_i noSection
          split at read
          · cases read
          · rename_i legal
            simp only [Except.ok.injEq, Prod.mk.injEq] at read
            obtain ⟨rfl, rfl⟩ := read
            have follows : Follows c [] r := fun _ =>
              ⟨fun lineEnd => absurd lineEnd noLine, fun bracket next => noSection ⟨bracket, next⟩⟩
            refine ⟨[], rfl, follows, fun other follows => ⟨.character c, ?_, rfl⟩⟩
            have apart : ¬ (c = ']' ∧ other.take 2 = [']', '>']) := fun both =>
              (follows rfl).2 both.1 both.2
            rw [readToken, if_neg noMarkup, if_neg plain, if_neg noLine, List.nil_append,
              if_neg apart, if_neg legal]

end DocReport.Markup

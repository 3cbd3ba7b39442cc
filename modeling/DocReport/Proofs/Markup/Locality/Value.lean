import DocReport.Markup.Token
import DocReport.Proofs.Text.Basic

/-!
Readers see no further than they read. What a reader takes off the front of a text it takes off
any text with the same front, with the same result but for the places that results keep, which are
texts up to the end. So a text can be exchanged behind a point without reading what stands before
it again.
-/
namespace DocReport.Markup

/-- A part of a value without its place. -/
def ValuePart.placeless : ValuePart → ValuePart
  | .character c => .character c
  | .reference target _ => .reference target []

theorem ok_bind {ε α β : Type} (x : α) (next : α → Except ε β) : (Except.ok x >>= next) = next x :=
  rfl

/-! ### References -/

theorem readNumber_digits {isDigit : Char → Bool} {digits : Text} (stop : isDigit ';' = false)
    (some : digits ≠ []) (all : ∀ c ∈ digits, isDigit c = true) (here : Text) (base : Nat)
    (rest : Text) :
    readNumber here isDigit base (digits ++ ';' :: rest) =
      .ok (.number (digitsValue base digits), rest) := by
  rw [readNumber, Text.dropWhile_run all stop, Text.takeWhile_run all stop]
  simp [some]

theorem readNumber_used {here t rest : Text} {isDigit : Char → Bool} {base : Nat}
    {reference : Reference} (stop : isDigit ';' = false)
    (read : readNumber here isDigit base t = .ok (reference, rest)) :
    ∃ digits, t = digits ++ ';' :: rest ∧ digits ≠ [] ∧ (∀ c ∈ digits, isDigit c = true) ∧
      ∀ there other, readNumber there isDigit base (digits ++ ';' :: other) =
        .ok (reference, other) := by
  unfold readNumber at read
  split at read
  · cases read
  · rename_i c tail same
    split at read
    · rename_i ended
      obtain ⟨rfl, some⟩ := ended
      simp only [Except.ok.injEq, Prod.mk.injEq] at read
      obtain ⟨rfl, rfl⟩ := read
      have digits : ∀ d ∈ t.takeWhile isDigit, isDigit d = true := fun _ => Text.mem_takeWhile
      exact ⟨t.takeWhile isDigit, (Text.run_of_dropWhile same).1, some, digits,
        fun there other => readNumber_digits stop some digits there base other⟩
    · cases read

/-- The two quotes. -/
def isQuote (c : Char) : Bool :=
  c == '"' || c == '\''

theorem not_quote_of_class {p : Char → Bool} (double : p '"' = false) (single : p '\'' = false)
    {c : Char} (member : p c = true) : isQuote c = false := by
  cases quote : isQuote c with
  | false => rfl
  | true =>
    simp only [isQuote, Bool.or_eq_true, beq_iff_eq] at quote
    rcases quote with rfl | rfl
    · simp [double] at member
    · simp [single] at member

theorem readReference_decimal {c : Char} (decimal : c ≠ 'x') (here r : Text) :
    readReference here ('#' :: c :: r) = readNumber here Char.isDigit 10 (c :: r) := by
  unfold readReference
  split
  · rename_i same
    cases same
  · rename_i same
    exact absurd (List.cons.inj (List.cons.inj same).2).1 decimal
  · rename_i same
    rw [(List.cons.inj same).2]
  · rename_i _ other same
    exact absurd (List.cons.inj same).1.symm other

theorem readReference_entity {c : Char} (start : isNameStart c = true) {name : Text}
    (inside : ∀ d ∈ name, isNameCharacter d = true) (here r : Text) :
    readReference here (c :: (name ++ ';' :: r)) = .ok (.entity (c :: name), r) := by
  have plain : c ≠ '#' := Text.ne_of_class start (by decide)
  unfold readReference
  split
  · rename_i same
    cases same
  · rename_i same
    exact absurd (List.cons.inj same).1 plain
  · rename_i same
    exact absurd (List.cons.inj same).1 plain
  · rename_i same
    obtain ⟨rfl, rfl⟩ := List.cons.inj same
    rw [if_pos start, Text.dropWhile_run inside (by decide), Text.takeWhile_run inside (by decide)]
    rfl

theorem readReference_used {here t rest : Text} {reference : Reference}
    (read : readReference here t = .ok (reference, rest)) :
    ∃ word, t = word ++ ';' :: rest ∧ (∀ c ∈ word, isQuote c = false) ∧
      ∀ there other, readReference there (word ++ ';' :: other) = .ok (reference, other) := by
  unfold readReference at read
  split at read
  · cases read
  · rename_i r
    obtain ⟨digits, rfl, _, all, again⟩ := readNumber_used (by decide) read
    refine ⟨'#' :: 'x' :: digits, rfl, ?_, fun there other => again there other⟩
    intro c member
    simp only [List.mem_cons] at member
    rcases member with rfl | rfl | digit
    · rfl
    · rfl
    · exact not_quote_of_class (by decide) (by decide) (all c digit)
  · rename_i r noHex
    obtain ⟨digits, rfl, some, all, again⟩ := readNumber_used (by decide) read
    obtain ⟨d, ds, rfl⟩ := List.exists_cons_of_ne_nil some
    have decimal : d ≠ 'x' := by
      rintro rfl
      exact noHex _ rfl
    refine ⟨'#' :: d :: ds, rfl, ?_, ?_⟩
    · intro c member
      rcases List.mem_cons.1 member with rfl | digit
      · rfl
      · exact not_quote_of_class (by decide) (by decide) (all c digit)
    · intro there other
      rw [← again there other]
      exact readReference_decimal decimal there _
  · rename_i c r _ _
    split at read
    · rename_i start
      split at read
      · cases read
      · rename_i d tail same
        split at read
        · rename_i ended
          subst ended
          simp only [Except.ok.injEq, Prod.mk.injEq] at read
          obtain ⟨rfl, rfl⟩ := read
          have name : ∀ d ∈ r.takeWhile isNameCharacter, isNameCharacter d = true :=
            fun _ => Text.mem_takeWhile
          refine ⟨c :: r.takeWhile isNameCharacter, ?_, ?_, ?_⟩
          · exact congrArg (c :: ·) (Text.run_of_dropWhile same).1
          · intro d member
            rcases List.mem_cons.1 member with rfl | inside
            · exact not_quote_of_class (by decide) (by decide) start
            · exact not_quote_of_class (by decide) (by decide) (name d inside)
          · intro there other
            exact readReference_entity start name there other
        · cases read
    · cases read

/-! ### Names and values -/

theorem readQualifiedName_simple {c : Char} {front other : Text} (start : isNameStart c = true)
    (inside : ∀ d ∈ front, isNameCharacter d = true)
    (ends : ∀ d, other.head? = some d → isNameCharacter d = false ∧ d ≠ ':') (here : Text) :
    readQualifiedName here (c :: (front ++ other)) = .ok (c :: front, other) := by
  have stop := fun d first => (ends d first).1
  rw [readQualifiedName, if_pos start, Text.dropWhile_append_stop inside stop,
    Text.takeWhile_append_stop inside stop]
  split
  · exact absurd rfl (ends ':' rfl).2
  · exact absurd rfl (ends ':' rfl).2
  · rfl

theorem readQualifiedName_prefixed {c d : Char} {front back other : Text}
    (start : isNameStart c = true) (inside : ∀ d ∈ front, isNameCharacter d = true)
    (second : isNameStart d = true) (behind : ∀ d ∈ back, isNameCharacter d = true)
    (ends : ∀ d, other.head? = some d → isNameCharacter d = false) (here : Text) :
    readQualifiedName here (c :: (front ++ ':' :: d :: (back ++ other))) =
      .ok (c :: front ++ ':' :: d :: back, other) := by
  have colon : isNameCharacter ':' = false := by decide
  rw [readQualifiedName, if_pos start]
  simp only [Text.dropWhile_run inside colon, Text.takeWhile_run inside colon, if_pos second,
    Text.dropWhile_append_stop behind ends, Text.takeWhile_append_stop behind ends]

/-- A qualified name ends where the next character cannot go on with it, so only that character
counts of what follows. -/
theorem readQualifiedName_used {here t name rest : Text}
    (read : readQualifiedName here t = .ok (name, rest)) :
    t = name ++ rest ∧ (∃ c cs, name = c :: cs ∧ isNameStart c = true) ∧
      ∀ there other, other.head? = rest.head? →
        readQualifiedName there (name ++ other) = .ok (name, other) := by
  unfold readQualifiedName at read
  split at read
  · cases read
  · rename_i c r
    split at read
    · rename_i start
      have front : ∀ d ∈ r.takeWhile isNameCharacter, isNameCharacter d = true :=
        fun _ => Text.mem_takeWhile
      simp only at read
      split at read
      · rename_i d s same
        split at read
        · rename_i second
          simp only [Except.ok.injEq, Prod.mk.injEq] at read
          obtain ⟨rfl, rfl⟩ := read
          refine ⟨?_, ⟨c, _, rfl, start⟩, ?_⟩
          · have split := (Text.run_of_dropWhile same).1
            simp only [List.cons_append, List.append_assoc, List.takeWhile_append_dropWhile]
            rw [← split]
          · intro there other next
            have behind : ∀ e ∈ s.takeWhile isNameCharacter, isNameCharacter e = true :=
              fun _ => Text.mem_takeWhile
            have read := readQualifiedName_prefixed start front second behind
              (fun e first => Text.stop_of_dropWhile isNameCharacter s e (next ▸ first)) there
            simpa using read
        · cases read
      · cases read
      · rename_i noColon noLast
        simp only [Except.ok.injEq, Prod.mk.injEq] at read
        obtain ⟨rfl, rfl⟩ := read
        refine ⟨?_, ⟨c, _, rfl, start⟩, ?_⟩
        · rw [List.cons_append, List.takeWhile_append_dropWhile]
        · intro there other next
          apply readQualifiedName_simple start front
          intro e first
          rw [next] at first
          refine ⟨Text.stop_of_dropWhile isNameCharacter r e first, ?_⟩
          rintro rfl
          obtain ⟨tail, same⟩ := List.head?_eq_some_iff.1 first
          cases tail with
          | nil => exact noLast same
          | cons f fs => exact noColon f fs same
    · cases read

theorem readValue_quote {quote : Char} (isMark : isQuote quote = true) (here r : Text) :
    readValue here quote (quote :: r) = .ok ([], r) := by
  have plain : quote ≠ '\r' := Text.ne_of_class isMark (by decide)
  unfold readValue
  split
  · rename_i same
    cases same
  · rename_i same
    exact absurd (List.cons.inj same).1 plain
  · rename_i same
    obtain ⟨rfl, rfl⟩ := List.cons.inj same
    rw [if_pos rfl]

theorem readValue_reference {quote : Char} (isMark : isQuote quote = true) {here r after : Text}
    {reference : Reference} (step : readReference here r = .ok (reference, after)) :
    readValue here quote ('&' :: r) = (do
      let (parts, rest) ← readValue here quote after
      .ok (.reference reference ('&' :: r) :: parts, rest)) := by
  have plain : '&' ≠ quote := (Text.ne_of_class isMark (by decide)).symm
  rw [readValue.eq_def]
  split
  · rename_i same
    cases same
  · rename_i same
    exact absurd (List.cons.inj same).1 (by decide)
  · rename_i same
    obtain ⟨rfl, rfl⟩ := List.cons.inj same
    rw [if_neg plain, if_pos rfl]
    split
    · rename_i failed
      rw [step] at failed
      cases failed
    · rename_i found
      rw [step] at found
      cases found
      rfl

theorem readValue_character {quote c : Char} (inside : c ≠ quote) (plain : c ≠ '&')
    (legal : ¬ (c = '<' ∨ isForbidden c = true)) {r : Text}
    (line : c = '\r' → r.head? ≠ some '\n') (here : Text) :
    readValue here quote (c :: r) = (do
      let (parts, rest) ← readValue here quote r
      .ok (.character (if isSpace c then ' ' else c) :: parts, rest)) := by
  rw [readValue.eq_def]
  split
  · rename_i same
    cases same
  · rename_i same
    obtain ⟨rfl, rfl⟩ := List.cons.inj same
    exact absurd rfl (line rfl)
  · rename_i same
    obtain ⟨rfl, rfl⟩ := List.cons.inj same
    rw [if_neg inside, if_neg plain, if_neg legal]

theorem not_mem_of_not_quote {quote : Char} (isMark : isQuote quote = true) {t : Text}
    (plain : ∀ c ∈ t, isQuote c = false) : quote ∉ t := by
  intro member
  simp [plain quote member] at isMark

/-- A value ends at the first closing quote: references hold none. -/
theorem readValue_used {here t rest : Text} {quote : Char} {parts : List ValuePart}
    (isMark : isQuote quote = true) (read : readValue here quote t = .ok (parts, rest)) :
    ∃ inner, t = inner ++ quote :: rest ∧ quote ∉ inner ∧
      ∀ there other, ∃ others, readValue there quote (inner ++ quote :: other) =
          .ok (others, other) ∧
        others.map ValuePart.placeless = parts.map ValuePart.placeless ∧
        (other = rest → others = parts) := by
  fun_induction readValue here quote t generalizing parts rest with
  | case1 => cases read
  | case2 r ih =>
    obtain ⟨⟨inside, tail⟩, step, done⟩ := bind_ok read
    simp only [Except.ok.injEq, Prod.mk.injEq] at done
    obtain ⟨rfl, rfl⟩ := done
    obtain ⟨inner, rfl, absent, again⟩ := ih step
    refine ⟨'\r' :: '\n' :: inner, rfl, ?_, ?_⟩
    · have lineEnd : quote ∉ ['\r', '\n'] := not_mem_of_not_quote isMark (by simp [isQuote])
      simp only [List.mem_cons, List.not_mem_nil, or_false, not_or] at lineEnd ⊢
      exact ⟨lineEnd.1, lineEnd.2, absent⟩
    · intro there other
      obtain ⟨others, value, same, back⟩ := again there other
      refine ⟨.character ' ' :: others, ?_, by simp [same], fun whole => by rw [back whole]⟩
      rw [List.cons_append, List.cons_append, readValue, value]
      rfl
  | case3 r =>
    simp only [Except.ok.injEq, Prod.mk.injEq] at read
    obtain ⟨rfl, rfl⟩ := read
    exact ⟨[], rfl, by simp,
      fun there other => ⟨[], readValue_quote isMark there other, rfl, fun _ => rfl⟩⟩
  | case4 => cases read
  | case5 r reference after step _ notQuote ih =>
    obtain ⟨⟨inside, tail⟩, valued, done⟩ := bind_ok read
    simp only [Except.ok.injEq, Prod.mk.injEq] at done
    obtain ⟨rfl, rfl⟩ := done
    obtain ⟨inner, rfl, absent, again⟩ := ih valued
    obtain ⟨word, rfl, plain, referred⟩ := readReference_used step
    refine ⟨'&' :: (word ++ ';' :: inner), by simp, ?_, ?_⟩
    · have noMark : quote ∉ word := not_mem_of_not_quote isMark plain
      have ends : quote ≠ ';' := Text.ne_of_class isMark (by decide)
      simp only [List.mem_cons, List.mem_append, not_or]
      exact ⟨Ne.symm notQuote, noMark, ends, absent⟩
    · intro there other
      obtain ⟨others, value, same, back⟩ := again there other
      refine ⟨.reference reference ('&' :: (word ++ ';' :: (inner ++ quote :: other))) :: others,
        ?_, by simp [same, ValuePart.placeless], fun whole => by rw [back whole, whole]⟩
      have step := referred there (inner ++ quote :: other)
      simp only [List.cons_append, List.append_assoc]
      rw [readValue_reference isMark step, value]
      rfl
  | case6 => cases read
  | case7 c r notEnd notQuote plain legal ih =>
    obtain ⟨⟨inside, tail⟩, valued, done⟩ := bind_ok read
    simp only [Except.ok.injEq, Prod.mk.injEq] at done
    obtain ⟨rfl, rfl⟩ := done
    obtain ⟨inner, rfl, absent, again⟩ := ih valued
    refine ⟨c :: inner, rfl, ?_, ?_⟩
    · simp only [List.mem_cons, not_or]
      exact ⟨Ne.symm notQuote, absent⟩
    · intro there other
      obtain ⟨others, value, same, back⟩ := again there other
      refine ⟨.character (if isSpace c then ' ' else c) :: others, ?_, by simp [same],
        fun whole => by rw [back whole]⟩
      have line : c = '\r' → (inner ++ quote :: other).head? ≠ some '\n' := by
        intro lineEnd feed
        cases inner with
        | nil =>
          have quoted : quote = '\n' := by simpa using feed
          exact Text.ne_of_class isMark (by decide) quoted
        | cons d ds =>
          have first : d = '\n' := by simpa using feed
          exact notEnd (ds ++ quote :: tail) lineEnd (by rw [first]; rfl)
      rw [List.cons_append, readValue_character notQuote plain legal line, value]
      rfl

end DocReport.Markup

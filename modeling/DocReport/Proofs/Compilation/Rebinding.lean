import DocReport.Proofs.Compilation.BoundMarkup
import DocReport.Proofs.Compilation.BraceSpelling

/-!
Binding references a second time changes nothing. Values between quotes are exchanged, so the
references of a bound fragment have to be found again at the places where they were. This rests on
quotes alone: up to its first quote a text stays as it is, and no quote is new behind it. So what
could not be read as a reference before cannot be read as one afterwards, and what could be read
ends at the same quote. A documentation ID carries a marker, and what is left unbound is unbound
again.
-/
namespace DocReport.Compilation

open DocReport.Symbol DocReport.Markup

/-! ### Texts that are alike up to a quote -/

/-- Two texts that are the same up to their first quote, where the second has no quote behind it
that the first has not. -/
inductive SameFront : Text → Text → Prop where
  | nil : SameFront [] []
  | quote {mark : Char} {s t : Text} (isMark : isQuote mark = true)
      (known : ∀ c ∈ t, isQuote c = true → c ∈ s) : SameFront (mark :: s) (mark :: t)
  | cons {s t : Text} (c : Char) (same : SameFront s t) : SameFront (c :: s) (c :: t)

namespace SameFront

variable {s t : Text}

theorem append (same : SameFront s t) (front : Text) : SameFront (front ++ s) (front ++ t) := by
  induction front with
  | nil => exact same
  | cons c front ih => exact .cons c ih

/-- No quote is new. -/
theorem quote_mem (same : SameFront s t) {c : Char} (member : c ∈ t) (isMark : isQuote c = true) :
    c ∈ s := by
  induction same with
  | nil => cases member
  | quote _ known =>
    rcases List.mem_cons.1 member with rfl | later
    · exact List.mem_cons_self
    · exact List.mem_cons_of_mem _ (known c later isMark)
  | cons d _ ih =>
    rcases List.mem_cons.1 member with rfl | later
    · exact List.mem_cons_self
    · exact List.mem_cons_of_mem _ (ih later)

/-- What stands before the first quote stands there in both texts. -/
theorem exists_front (same : SameFront s t) {front rest : Text} {mark : Char}
    (plain : ∀ c ∈ front, isQuote c = false) (isMark : isQuote mark = true)
    (whole : t = front ++ mark :: rest) :
    ∃ others, s = front ++ mark :: others ∧ ∀ c ∈ rest, isQuote c = true → c ∈ others := by
  induction same generalizing front with
  | nil => simp at whole
  | @quote first s t isFirst known =>
    cases front with
    | nil =>
      obtain ⟨rfl, rfl⟩ := List.cons.inj whole
      exact ⟨s, rfl, known⟩
    | cons c front =>
      obtain ⟨rfl, _⟩ := List.cons.inj whole
      exact absurd isFirst (by simp [plain first List.mem_cons_self])
  | @cons s t c behind ih =>
    cases front with
    | nil =>
      obtain ⟨rfl, rfl⟩ := List.cons.inj whole
      exact ⟨s, rfl, fun _ member => behind.quote_mem member⟩
    | cons d front =>
      obtain ⟨rfl, tail⟩ := List.cons.inj whole
      have plain' := fun e member => plain e (List.mem_cons_of_mem _ member)
      obtain ⟨others, rfl, known⟩ := ih plain' tail
      exact ⟨others, rfl, known⟩

/-- Where no reference could be read, none can be read now: what opens a reference ends with its
first quote, and a quote that closes it was there before. -/
theorem unreadable (same : SameFront s t) (closed : readReferencePart? s = none) :
    readReferencePart? t = none := by
  rw [Option.eq_none_iff_forall_ne_some]
  rintro ⟨part, rest⟩ read
  obtain ⟨gap, after, quote, target, blanks, others, isMark, _, rfl, whole⟩ :=
    readReferencePart?_eq_some_iff.1 read
  have plain : ∀ c ∈ referenceName ++ (gap ++ '=' :: after), isQuote c = false := by
    have named : (referenceName ++ ['=']).all (fun c => !isQuote c) = true := by decide
    intro c member
    by_cases blank : c ∈ gap ∨ c ∈ after
    · exact not_quote_of_class (by decide) (by decide) (blank.elim (blanks c) (others c))
    · have inName : c ∈ referenceName ++ ['='] := by
        rw [not_or] at blank
        simpa [blank.1, blank.2] using member
      simpa using List.all_eq_true.1 named c inName
  have opened :
      t = referenceName ++ (gap ++ '=' :: after) ++ quote :: (target ++ quote :: rest) := by
    rw [whole, FragmentPart.text]
    simp
  obtain ⟨behind, rfl, known⟩ := same.exists_front plain isMark opened
  have closes : quote ∈ behind := known quote (by simp) isMark
  obtain ⟨value, tail, rfl, absent⟩ := List.eq_append_cons_of_mem closes
  have again := readReferencePart?_written blanks others isMark absent tail
  simp only [FragmentPart.text, List.append_assoc, List.cons_append, List.nil_append]
    at again closed
  rw [closed] at again
  cases again

end SameFront

/-! ### Fragments with other values -/

section Steps

variable {before : Option Char}

theorem fragmentParts_in_word (inWord : before.any Text.isWordCharacter = true) (c : Char)
    (r : Text) : fragmentParts before (c :: r) = .plain c :: fragmentParts (some c) r := by
  rw [fragmentParts, if_pos inWord]

theorem fragmentParts_unread (atStart : ¬ before.any Text.isWordCharacter = true) {c : Char}
    {r : Text} (closed : readReferencePart? (c :: r) = none) :
    fragmentParts before (c :: r) = .plain c :: fragmentParts (some c) r := by
  rw [fragmentParts, if_neg atStart]
  split
  · rfl
  · rename_i read
    rw [closed] at read
    cases read

theorem fragmentParts_read (atStart : ¬ before.any Text.isWordCharacter = true) {t rest : Text}
    {part : FragmentPart} (read : readReferencePart? t = some (part, rest)) :
    fragmentParts before t = part :: fragmentParts part.text.getLast? rest := by
  cases t with
  | nil => cases read
  | cons c r =>
    rw [fragmentParts, if_neg atStart]
    split
    · rename_i closed
      rw [read] at closed
      cases closed
    · rename_i again
      rw [read] at again
      cases again
      rfl

end Steps

theorem written_plain (c : Char) (rest : List FragmentPart) :
    FragmentPart.written (.plain c :: rest) = c :: FragmentPart.written rest := rfl

theorem getLast?_reference (opening : Text) (quote : Char) (target : Text) :
    (FragmentPart.reference opening quote target).text.getLast? = some quote := by
  rw [FragmentPart.text, List.getLast?_concat]

section Rewritten

variable {b : Text → Text} (quotes : ∀ target, ∀ c ∈ b target, isQuote c = true → c ∈ target)

include quotes

theorem sameFront_rewritten (before : Option Char) (t : Text) :
    SameFront t (FragmentPart.written ((fragmentParts before t).map (·.rewrite b))) := by
  fun_induction fragmentParts before t with
  | case1 => exact .nil
  | case2 before c r _ ih => exact .cons c ih
  | case3 before c r _ _ ih => exact .cons c ih
  | case4 before c r _ part rest step ih =>
    obtain ⟨gap, after, quote, target, _, _, isMark, _, rfl, whole⟩ :=
      readReferencePart?_eq_some_iff.1 step
    have front : ∀ value others : Text,
        (FragmentPart.reference (referenceName ++ (gap ++ '=' :: after)) quote value).text ++
            others =
          (referenceName ++ (gap ++ '=' :: after)) ++ quote :: (value ++ quote :: others) := by
      simp [FragmentPart.text]
    rw [whole, List.map_cons, FragmentPart.written_cons, FragmentPart.rewrite, front, front]
    refine (SameFront.quote isMark fun c member mark => ?_).append _
    rw [List.mem_append, List.mem_cons] at member ⊢
    rcases member with value | closing | later
    · exact Or.inl (quotes target c value mark)
    · exact Or.inr (Or.inl closing)
    · exact Or.inr (Or.inr (ih.quote_mem later mark))

/-- The references of a fragment are found at the same places after their values are exchanged, as
long as no value has a quote that was not there. -/
theorem fragmentParts_rewritten (before : Option Char) (t : Text) :
    fragmentParts before (FragmentPart.written ((fragmentParts before t).map (·.rewrite b))) =
      (fragmentParts before t).map (·.rewrite b) := by
  fun_induction fragmentParts before t with
  | case1 => rw [List.map_nil, FragmentPart.written, List.flatMap_nil, fragmentParts]
  | case2 before c r inWord ih =>
    rw [List.map_cons, FragmentPart.rewrite, written_plain, fragmentParts_in_word inWord, ih]
  | case3 before c r atStart closed ih =>
    have front := SameFront.cons c (sameFront_rewritten quotes (some c) r)
    rw [List.map_cons, FragmentPart.rewrite, written_plain,
      fragmentParts_unread atStart (front.unreadable closed), ih]
  | case4 before c r atStart part rest step ih =>
    obtain ⟨gap, after, quote, target, blanks, others, isMark, absent, rfl, _⟩ :=
      readReferencePart?_eq_some_iff.1 step
    have stillAbsent : quote ∉ b target := fun member => absent (quotes target quote member isMark)
    rw [getLast?_reference] at ih ⊢
    rw [List.map_cons, FragmentPart.written_cons, FragmentPart.rewrite,
      fragmentParts_read atStart (readReferencePart?_written blanks others isMark stillAbsent _),
      getLast?_reference, ih]

end Rewritten

/-! ### Values that are bound -/

/-- A reference stays as it is or becomes the ID of a declaration, without a note in that case. -/
theorem bind_cases (files : List SourceFile) (reference : Text) (d : Declaration) :
    (bind (Index.ofFiles files) reference d).value = reference ∨
      ∃ x ∈ declarations files,
        bind (Index.ofFiles files) reference d = pure (documentationId x) := by
  unfold bind
  split
  · exact Or.inl rfl
  · rw [resolve?_ofFiles]
    cases found : search? files (scopes d) (lookupName (Text.trim (unescape reference))) with
    | none => exact Or.inl rfl
    | some x => exact Or.inr ⟨x, (goesBy_of_search found).1, rfl⟩

/-- A bound reference is bound to itself: an ID has a marker, and what named nothing names nothing
the second time either. -/
theorem bind_bind (files : List SourceFile) (reference : Text) (d : Declaration) :
    bind (Index.ofFiles files) (bind (Index.ofFiles files) reference d).value d =
      bind (Index.ofFiles files) reference d := by
  rcases bind_cases files reference d with unchanged | ⟨x, _, bound⟩
  · rw [unchanged]
  · rw [bound, Logged.value_pure, bind, hasMarker_documentationId, if_pos rfl]

theorem quote_mem_of_bind {files : List SourceFile}
    (quoteless : ∀ x ∈ declarations files, '"' ∉ documentationId x ∧ '\'' ∉ documentationId x)
    (d : Declaration) (reference : Text) :
    ∀ c ∈ (bind (Index.ofFiles files) reference d).value, isQuote c = true → c ∈ reference := by
  intro c member isMark
  rcases bind_cases files reference d with unchanged | ⟨x, belongs, bound⟩
  · rwa [unchanged] at member
  · rw [bound, Logged.value_pure] at member
    simp only [isQuote, Bool.or_eq_true, beq_iff_eq] at isMark
    rcases isMark with rfl | rfl
    · exact absurd member (quoteless x belongs).1
    · exact absurd member (quoteless x belongs).2

/-- Bound parts are bound to themselves, with the same notes on what names nothing. -/
theorem bindParts_rewritten (files : List SourceFile) (d : Declaration)
    (parts : List FragmentPart) :
    bindParts (Index.ofFiles files) d
        (parts.map (·.rewrite fun target => (bind (Index.ofFiles files) target d).value)) =
      bindParts (Index.ofFiles files) d parts := by
  induction parts with
  | nil => rfl
  | cons part rest ih =>
    rw [List.map_cons, bindParts, bindParts, ih]
    cases part with
    | plain c => rfl
    | reference opening quote target =>
      rw [FragmentPart.rewrite, bindPart, bind_bind, bindPart]

/-- Binding is idempotent, on every text: the references of a bound fragment are those of the
fragment itself, in the same places and each with the value it is bound to, and binding them again
gives the same text with the same notes. -/
theorem binding_again_changes_nothing (files : List SourceFile) (d : Declaration) (fragment : Text)
    (quoteless : ∀ x ∈ declarations files, '"' ∉ documentationId x ∧ '\'' ∉ documentationId x) :
    let index := Index.ofFiles files
    let bound := (bindFragment index d fragment).value
    fragmentParts none bound =
        (fragmentParts none fragment).map (·.rewrite fun target => (bind index target d).value) ∧
      bindFragment index d bound = bindFragment index d fragment := by
  intro index bound
  have found : fragmentParts none bound =
      (fragmentParts none fragment).map (·.rewrite fun target => (bind index target d).value) := by
    change fragmentParts none (bindParts index d (fragmentParts none fragment)).value = _
    rw [bindParts_value]
    exact fragmentParts_rewritten (quote_mem_of_bind quoteless d) none fragment
  refine ⟨found, ?_⟩
  rw [bindFragment, found, bindParts_rewritten, bindFragment]

/-- A compilation with one method. -/
def pairFiles : List SourceFile :=
  [⟨"Pairs.cs".toList, [addition "short".toList []]⟩]

/-- A reference behind the opening of another one that no quote closes. -/
def nestedOpenings : Text :=
  "cref=\"cref='Add'".toList

theorem binding_again_changes_nothing_nested :
    (∀ x ∈ declarations pairFiles, '"' ∉ documentationId x ∧ '\'' ∉ documentationId x) ∧
    (bindFragment (Index.ofFiles pairFiles) (addition "short".toList []) nestedOpenings).value =
      "cref=\"cref='M:Pairs.Add(System.Int16)'".toList ∧
    bindFragment (Index.ofFiles pairFiles) (addition "short".toList [])
        (bindFragment (Index.ofFiles pairFiles) (addition "short".toList []) nestedOpenings).value =
      bindFragment (Index.ofFiles pairFiles) (addition "short".toList []) nestedOpenings := by
  have quoteless :
      ∀ x ∈ declarations pairFiles, '"' ∉ documentationId x ∧ '\'' ∉ documentationId x := by
    decide +kernel
  exact ⟨quoteless, by decide +kernel,
    (binding_again_changes_nothing pairFiles (addition "short".toList []) nestedOpenings
      quoteless).2⟩

end DocReport.Compilation

import DocReport.Proofs.Text.Edges
import Mathlib.Data.List.SplitBy

/-!
Words and the white space between them. A text that has anything visible is a phrase between white
space at its ends: a word, then gaps and words in turn. The phrase is all that its runs of visible
and of white characters tell, so it can be read back from the text.
-/
namespace DocReport.Text

/-- Visible characters without a gap. -/
structure IsWord (t : Text) : Prop where
  nonempty : t ≠ []
  visible : ∀ c ∈ t, isBlank c = false

/-- White space, and some of it. -/
structure IsSpace (t : Text) : Prop where
  nonempty : t ≠ []
  white : IsGap t

/-- A word, then gaps and words in turn. -/
inductive Phrase : List Text → Prop where
  | word {word : Text} (own : IsWord word) : Phrase [word]
  | more {word gap : Text} {rest : List Text} (own : IsWord word) (space : IsSpace gap)
      (behind : Phrase rest) : Phrase (word :: gap :: rest)

/-- The runs of visible and of white characters in a text, in turn, each as long as it can be. -/
def runs (t : Text) : List Text :=
  t.splitBy fun c d => isBlank c == isBlank d

theorem IsWord.head {word : Text} (own : IsWord word) :
    ∃ c r, word = c :: r ∧ isBlank c = false := by
  obtain ⟨c, r, rfl⟩ := List.exists_cons_of_ne_nil own.nonempty
  exact ⟨c, r, rfl, own.visible c List.mem_cons_self⟩

theorem IsWord.last {word : Text} (own : IsWord word) :
    ∃ r c, word = r ++ [c] ∧ isBlank c = false := by
  refine ⟨_, _, (List.dropLast_concat_getLast own.nonempty).symm, ?_⟩
  exact own.visible _ (List.getLast_mem own.nonempty)

/-- Nothing is trimmed from a text that begins and ends visibly. -/
theorem trim_of_visible_ends {t : Text} (first : ∀ c, t.head? = some c → isBlank c = false)
    (last : ∀ c, t.getLast? = some c → isBlank c = false) : trim t = t := by
  have start : trimStart t = t := by
    cases t with
    | nil => rfl
    | cons c r => exact List.dropWhile_cons_of_neg (by simp [first c rfl])
  rw [trim, start]
  cases t using List.reverseRecOn with
  | nil => rfl
  | append_singleton r c => exact trimEnd_concat (last c List.getLast?_concat) r

/-- Only what stands behind visible text is trimmed. -/
theorem trim_append_visible {c d : Char} (first : isBlank c = false) (visible : isBlank d = false)
    (s t : Text) : trim (c :: s ++ d :: t) = c :: s ++ trim (d :: t) := by
  have start : ∀ {e : Char} (r : Text), isBlank e = false → trimStart (e :: r) = e :: r :=
    fun r seen => List.dropWhile_cons_of_neg (by simp [seen])
  have inner : trim (d :: t) = d :: trimEnd t := by
    rw [trim, start t visible, trimEnd]
    exact dropTail_append_kept visible [] t
  rw [inner, trim, List.cons_append, start _ first, trimEnd, ← List.cons_append,
    dropTail_append_kept visible, trimEnd]

/-- Characters of one class make one run. -/
theorem runs_of_class {t : Text} (some : t ≠ []) {white : Bool}
    (inside : ∀ c ∈ t, isBlank c = white) : runs t = [t] := by
  apply List.splitBy_of_isChain some
  apply List.Pairwise.isChain
  apply List.pairwise_of_forall_mem_list
  intro c first d second
  simp [inside c first, inside d second]

/-- A run ends where the class of characters changes. -/
theorem runs_append {s t : Text} {white : Bool} (inside : ∀ c ∈ s, isBlank c = white)
    (outside : ∀ c, t.head? = some c → isBlank c = !white) : runs (s ++ t) = runs s ++ runs t := by
  apply List.splitBy_append
  intro c last d first
  have own : isBlank c = white := inside c (List.mem_of_mem_getLast? last)
  have other : isBlank d = !white := outside d first
  simp [own, other]

namespace Phrase

variable {phrase : List Text}

theorem head (own : Phrase phrase) : ∃ c r, phrase.flatten = c :: r ∧ isBlank c = false := by
  cases own with
  | word own =>
    obtain ⟨c, r, rfl, visible⟩ := own.head
    exact ⟨c, r, by simp, visible⟩
  | more own _ _ =>
    obtain ⟨c, r, rfl, visible⟩ := own.head
    exact ⟨c, _, rfl, visible⟩

theorem last (own : Phrase phrase) : ∃ r c, phrase.flatten = r ++ [c] ∧ isBlank c = false := by
  induction own with
  | word own =>
    obtain ⟨r, c, rfl, visible⟩ := own.last
    exact ⟨r, c, by simp, visible⟩
  | @more word gap rest _ _ _ ih =>
    obtain ⟨r, c, same, visible⟩ := ih
    refine ⟨word ++ gap ++ r, c, ?_, visible⟩
    simp [same]

theorem trim_flatten (own : Phrase phrase) : trim phrase.flatten = phrase.flatten := by
  obtain ⟨c, r, front, visible⟩ := own.head
  obtain ⟨s, d, back, visible'⟩ := own.last
  apply trim_of_visible_ends
  · intro e first
    rw [front] at first
    exact Option.some.inj first ▸ visible
  · intro e last
    rw [back, List.getLast?_concat] at last
    exact Option.some.inj last ▸ visible'

/-- The runs of a phrase are its words and gaps. -/
theorem runs_flatten (own : Phrase phrase) : runs phrase.flatten = phrase := by
  induction own with
  | @word word own =>
    rw [List.flatten_singleton]
    exact runs_of_class own.nonempty own.visible
  | @more word gap rest own space behind ih =>
    have afterGap : runs (gap ++ rest.flatten) = runs gap ++ runs rest.flatten := by
      apply runs_append space.white
      obtain ⟨c, r, front, visible⟩ := behind.head
      rw [front]
      exact fun d first => Option.some.inj first ▸ visible
    have afterWord : runs (word ++ (gap ++ rest.flatten)) =
        runs word ++ runs (gap ++ rest.flatten) := by
      apply runs_append own.visible
      obtain ⟨c, r, rfl⟩ := List.exists_cons_of_ne_nil space.nonempty
      exact fun d first => Option.some.inj first ▸ space.white c List.mem_cons_self
    rw [List.flatten_cons, List.flatten_cons, afterWord, afterGap, ih,
      runs_of_class own.nonempty own.visible, runs_of_class space.nonempty space.white]
    rfl

/-- A visible character in front belongs to the first word. -/
theorem exists_cons (own : Phrase phrase) {c : Char} (visible : isBlank c = false) :
    ∃ longer, Phrase longer ∧ longer.flatten = c :: phrase.flatten := by
  have longerWord : ∀ {word : Text}, IsWord word → IsWord (c :: word) := fun own =>
    ⟨List.cons_ne_nil _ _, List.forall_mem_cons.2 ⟨visible, own.visible⟩⟩
  cases own with
  | word own => exact ⟨_, .word (longerWord own), rfl⟩
  | more own space behind => exact ⟨_, .more (longerWord own) space behind, rfl⟩

end Phrase

/-- A text is white, or a phrase between white space. -/
theorem exists_phrase (t : Text) :
    IsGap t ∨ ∃ start phrase stop, IsGap start ∧ Phrase phrase ∧ IsGap stop ∧
      t = start ++ phrase.flatten ++ stop := by
  induction t with
  | nil => exact Or.inl isGap_nil
  | cons c r ih =>
    cases blank : isBlank c with
    | true =>
      refine ih.imp (fun white => List.forall_mem_cons.2 ⟨blank, white⟩) ?_
      rintro ⟨start, phrase, stop, before, own, after, rfl⟩
      exact ⟨c :: start, phrase, stop, List.forall_mem_cons.2 ⟨blank, before⟩, own, after, rfl⟩
    | false =>
      have single : IsWord [c] := ⟨by simp, by simpa using blank⟩
      right
      rcases ih with white | ⟨start, phrase, stop, before, own, after, rfl⟩
      · exact ⟨[], [[c]], r, isGap_nil, .word single, white, rfl⟩
      · by_cases adjacent : start = []
        · obtain ⟨longer, own, same⟩ := own.exists_cons blank
          refine ⟨[], longer, stop, isGap_nil, own, after, ?_⟩
          rw [same, adjacent]
          rfl
        · have longer : Phrase ([c] :: start :: phrase) := .more single ⟨adjacent, before⟩ own
          exact ⟨[], [c] :: start :: phrase, stop, isGap_nil, longer, after, by simp⟩

end DocReport.Text

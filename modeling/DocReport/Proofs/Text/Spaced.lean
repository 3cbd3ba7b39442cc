import DocReport.Proofs.Text.Cut
import Mathlib.Data.List.Forall2

/-!
Texts that spell a row of tokens with any number of spaces around each of them, and how such a text
comes apart again where its tokens do.
-/
namespace DocReport.Text

/-- Spaces only. -/
def IsSpaces (t : Text) : Prop :=
  ∀ c ∈ t, c = ' '

theorem IsSpaces.append {s t : Text} (first : IsSpaces s) (second : IsSpaces t) :
    IsSpaces (s ++ t) := by
  intro c member
  rcases List.mem_append.1 member with left | right
  · exact first c left
  · exact second c right

theorem IsSpaces.isGap {t : Text} (spaces : IsSpaces t) : IsGap t := by
  intro c member
  rw [spaces c member]
  decide

/-- The tokens in order, with spaces before the first, between any two and behind the last. -/
inductive Spaced : List Text → Text → Prop where
  | nil {gap : Text} (spaces : IsSpaces gap) : Spaced [] gap
  | cons {gap token rest : Text} {tokens : List Text} (spaces : IsSpaces gap)
      (behind : Spaced tokens rest) : Spaced (token :: tokens) (gap ++ token ++ rest)

/-- The tokens in order, each behind as many spaces as the next number says. Where the numbers end,
no more spaces follow. -/
def spread : List Nat → List Text → Text
  | gaps, [] => List.replicate (gaps.headD 0) ' '
  | gaps, token :: tokens =>
    List.replicate (gaps.headD 0) ' ' ++ token ++ spread gaps.tail tokens

theorem spaced_spread (gaps : List Nat) (tokens : List Text) :
    Spaced tokens (spread gaps tokens) := by
  have spaces : ∀ n, IsSpaces (List.replicate n ' ') := fun _ _ member =>
    List.eq_of_mem_replicate member
  induction tokens generalizing gaps with
  | nil => exact .nil (spaces _)
  | cons token tokens ih => exact .cons (spaces _) (ih gaps.tail)

namespace Spaced

variable {tokens : List Text} {s gap : Text}

theorem gap_append (spaces : IsSpaces gap) (spaced : Spaced tokens s) :
    Spaced tokens (gap ++ s) := by
  cases spaced with
  | nil own => exact .nil (spaces.append own)
  | cons own behind =>
    rw [List.append_assoc, ← List.append_assoc, ← List.append_assoc]
    exact .cons (spaces.append own) behind

theorem append_gap (spaced : Spaced tokens s) (spaces : IsSpaces gap) :
    Spaced tokens (s ++ gap) := by
  induction spaced with
  | nil own => exact .nil (own.append spaces)
  | cons own _ ih =>
    rw [List.append_assoc]
    exact .cons own ih

theorem append {others : List Text} {t : Text} (spaced : Spaced tokens s)
    (behind : Spaced others t) : Spaced (tokens ++ others) (s ++ t) := by
  induction spaced with
  | nil spaces => exact behind.gap_append spaces
  | cons spaces _ ih =>
    rw [List.append_assoc]
    exact .cons spaces ih

/-- A token alone. -/
theorem single (token : Text) : Spaced [token] token := by
  have nothing : IsSpaces [] := by simp [IsSpaces]
  have bare : Spaced [token] ([] ++ token ++ []) := .cons nothing (.nil nothing)
  simpa using bare

/-- Every character is a space or belongs to a token. -/
theorem mem (spaced : Spaced tokens s) {c : Char} (member : c ∈ s) :
    c = ' ' ∨ ∃ token ∈ tokens, c ∈ token := by
  induction spaced with
  | nil spaces => exact Or.inl (spaces c member)
  | cons spaces _ ih =>
    simp only [List.mem_append] at member
    rcases member with (blank | own) | later
    · exact Or.inl (spaces c blank)
    · exact Or.inr ⟨_, List.mem_cons_self, own⟩
    · rcases ih later with space | ⟨other, belongs, inside⟩
      · exact Or.inl space
      · exact Or.inr ⟨other, List.mem_cons_of_mem _ belongs, inside⟩

/-- Without its spaces the text is the tokens one after the other. -/
theorem filter_eq (spaced : Spaced tokens s) (solid : ∀ token ∈ tokens, ' ' ∉ token) :
    s.filter (· != ' ') = tokens.flatten := by
  have drop : ∀ gap, IsSpaces gap → gap.filter (· != ' ') = [] := by
    intro gap spaces
    rw [List.filter_eq_nil_iff]
    intro c member
    simp [spaces c member]
  induction spaced with
  | nil spaces => exact drop _ spaces
  | cons spaces _ ih =>
    have own := solid _ List.mem_cons_self
    have rest := ih fun token member => solid token (List.mem_cons_of_mem _ member)
    rw [List.filter_append, List.filter_append, drop _ spaces, rest, List.flatten_cons,
      List.filter_eq_self.2 (bne_of_not_mem own)]
    rfl

/-- A text of two rows of tokens has a place where the second row begins. -/
theorem exists_append {first second : List Text} (spaced : Spaced (first ++ second) s) :
    ∃ front rest, s = front ++ rest ∧ Spaced first front ∧ Spaced second rest := by
  induction first generalizing s with
  | nil => exact ⟨[], s, rfl, .nil (by simp [IsSpaces]), spaced⟩
  | cons token first ih =>
    cases spaced with
    | cons spaces behind =>
      obtain ⟨front, rest, rfl, own, others⟩ := ih behind
      refine ⟨_, rest, ?_, .cons spaces own, others⟩
      simp only [List.append_assoc]

/-- The spaces between two rows of tokens can all be counted to the first. -/
theorem exists_before {first second : List Text} {token : Text}
    (spaced : Spaced (first ++ token :: second) s) :
    ∃ front rest, s = front ++ token ++ rest ∧ Spaced first front ∧ Spaced second rest := by
  obtain ⟨front, rest, rfl, own, others⟩ := exists_append spaced
  cases others with
  | cons spaces behind =>
    refine ⟨_, _, ?_, own.append_gap spaces, behind⟩
    simp only [List.append_assoc]

theorem exists_last {first : List Text} {token : Text} (spaced : Spaced (first ++ [token]) s) :
    ∃ front gap, IsSpaces gap ∧ Spaced first front ∧ s = front ++ token ++ gap := by
  obtain ⟨front, gap, whole, own, others⟩ := exists_before spaced
  cases others with
  | nil spaces => exact ⟨front, gap, spaces, own, whole⟩

/-- A row of tokens in brackets at the end. -/
theorem exists_enclosed {first inner : List Text} {opening closing : Char}
    (spaced : Spaced (first ++ [opening] :: inner ++ [[closing]]) s) :
    ∃ front inside gap, IsSpaces gap ∧ Spaced first front ∧ Spaced inner inside ∧
      s = front ++ opening :: inside ++ closing :: gap := by
  obtain ⟨unclosed, gap, spaces, before, rfl⟩ := exists_last spaced
  obtain ⟨front, inside, rfl, own, others⟩ := exists_before before
  refine ⟨front, inside, gap, spaces, own, others, ?_⟩
  simp only [List.append_assoc, List.singleton_append]

/-- A single token stands between two gaps. -/
theorem exists_gaps {token : Text} (spaced : Spaced [token] s) :
    ∃ before behind, IsSpaces before ∧ IsSpaces behind ∧ s = before ++ token ++ behind := by
  cases spaced with
  | cons spaces rest =>
    cases rest with
    | nil spaces' => exact ⟨_, _, spaces, spaces', rfl⟩

theorem trim_eq {marks token : Text} (spaced : Spaced [token] s) (avoids : Avoids marks token) :
    trim s = token := by
  obtain ⟨before, behind, spaces, spaces', rfl⟩ := spaced.exists_gaps
  rw [trim_append_gap spaces'.isGap, trim_gap_append spaces.isGap, avoids.trim]

end Spaced

/-- Rows of tokens with a comma between any two. -/
def separated (rows : List (List Text)) : List Text :=
  [[',']].intercalate rows

theorem mem_separated {rows : List (List Text)} {token : Text} (member : token ∈ separated rows) :
    token = [','] ∨ ∃ row ∈ rows, token ∈ row := by
  induction rows with
  | nil => cases member
  | cons row rows ih =>
    cases rows with
    | nil =>
      rw [separated, List.intercalate_singleton] at member
      exact Or.inr ⟨row, List.mem_cons_self, member⟩
    | cons second rows =>
      rw [separated, List.intercalate_cons_cons, List.mem_append, List.mem_append] at member
      rcases member with (own | comma) | later
      · exact Or.inr ⟨row, List.mem_cons_self, own⟩
      · exact Or.inl (List.mem_singleton.1 comma)
      · rcases ih later with comma | ⟨other, belongs, inside⟩
        · exact Or.inl comma
        · exact Or.inr ⟨other, List.mem_cons_of_mem _ belongs, inside⟩

/-- Tokens that are joined by a comma and a space. -/
theorem spaced_join (tokens : List Text) :
    Spaced (separated (tokens.map ([·]))) (join [',', ' '] tokens) := by
  fun_induction join [',', ' '] tokens with
  | case1 => exact .nil (by simp [IsSpaces])
  | case2 token => exact .single token
  | case3 token tokens nonempty ih =>
    cases tokens with
    | nil => exact absurd rfl nonempty
    | cons second tokens =>
      have space : IsSpaces [' '] := by simp [IsSpaces]
      have comma : Spaced [[',']] [',', ' '] := (Spaced.single [',']).append_gap space
      have front := ((Spaced.single token).append comma).append ih
      rwa [separated, List.map_cons, List.map_cons, List.intercalate_cons_cons]

/-- Rows that are separated by commas are spelled by parts that commas join. -/
theorem Spaced.exists_join {rows : List (List Text)} {s : Text} (nonempty : rows ≠ [])
    (spaced : Spaced (separated rows) s) :
    ∃ parts, List.Forall₂ Spaced rows parts ∧ s = join [','] parts := by
  induction rows generalizing s with
  | nil => exact absurd rfl nonempty
  | cons row rows ih =>
    cases rows with
    | nil =>
      rw [separated, List.intercalate_singleton] at spaced
      exact ⟨[s], .cons spaced .nil, rfl⟩
    | cons second rows =>
      rw [separated, List.intercalate_cons_cons, List.append_assoc] at spaced
      obtain ⟨front, rest, rfl, own, others⟩ := spaced.exists_before
      obtain ⟨parts, each, rfl⟩ := ih (by simp) others
      cases each with
      | cons first each => exact ⟨front :: _ :: _, .cons own (.cons first each), rfl⟩

end DocReport.Text

import DocReport.Proofs.Text.Phrase

/-!
The white space behind a number of visible characters. It is between visible characters, so it is
still there when white space is dropped from the ends of the text, and when text is added to them.
-/
namespace DocReport.Text

/-- The white space behind the first `n` visible characters of a text. -/
def gapAfter : Nat → Text → Text
  | 0, t => t.takeWhile isBlank
  | _ + 1, [] => []
  | n + 1, c :: r => if isBlank c then gapAfter (n + 1) r else gapAfter n r

/-- Whether a text begins with white space. -/
def beginsBlank (t : Text) : Bool :=
  t.head?.any isBlank

/-- Whether a text ends with white space. -/
def endsBlank (t : Text) : Bool :=
  t.getLast?.any isBlank

/-- `gap` is all that stands between the visible characters `seen` and the next one. -/
def GapBehind (seen gap t : Text) : Prop :=
  ∃ front c d rest, t = front ++ c :: (gap ++ d :: rest) ∧ solid (front ++ [c]) = seen ∧
    isBlank c = false ∧ IsGap gap ∧ isBlank d = false

namespace GapBehind

variable {seen gap t : Text}

theorem visible (behind : GapBehind seen gap t) : solid t ≠ [] := by
  obtain ⟨front, c, d, rest, rfl, _, visible, _, _⟩ := behind
  simp [solid, visible]

theorem append_right (behind : GapBehind seen gap t) (s : Text) : GapBehind seen gap (t ++ s) := by
  obtain ⟨front, c, d, rest, rfl, same, visible, white, visible'⟩ := behind
  exact ⟨front, c, d, rest ++ s, by simp, same, visible, white, visible'⟩

theorem append_left (behind : GapBehind seen gap t) (s : Text) :
    GapBehind (solid s ++ seen) gap (s ++ t) := by
  obtain ⟨front, c, d, rest, rfl, rfl, visible, white, visible'⟩ := behind
  exact ⟨s ++ front, c, d, rest, by simp, by simp, visible, white, visible'⟩

section Trims

variable {p : Char → Bool} (blank : ∀ c, p c = true → isBlank c = true)

include blank

theorem dropWhile (behind : GapBehind seen gap t) : GapBehind seen gap (t.dropWhile p) := by
  obtain ⟨front, c, d, rest, rfl, rfl, visible, white, visible'⟩ := behind
  refine ⟨front.dropWhile p, c, d, rest, ?_, ?_, visible, white, visible'⟩
  · exact dropWhile_append_kept (kept_of_visible blank visible) front _
  · rw [solid_append, solid_append, solid_dropWhile blank]

theorem dropTail (behind : GapBehind seen gap t) : GapBehind seen gap (Text.dropTail p t) := by
  obtain ⟨front, c, d, rest, rfl, same, visible, white, visible'⟩ := behind
  refine ⟨front, c, d, Text.dropTail p rest, ?_, same, visible, white, visible'⟩
  have whole := dropTail_append_kept (kept_of_visible blank visible') (front ++ c :: gap) rest
  simpa using whole

end Trims

theorem trim (behind : GapBehind seen gap t) : GapBehind seen gap (Text.trim t) :=
  (behind.dropWhile fun _ => id).dropTail fun _ => id

theorem gapAfter_eq (behind : GapBehind seen gap t) : gapAfter seen.length t = gap := by
  obtain ⟨front, c, d, rest, rfl, rfl, visible, white, visible'⟩ := behind
  have own : solid [c] = [c] := by simp [solid, visible]
  induction front with
  | nil =>
    rw [List.nil_append, List.nil_append, own, List.length_singleton, gapAfter, visible,
      if_neg Bool.false_ne_true, gapAfter, takeWhile_run white visible']
  | cons e front ih =>
    rw [List.cons_append, List.cons_append, solid_cons]
    cases blank : isBlank e with
    | true =>
      have some : ∃ n, (solid (front ++ [c])).length = n + 1 := by
        refine ⟨(solid front).length, ?_⟩
        rw [solid_append, own, List.length_append, List.length_singleton]
      obtain ⟨n, count⟩ := some
      rw [solid_singleton_of_blank blank, List.nil_append, count, gapAfter, blank, if_pos rfl,
        ← count, ih]
    | false =>
      have shown : solid [e] = [e] := by simp [solid, blank]
      rw [shown, List.singleton_append, List.length_cons, gapAfter, blank,
        if_neg Bool.false_ne_true, ih]

end GapBehind

section Ends

variable {c : Char} {gap : Text}

theorem beginsBlank_iff (visible : isBlank c = false) (white : IsGap gap) (rest : Text) :
    beginsBlank (gap ++ c :: rest) = true ↔ gap ≠ [] := by
  cases gap with
  | nil => simp [beginsBlank, visible]
  | cons d gap => simp [beginsBlank, white d List.mem_cons_self]

theorem endsBlank_iff (visible : isBlank c = false) (white : IsGap gap) (front : Text) :
    endsBlank (front ++ c :: gap) = true ↔ gap ≠ [] := by
  cases gap using List.reverseRecOn with
  | nil => simp [endsBlank, visible]
  | append_singleton gap d =>
    have last : isBlank d = true := white d (by simp)
    have whole : front ++ c :: (gap ++ [d]) = (front ++ c :: gap) ++ [d] := by simp
    rw [whole, endsBlank, List.getLast?_concat]
    simp [last]

theorem endsBlank_append_of_ne_nil {t : Text} (some : t ≠ []) (s : Text) :
    endsBlank (s ++ t) = endsBlank t := by
  rw [endsBlank, List.getLast?_append_of_ne_nil _ some, endsBlank]

theorem beginsBlank_trim (t : Text) : beginsBlank (trim t) = false := by
  cases first : (trim t).head? with
  | none => simp [beginsBlank, first]
  | some c => simp [beginsBlank, first, head_trim first]

theorem endsBlank_trim (t : Text) : endsBlank (trim t) = false := by
  cases last : (trim t).getLast? with
  | none => simp [endsBlank, last]
  | some c => simp [endsBlank, last, last_trim last]

theorem exists_visible_front {t : Text} (shown : solid t ≠ []) :
    ∃ gap c rest, IsGap gap ∧ isBlank c = false ∧ t = gap ++ c :: rest := by
  rcases exists_phrase t with white | ⟨start, phrase, stop, before, own, _, whole⟩
  · exact absurd (solid_eq_nil_of_isGap white) shown
  · obtain ⟨c, r, front, visible⟩ := own.head
    exact ⟨start, c, r ++ stop, before, visible, by simp [whole, front]⟩

theorem exists_visible_back {t : Text} (shown : solid t ≠ []) :
    ∃ front c gap, IsGap gap ∧ isBlank c = false ∧ t = front ++ c :: gap := by
  rcases exists_phrase t with white | ⟨start, phrase, stop, _, own, after, whole⟩
  · exact absurd (solid_eq_nil_of_isGap white) shown
  · obtain ⟨r, c, back, visible⟩ := own.last
    exact ⟨start ++ r, c, stop, after, visible, by simp [whole, back]⟩

end Ends

/-- Where two texts meet, the gap is the white space that they have there. -/
theorem exists_gap_between {s t : Text} (shown : solid s ≠ []) (shown' : solid t ≠ []) :
    ∃ gap, GapBehind (solid s) gap (s ++ t) ∧
      (gap ≠ [] ↔ endsBlank s = true ∨ beginsBlank t = true) := by
  obtain ⟨front, c, after, white, visible, rfl⟩ := exists_visible_back shown
  obtain ⟨before, d, rest, white', visible', rfl⟩ := exists_visible_front shown'
  refine ⟨after ++ before, ⟨front, c, d, rest, by simp, ?_, visible, ?_, visible'⟩, ?_⟩
  · have whole : front ++ c :: after = front ++ [c] ++ after := by simp
    rw [whole, solid_append _ after, solid_eq_nil_of_isGap white, List.append_nil]
  · exact fun e member => (List.mem_append.1 member).elim (white e) (white' e)
  · rw [endsBlank_iff visible white, beginsBlank_iff visible' white', ne_eq, List.append_eq_nil_iff,
      not_and_or]

end DocReport.Text

import DocReport.Proofs.Text.Cut
import DocReport.Proofs.Text.Solid

/-!
What is left at the edges of a text: how white space is dropped from two texts one after the other,
and empty lines at the front or the end of a text, which go as a whole or not at all.
-/
namespace DocReport.Text

theorem dropTail_append (p : Char → Bool) (s t : Text) :
    dropTail p (s ++ t) = if (dropTail p t).isEmpty then dropTail p s else s ++ dropTail p t := by
  unfold dropTail
  rw [List.reverse_append, List.dropWhile_append]
  by_cases gone : (t.reverse.dropWhile p).isEmpty
  · simp [gone]
  · simp [gone]

/-- A tail ends before the last character that is kept. -/
theorem dropTail_append_kept {p : Char → Bool} {c : Char} (kept : p c = false) (s t : Text) :
    dropTail p (s ++ c :: t) = s ++ c :: dropTail p t := by
  have own : dropTail p (s ++ [c]) = s ++ [c] := by
    simp [dropTail, kept]
  have whole : s ++ c :: t = (s ++ [c]) ++ t := by simp
  rw [whole, dropTail_append]
  split
  · rename_i empty
    rw [own, List.isEmpty_iff.1 empty]
  · simp

/-- A trimmed text begins with no white character. -/
theorem head_trim {t : Text} {c : Char} (first : (trim t).head? = some c) : isBlank c = false := by
  obtain ⟨gap, _, whole⟩ := exists_append_trimEnd (trimStart t)
  apply stop_of_dropWhile isBlank t c
  change (trimStart t).head? = some c
  rw [whole]
  change (trimEnd (trimStart t)).head? = some c at first
  simp [List.head?_append, first]

/-- A trimmed text ends with no white character. -/
theorem last_trim {t : Text} {c : Char} (last : (trim t).getLast? = some c) :
    isBlank c = false := by
  apply stop_of_dropWhile isBlank (trimStart t).reverse c
  rw [trim, trimEnd, dropTail, List.getLast?_reverse] at last
  exact last

/-- Nothing is trimmed between visible characters. -/
theorem trim_between {c d : Char} (first : isBlank c = false) (last : isBlank d = false)
    (t : Text) : trim (c :: t ++ [d]) = c :: t ++ [d] := by
  have start : trimStart (c :: t) = c :: t := List.dropWhile_cons_of_neg (by simp [first])
  rw [trim_append_solid last isGap_nil, start]

theorem isGap_of_solid_eq_nil {t : Text} (white : solid t = []) : IsGap t := by
  intro c member
  simpa using List.filter_eq_nil_iff.1 white c member

theorem solid_eq_nil_of_isGap {t : Text} (white : IsGap t) : solid t = [] :=
  List.filter_eq_nil_iff.2 fun c member => by simp [white c member]

section White

variable {p : Char → Bool} (white : ∀ c, p c = true → isBlank c = true)

include white

theorem kept_of_visible {c : Char} (visible : isBlank c = false) : p c = false := by
  cases dropped : p c with
  | false => rfl
  | true => simp [white c dropped] at visible

theorem dropWhile_trim (t : Text) : (trim t).dropWhile p = trim t := by
  cases same : trim t with
  | nil => rfl
  | cons c r =>
    have solid : isBlank c = false := head_trim (t := t) (by rw [same]; rfl)
    exact List.dropWhile_cons_of_neg (by simp [kept_of_visible white solid])

theorem trim_dropWhile (t : Text) : trim (t.dropWhile p) = trim t := by
  have gap : IsGap (t.takeWhile p) := fun c member => white c (mem_takeWhile member)
  rw [← trim_gap_append gap, List.takeWhile_append_dropWhile]

theorem trim_dropTail (t : Text) : trim (dropTail p t) = trim t := by
  have gap : IsGap (t.reverse.takeWhile p).reverse := fun c member =>
    white c (mem_takeWhile (List.mem_reverse.1 member))
  rw [← trim_append_gap gap, dropTail, ← List.reverse_append, List.takeWhile_append_dropWhile,
    List.reverse_reverse]

theorem dropTail_ne_nil {t : Text} (visible : solid t ≠ []) : dropTail p t ≠ [] := by
  intro empty
  rw [← solid_dropTail white, empty] at visible
  exact visible rfl

theorem dropWhile_append_of_visible {s : Text} (visible : solid s ≠ []) (t : Text) :
    (s ++ t).dropWhile p = s.dropWhile p ++ t := by
  have some : (s.dropWhile p).isEmpty = false := by
    rw [List.isEmpty_eq_false_iff]
    intro empty
    rw [← solid_dropWhile white, empty] at visible
    exact visible rfl
  rw [List.dropWhile_append, some, if_neg Bool.false_ne_true]

theorem dropTail_append_of_visible {t : Text} (visible : solid t ≠ []) (s : Text) :
    dropTail p (s ++ t) = s ++ dropTail p t := by
  have some : (dropTail p t).isEmpty = false :=
    List.isEmpty_eq_false_iff.2 (dropTail_ne_nil white visible)
  rw [dropTail_append, some, if_neg Bool.false_ne_true]

end White

/-- Two line feeds: behind text they leave an empty line. -/
def emptyLine : Text :=
  ['\n', '\n']

theorem emptyLine_is_gap : IsGap emptyLine := by
  intro c member
  have feed : c = '\n' := by simpa [emptyLine] using member
  rw [feed]
  rfl

theorem dropTail_emptyLine (p : Char → Bool) :
    dropTail p emptyLine = [] ∨ dropTail p emptyLine = emptyLine := by
  cases feed : p '\n' <;> simp [dropTail, emptyLine, feed]

theorem dropTail_of_emptyLine_prefix {p : Char → Bool} {t : Text} (opens : emptyLine <+: t) :
    dropTail p t = [] ∨ emptyLine <+: dropTail p t := by
  obtain ⟨r, rfl⟩ := opens
  rw [dropTail_append]
  split
  · rcases dropTail_emptyLine p with gone | kept
    · exact Or.inl gone
    · exact Or.inr (kept.symm ▸ List.prefix_refl emptyLine)
  · exact Or.inr (List.prefix_append _ _)

theorem dropWhile_of_emptyLine_suffix {p : Char → Bool} {t : Text} (closes : emptyLine <:+ t) :
    t.dropWhile p = [] ∨ emptyLine <:+ t.dropWhile p := by
  obtain ⟨r, rfl⟩ := closes
  rw [List.dropWhile_append]
  split
  · cases feed : p '\n' <;> simp [emptyLine, feed]
  · exact Or.inr (List.suffix_append _ _)

end DocReport.Text

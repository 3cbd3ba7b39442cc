import DocReport.Proofs.Text.Basic

/-!
Where texts are cut: white space at the ends, the first and the last occurrence of a mark, and all
occurrences of a mark that joined parts with each other.
-/
namespace DocReport.Text

/-- White space only. -/
def IsGap (t : Text) : Prop :=
  ∀ c ∈ t, isBlank c = true

theorem isGap_nil : IsGap [] := by
  simp [IsGap]

/-- Nothing is dropped from the first character on that is kept. -/
theorem dropWhile_append_kept {p : Char → Bool} {c : Char} (kept : p c = false) (t rest : Text) :
    (t ++ c :: rest).dropWhile p = t.dropWhile p ++ c :: rest := by
  induction t with
  | nil => exact List.dropWhile_cons_of_neg (by simp [kept])
  | cons d r ih =>
    rw [List.cons_append, List.dropWhile_cons, List.dropWhile_cons]
    split
    · exact ih
    · rfl

section Trim

variable {gap : Text}

theorem trimStart_gap_append (blank : IsGap gap) (t : Text) :
    trimStart (gap ++ t) = trimStart t :=
  List.dropWhile_append_of_pos blank

theorem trimStart_append_solid {c : Char} (solid : isBlank c = false) (t rest : Text) :
    trimStart (t ++ c :: rest) = trimStart t ++ c :: rest :=
  dropWhile_append_kept solid t rest

theorem trimEnd_append_gap (blank : IsGap gap) (t : Text) : trimEnd (t ++ gap) = trimEnd t := by
  have inside : ∀ c ∈ gap.reverse, isBlank c = true := fun c member =>
    blank c (List.mem_reverse.1 member)
  rw [trimEnd, dropTail, List.reverse_append, List.dropWhile_append_of_pos inside]
  rfl

theorem trimEnd_concat {c : Char} (solid : isBlank c = false) (t : Text) :
    trimEnd (t ++ [c]) = t ++ [c] := by
  simp [trimEnd, dropTail, solid]

/-- What `trimEnd` takes away is white. -/
theorem exists_append_trimEnd (t : Text) : ∃ gap, IsGap gap ∧ t = trimEnd t ++ gap := by
  refine ⟨(t.reverse.takeWhile isBlank).reverse, ?_, ?_⟩
  · intro c member
    exact mem_takeWhile (List.mem_reverse.1 member)
  · rw [trimEnd, dropTail, ← List.reverse_append, List.takeWhile_append_dropWhile,
      List.reverse_reverse]

theorem trim_gap_append (blank : IsGap gap) (t : Text) : trim (gap ++ t) = trim t := by
  rw [trim, trimStart_gap_append blank, trim]

theorem trim_append_gap (blank : IsGap gap) (t : Text) : trim (t ++ gap) = trim t := by
  unfold trim trimStart
  rw [List.dropWhile_append]
  split
  · rename_i white
    have nothing : gap.dropWhile isBlank = [] := by
      have whole := trimStart_gap_append blank []
      rwa [List.append_nil] at whole
    rw [nothing, List.isEmpty_iff.1 white]
  · exact trimEnd_append_gap blank _

theorem trim_trimStart (t : Text) : trim (trimStart t) = trim t := by
  have same : trimStart (trimStart t) = trimStart t :=
    @dropWhile_append_stop isBlank [] _ (by simp) (stop_of_dropWhile isBlank t)
  rw [trim, same, trim]

@[simp] theorem trim_trim (t : Text) : trim (trim t) = trim t := by
  obtain ⟨gap, blank, whole⟩ := exists_append_trimEnd (trimStart t)
  calc trim (trim t)
      = trim (trimEnd (trimStart t) ++ gap) := (trim_append_gap blank _).symm
    _ = trim (trimStart t) := by rw [← whole]
    _ = trim t := trim_trimStart t

theorem trim_gap (blank : IsGap gap) : trim gap = [] := by
  have whole := trim_gap_append blank []
  rwa [List.append_nil] at whole

/-- Trimming stops at a last character that is not white. -/
theorem trim_append_solid {c : Char} (solid : isBlank c = false) (blank : IsGap gap) (t : Text) :
    trim (t ++ c :: gap) = trimStart t ++ [c] := by
  have whole : t ++ c :: gap = (t ++ [c]) ++ gap := by simp
  rw [whole, trim_append_gap blank, trim, trimStart_append_solid solid, trimEnd_concat solid]

end Trim

/-- No white space and none of the given marks. -/
def Avoids (marks t : Text) : Prop :=
  ∀ c ∈ t, isBlank c = false ∧ c ∉ marks

instance (marks t : Text) : Decidable (Avoids marks t) :=
  List.decidableBAll _ t

namespace Avoids

variable {marks t : Text}

theorem not_mem (avoids : Avoids marks t) {c : Char} (mark : c ∈ marks) : c ∉ t :=
  fun member => (avoids c member).2 mark

theorem trim (avoids : Avoids marks t) : Text.trim t = t :=
  trim_eq_self fun c member => (avoids c member).1

theorem mono {fewer : Text} (avoids : Avoids marks t) (subset : fewer ⊆ marks) : Avoids fewer t :=
  fun c member => ⟨(avoids c member).1, fun mark => (avoids c member).2 (subset mark)⟩

theorem append {s : Text} (first : Avoids marks s) (second : Avoids marks t) :
    Avoids marks (s ++ t) := by
  intro c member
  rcases List.mem_append.1 member with early | late
  · exact first c early
  · exact second c late

theorem join {separator : Text} {parts : List Text} (between : Avoids marks separator)
    (each : ∀ part ∈ parts, Avoids marks part) : Avoids marks (Text.join separator parts) := by
  intro c member
  rcases mem_join member with own | ⟨part, belongs, inside⟩
  · exact between c own
  · exact each part belongs c inside

end Avoids

section Marks

variable {c : Char}

theorem cutFirst_append {head : Text} (absent : c ∉ head) (rest : Text) :
    cutFirst c (head ++ c :: rest) = (head, some rest) := by
  induction head with
  | nil => simp [cutFirst]
  | cons d r ih =>
    simp only [List.mem_cons, not_or] at absent
    rw [List.cons_append, cutFirst, if_neg (Ne.symm absent.1), ih absent.2]

theorem cutLast_append {rest : Text} (absent : c ∉ rest) (head : Text) :
    cutLast c (head ++ c :: rest) = (head, rest) := by
  have inside : ∀ d ∈ rest.reverse, (d != c) = true :=
    bne_of_not_mem fun member => absent (List.mem_reverse.1 member)
  have after : (head ++ c :: rest).reverse.takeWhile (· != c) = rest.reverse := by
    rw [List.reverse_append, List.reverse_cons, List.append_assoc]
    exact takeWhile_run inside (by simp) head.reverse
  have before : (head ++ c :: rest).length - rest.length - 1 = head.length := by
    simp only [List.length_append, List.length_cons]
    omega
  rw [cutLast, after, List.reverse_reverse, before, List.take_left' rfl]

theorem cutAll_of_not_mem {part : Text} (absent : c ∉ part) : cutAll c part = [part] := by
  induction part with
  | nil => rfl
  | cons d r ih =>
    simp only [List.mem_cons, not_or] at absent
    rw [cutAll, if_neg (Ne.symm absent.1), ih absent.2]

theorem cutAll_append {part : Text} (absent : c ∉ part) (rest : Text) :
    cutAll c (part ++ c :: rest) = part :: cutAll c rest := by
  induction part with
  | nil => simp [cutAll]
  | cons d r ih =>
    simp only [List.mem_cons, not_or] at absent
    rw [List.cons_append, cutAll, if_neg (Ne.symm absent.1), ih absent.2]

/-- Cutting undoes joining, as long as no part holds the mark. -/
theorem cutAll_join {parts : List Text} (nonempty : parts ≠ [])
    (absent : ∀ part ∈ parts, c ∉ part) : cutAll c (join [c] parts) = parts := by
  induction parts with
  | nil => exact absurd rfl nonempty
  | cons first rest ih =>
    have own := absent first List.mem_cons_self
    cases rest with
    | nil => exact cutAll_of_not_mem own
    | cons second rest =>
      have inner := ih (by simp) fun part member => absent part (List.mem_cons_of_mem _ member)
      rw [join_cons_cons, List.append_assoc, List.singleton_append, cutAll_append own, inner]

theorem cutAll_ne_nil (c : Char) (t : Text) : cutAll c t ≠ [] := by
  cases t with
  | nil => simp [cutAll]
  | cons d r =>
    rw [cutAll]
    split
    · simp
    · split <;> simp

/-- Joining undoes cutting. -/
theorem join_cutAll (c : Char) (t : Text) : join [c] (cutAll c t) = t := by
  induction t with
  | nil => rfl
  | cons d r ih =>
    obtain ⟨part, parts, cut⟩ := List.exists_cons_of_ne_nil (cutAll_ne_nil c r)
    rw [cut] at ih
    by_cases same : d = c
    · rw [cutAll, if_pos same, cut, join_cons_cons, ih, same]
      rfl
    · rw [cutAll, if_neg same, cut]
      cases parts <;> exact congrArg (d :: ·) ih

/-- No part of a cut holds the mark. -/
theorem not_mem_of_mem_cutAll {t part : Text} (member : part ∈ cutAll c t) : c ∉ part := by
  induction t generalizing part with
  | nil =>
    rw [List.mem_singleton.1 member]
    exact List.not_mem_nil
  | cons d r ih =>
    unfold cutAll at member
    split at member
    · rcases List.mem_cons.1 member with rfl | later
      · exact List.not_mem_nil
      · exact ih later
    · rename_i different
      split at member
      · rw [List.mem_singleton.1 member, List.mem_singleton]
        exact Ne.symm different
      · rename_i first parts cut
        rcases List.mem_cons.1 member with rfl | later
        · have own : c ∉ first := ih (cut ▸ List.mem_cons_self)
          rw [List.mem_cons, not_or]
          exact ⟨Ne.symm different, own⟩
        · exact ih (cut ▸ List.mem_cons_of_mem _ later)

end Marks

/-- Joined lines are cut into the same lines again exactly if none of them holds a line end. -/
theorem lines_unlines_iff {parts : List Text} (some : parts ≠ []) :
    lines (unlines parts) = parts ↔ ∀ part ∈ parts, '\n' ∉ part := by
  constructor
  · intro same part member
    rw [← same] at member
    exact not_mem_of_mem_cutAll member
  · exact cutAll_join some

end DocReport.Text

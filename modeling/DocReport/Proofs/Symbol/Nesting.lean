import DocReport.Proofs.Text.Cut
import DocReport.Symbol.Nesting

/-!
Which texts are not cut in two at a comma. A text is whole from some depth on if it closes just the
brackets that it opens and holds no comma outside them; parts that are whole come back when their
joined text is split.
-/
namespace DocReport.Symbol

/-- The bracket depth behind a text. -/
def depthAfter (depth : Int) : Text → Int
  | [] => depth
  | c :: r => depthAfter (depth + nesting c) r

theorem depthAfter_append (depth : Int) (s t : Text) :
    depthAfter depth (s ++ t) = depthAfter (depthAfter depth s) t := by
  induction s generalizing depth with
  | nil => rfl
  | cons c r ih => exact ih (depth + nesting c)

section Cuts

variable {isSeparator : Char → Bool} {depth : Int}

theorem cutAtDepth_ne_nil (isSeparator : Char → Bool) (depth : Int) (t : Text) :
    cutAtDepth isSeparator depth t ≠ [] := by
  cases t with
  | nil => simp [cutAtDepth]
  | cons c r =>
    simp only [cutAtDepth]
    split
    · simp
    · split <;> simp

/-- A character that does not separate goes to the part that follows it. -/
theorem cutAtDepth_cons_of_not {c : Char}
    (kept : (isSeparator c && depth + nesting c == 0) = false) (r : Text) :
    cutAtDepth isSeparator depth (c :: r) =
      (cutAtDepth isSeparator (depth + nesting c) r).modifyHead (c :: ·) := by
  simp only [cutAtDepth, kept]
  cases rest : cutAtDepth isSeparator (depth + nesting c) r with
  | nil => exact absurd rest (cutAtDepth_ne_nil _ _ r)
  | cons part parts => rfl

theorem cutAtDepth_cons_eq_self {c : Char} {r : Text}
    (uncut : cutAtDepth isSeparator depth (c :: r) = [c :: r]) :
    (isSeparator c && depth + nesting c == 0) = false ∧
      cutAtDepth isSeparator (depth + nesting c) r = [r] := by
  cases kept : (isSeparator c && depth + nesting c == 0) with
  | true => simp [cutAtDepth, kept] at uncut
  | false =>
    rw [cutAtDepth_cons_of_not kept] at uncut
    cases rest : cutAtDepth isSeparator (depth + nesting c) r with
    | nil => exact absurd rest (cutAtDepth_ne_nil _ _ r)
    | cons part parts => simpa [rest] using uncut

/-- A text that is not cut stays in one piece before any other text. -/
theorem cutAtDepth_append {t : Text} (uncut : cutAtDepth isSeparator depth t = [t]) (r : Text) :
    cutAtDepth isSeparator depth (t ++ r) =
      (cutAtDepth isSeparator (depthAfter depth t) r).modifyHead (t ++ ·) := by
  induction t generalizing depth with
  | nil => exact (congrFun List.modifyHead_id _).symm
  | cons c rest ih =>
    obtain ⟨kept, inner⟩ := cutAtDepth_cons_eq_self uncut
    rw [List.cons_append, cutAtDepth_cons_of_not kept, ih inner, List.modifyHead_modifyHead]
    rfl

end Cuts

/-- From every depth of at least `least` a text returns to that depth, and no comma in it is a place
to cut. -/
def Whole (least : Int) (t : Text) : Prop :=
  ∀ depth, least ≤ depth → depthAfter depth t = depth ∧ cutAtDepth (· == ',') depth t = [t]

namespace Whole

variable {least : Int} {s t : Text}

theorem nil (least : Int) : Whole least [] :=
  fun _ _ => ⟨rfl, rfl⟩

theorem mono {more : Int} (whole : Whole least t) (bound : least ≤ more) : Whole more t :=
  fun depth above => whole depth (Int.le_trans bound above)

theorem append (first : Whole least s) (second : Whole least t) : Whole least (s ++ t) := by
  intro depth above
  obtain ⟨back, uncut⟩ := first depth above
  obtain ⟨back', uncut'⟩ := second depth above
  refine ⟨?_, ?_⟩
  · rw [depthAfter_append, back, back']
  · rw [cutAtDepth_append uncut, back, uncut']
    rfl

/-- Characters that are neither brackets nor commas are never a place to cut. -/
theorem of_plain (least : Int) (plain : ∀ c ∈ t, nesting c = 0 ∧ c ≠ ',') : Whole least t := by
  intro depth _
  induction t with
  | nil => exact ⟨rfl, rfl⟩
  | cons c r ih =>
    obtain ⟨flat, other⟩ := plain c List.mem_cons_self
    obtain ⟨back, uncut⟩ := ih fun d member => plain d (List.mem_cons_of_mem _ member)
    refine ⟨?_, ?_⟩
    · rw [depthAfter, flat, Int.add_zero, back]
    · rw [cutAtDepth_cons_of_not (by simp [other]), flat, Int.add_zero, uncut]
      rfl

/-- Inside a bracket a comma is no place to cut either. -/
theorem of_flat (flat : ∀ c ∈ t, nesting c = 0) : Whole 1 t := by
  intro depth above
  have inside : (depth == 0) = false := by
    rw [beq_eq_false_iff_ne]
    omega
  induction t with
  | nil => exact ⟨rfl, rfl⟩
  | cons c r ih =>
    have own := flat c List.mem_cons_self
    obtain ⟨back, uncut⟩ := ih fun d member => flat d (List.mem_cons_of_mem _ member)
    refine ⟨?_, ?_⟩
    · rw [depthAfter, own, Int.add_zero, back]
    · rw [cutAtDepth_cons_of_not (by simp [own, inside]), own, Int.add_zero, uncut]
      rfl

/-- In brackets a text may hold commas. -/
theorem enclosed {opening closing : Char} (opens : nesting opening = 1)
    (closes : nesting closing = -1) (inner : Whole 1 t) :
    Whole 0 (opening :: t ++ [closing]) := by
  intro depth above
  have deeper : (1 : Int) ≤ depth + 1 := by omega
  have nonzero : (depth + 1 == 0) = false := by
    rw [beq_eq_false_iff_ne]
    omega
  have other : closing ≠ ',' := by
    rintro rfl
    exact absurd closes (by decide)
  obtain ⟨back, uncut⟩ := inner (depth + 1) deeper
  refine ⟨?_, ?_⟩
  · simp only [List.cons_append, depthAfter, opens, depthAfter_append, back, closes]
    omega
  · rw [List.cons_append, cutAtDepth_cons_of_not (by simp [opens, nonzero]), opens,
      cutAtDepth_append uncut, back, cutAtDepth_cons_of_not (by simp [other])]
    rfl

theorem join {parts : List Text} (whole : ∀ part ∈ parts, Whole 1 part) :
    Whole 1 (Text.join [','] parts) := by
  fun_induction Text.join [','] parts with
  | case1 => exact nil 1
  | case2 part => exact whole part List.mem_cons_self
  | case3 part parts _ ih =>
    have others := ih fun other member => whole other (List.mem_cons_of_mem _ member)
    have comma : Whole 1 [','] := of_flat (by simp [nesting])
    exact ((whole part List.mem_cons_self).append comma).append others

end Whole

/-- Parts that return to depth zero and are not cut themselves are what their joined text is cut
into. -/
theorem cutAtDepth_join {parts : List Text} (nonempty : parts ≠ [])
    (whole : ∀ part ∈ parts, depthAfter 0 part = 0 ∧ cutAtDepth (· == ',') 0 part = [part]) :
    cutAtDepth (· == ',') 0 (Text.join [','] parts) = parts := by
  induction parts with
  | nil => exact absurd rfl nonempty
  | cons first rest ih =>
    obtain ⟨back, uncut⟩ := whole first List.mem_cons_self
    cases rest with
    | nil => exact uncut
    | cons second rest =>
      have others := ih (by simp) fun part member => whole part (List.mem_cons_of_mem _ member)
      have separates : ∀ r, cutAtDepth (· == ',') 0 (',' :: r) =
          [] :: cutAtDepth (· == ',') 0 r := fun _ => rfl
      rw [Text.join_cons_cons, List.append_assoc, cutAtDepth_append uncut, back,
        List.singleton_append, separates, others]
      simp

theorem splitArguments_join {parts : List Text}
    (whole : ∀ part ∈ parts, depthAfter 0 part = 0 ∧ cutAtDepth (· == ',') 0 part = [part])
    (solid : parts.map Text.trim ≠ [[]]) :
    splitArguments (Text.join [','] parts) = parts.map Text.trim := by
  cases parts with
  | nil => rfl
  | cons first rest =>
    rw [splitArguments, splitTopLevel, cutAtDepth_join (by simp) whole]
    split
    · rename_i blank
      exact absurd blank solid
    · rfl

end DocReport.Symbol

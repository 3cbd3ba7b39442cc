import DocReport.Proofs.Symbol.SimpleType

/-!
How often a text is cut at commas, from any depth on. Texts that lead from every depth to the same
one and are cut equally often can stand for each other in any text around them, and lists of texts
that are the parts of a joined text stay so if each part is replaced by such a text.
-/
namespace DocReport.Symbol

/-- The number of commas outside brackets, starting at `depth`. -/
def cuts (depth : Int) : Text → Nat
  | [] => 0
  | c :: r =>
    (if c == ',' && depth + nesting c == 0 then 1 else 0) + cuts (depth + nesting c) r

theorem cuts_append (depth : Int) (s t : Text) :
    cuts depth (s ++ t) = cuts depth s + cuts (depthAfter depth s) t := by
  induction s generalizing depth with
  | nil => exact (Nat.zero_add _).symm
  | cons c r ih => rw [List.cons_append, cuts, cuts, ih, depthAfter, Nat.add_assoc]

theorem join_cutAtDepth (separator : Char) (depth : Int) (t : Text) :
    Text.join [separator] (cutAtDepth (· == separator) depth t) = t := by
  induction t generalizing depth with
  | nil => rfl
  | cons c r ih =>
    have rest := ih (depth + nesting c)
    obtain ⟨part, parts, same⟩ := List.exists_cons_of_ne_nil
      (cutAtDepth_ne_nil (· == separator) (depth + nesting c) r)
    rw [same] at rest
    cases kept : c == separator && depth + nesting c == 0 with
    | true =>
      have cut : c = separator := by simpa using (Bool.and_eq_true_iff.1 kept).1
      simp only [cutAtDepth, kept, if_true]
      rw [same, Text.join_cons_cons, rest, cut]
      rfl
    | false =>
      rw [cutAtDepth_cons_of_not kept, same, List.modifyHead_cons]
      cases parts with
      | nil => exact congrArg (c :: ·) rest
      | cons second parts => exact congrArg (c :: ·) rest

theorem length_cutAtDepth (depth : Int) (t : Text) :
    (cutAtDepth (· == ',') depth t).length = cuts depth t + 1 := by
  induction t generalizing depth with
  | nil => rfl
  | cons c r ih =>
    cases kept : c == ',' && depth + nesting c == 0 with
    | true =>
      simp only [cutAtDepth, cuts, kept, if_true, List.length_cons, ih]
      omega
    | false =>
      rw [cutAtDepth_cons_of_not kept, List.length_modifyHead, ih, cuts, kept]
      simp

/-- A text without cuts is its only part. -/
theorem cutAtDepth_of_uncut {depth : Int} {t : Text} (uncut : cuts depth t = 0) :
    cutAtDepth (· == ',') depth t = [t] := by
  have single := length_cutAtDepth depth t
  rw [uncut] at single
  obtain ⟨part, same⟩ := List.length_eq_one_iff.1 single
  have whole := join_cutAtDepth ',' depth t
  rw [same] at whole
  rw [same, show part = t from whole]

/-! ### Texts that are cut alike -/

/-- From every depth both texts lead to the same one, with as many cuts on the way. -/
def SameCuts (s t : Text) : Prop :=
  ∀ depth, depthAfter depth s = depthAfter depth t ∧ cuts depth s = cuts depth t

namespace SameCuts

variable {s t u v : Text}

theorem refl (t : Text) : SameCuts t t :=
  fun _ => ⟨rfl, rfl⟩

theorem symm (same : SameCuts s t) : SameCuts t s :=
  fun depth => ⟨(same depth).1.symm, (same depth).2.symm⟩

theorem trans (first : SameCuts s t) (second : SameCuts t u) : SameCuts s u :=
  fun depth => ⟨(first depth).1.trans (second depth).1, (first depth).2.trans (second depth).2⟩

theorem append (first : SameCuts s t) (second : SameCuts u v) : SameCuts (s ++ u) (t ++ v) := by
  intro depth
  obtain ⟨ends, count⟩ := first depth
  obtain ⟨ends', count'⟩ := second (depthAfter depth t)
  refine ⟨?_, ?_⟩
  · rw [depthAfter_append, depthAfter_append, ends, ends']
  · rw [cuts_append, cuts_append, ends, count, count']

/-- Characters that are neither brackets nor commas do not count. -/
theorem of_plain (plain : ∀ c ∈ t, nesting c = 0 ∧ c ≠ ',') : SameCuts t [] := by
  intro depth
  induction t with
  | nil => exact ⟨rfl, rfl⟩
  | cons c r ih =>
    obtain ⟨flat, other⟩ := plain c List.mem_cons_self
    obtain ⟨ends, count⟩ := ih fun d member => plain d (List.mem_cons_of_mem _ member)
    have step : depth + nesting c = depth := by rw [flat, Int.add_zero]
    have kept : (c == ',' && depth == 0) = false := by simp [other]
    refine ⟨?_, ?_⟩
    · change depthAfter (depth + nesting c) r = _
      rw [step, ends]
    · change (if c == ',' && depth + nesting c == 0 then 1 else 0) + cuts (depth + nesting c) r = _
      rw [step, kept, count]
      rfl

theorem of_avoids (plain : Text.Avoids typeMarks t) : SameCuts t [] :=
  of_plain fun c member => flat_of_not_mark (plain c member).2

theorem of_gap (blank : Text.IsGap t) : SameCuts t [] := by
  refine of_plain fun c member => flat_of_not_mark fun mark => ?_
  have solid : typeMarks.all (fun d => !Text.isBlank d) = true := by decide
  have visible := List.all_eq_true.1 solid c mark
  rw [blank c member] at visible
  cases visible

theorem filter_space (t : Text) : SameCuts (t.filter (· != ' ')) t := by
  induction t with
  | nil => exact refl []
  | cons c r ih =>
    by_cases space : c = ' '
    · subst space
      have gone : SameCuts [' '] [] := of_plain (by simp [nesting])
      exact gone.symm.append ih
    · have kept : (c :: r).filter (· != ' ') = c :: r.filter (· != ' ') := by simp [space]
      rw [kept]
      exact (refl [c]).append ih

theorem join {parts : List Text} {f : Text → Text} (each : ∀ part ∈ parts, SameCuts (f part) part) :
    SameCuts (Text.join [','] (parts.map f)) (Text.join [','] parts) := by
  induction parts with
  | nil => exact refl []
  | cons first rest ih =>
    have own := each first List.mem_cons_self
    have others := ih fun part member => each part (List.mem_cons_of_mem _ member)
    cases rest with
    | nil => exact own
    | cons second rest => exact (own.append (refl [','])).append others

end SameCuts

/-! ### Parts of a joined text -/

/-- Texts that are the parts of the text they are joined to: none has a cut, and each but the last
leads to depth zero. -/
def AreParts (depth : Int) : List Text → Prop
  | [] => False
  | [part] => cuts depth part = 0
  | part :: parts => cuts depth part = 0 ∧ depthAfter depth part = 0 ∧ AreParts 0 parts

/-- A character in front of the first part, if it is not a cut itself. -/
theorem AreParts.cons {depth : Int} {c : Char} {part : Text} {parts : List Text}
    (kept : (c == ',' && depth + nesting c == 0) = false)
    (own : AreParts (depth + nesting c) (part :: parts)) :
    AreParts depth ((c :: part) :: parts) := by
  have count : cuts depth (c :: part) = cuts (depth + nesting c) part := by
    rw [cuts, kept]
    exact Nat.zero_add _
  cases parts with
  | nil => exact count.trans own
  | cons second parts => exact ⟨count.trans own.1, own.2⟩

theorem areParts_cutAtDepth (depth : Int) (t : Text) :
    AreParts depth (cutAtDepth (· == ',') depth t) := by
  induction t generalizing depth with
  | nil => rfl
  | cons c r ih =>
    have rest := ih (depth + nesting c)
    obtain ⟨part, parts, same⟩ := List.exists_cons_of_ne_nil
      (cutAtDepth_ne_nil (· == ',') (depth + nesting c) r)
    rw [same] at rest
    cases kept : c == ',' && depth + nesting c == 0 with
    | true =>
      obtain ⟨comma, outside⟩ := Bool.and_eq_true_iff.1 kept
      have zero : depth + nesting c = 0 := by simpa using outside
      have here : depth = 0 := by
        have flat : nesting c = 0 := by
          rw [beq_iff_eq.1 comma]
          decide
        omega
      simp only [cutAtDepth, kept, if_true, same]
      exact ⟨rfl, here, zero ▸ rest⟩
    | false =>
      rw [cutAtDepth_cons_of_not kept, same]
      exact rest.cons kept

theorem AreParts.map {depth : Int} {parts : List Text} {f : Text → Text}
    (own : AreParts depth parts) (each : ∀ part ∈ parts, SameCuts (f part) part) :
    AreParts depth (parts.map f) := by
  induction parts generalizing depth with
  | nil => exact own
  | cons first rest ih =>
    obtain ⟨ends, count⟩ := each first List.mem_cons_self depth
    have others : ∀ part ∈ rest, SameCuts (f part) part := fun part member =>
      each part (List.mem_cons_of_mem _ member)
    cases rest with
    | nil => exact count.trans own
    | cons second rest => exact ⟨count.trans own.1, ends.trans own.2.1, ih own.2.2 others⟩

theorem cutAtDepth_of_areParts {depth : Int} {parts : List Text} (own : AreParts depth parts) :
    cutAtDepth (· == ',') depth (Text.join [','] parts) = parts := by
  induction parts generalizing depth with
  | nil => exact own.elim
  | cons first rest ih =>
    cases rest with
    | nil => exact cutAtDepth_of_uncut own
    | cons second rest =>
      obtain ⟨uncut, back, others⟩ := own
      have separates : ∀ r, cutAtDepth (· == ',') 0 (',' :: r) =
          [] :: cutAtDepth (· == ',') 0 r := fun _ => rfl
      rw [Text.join_cons_cons, List.append_assoc, cutAtDepth_append (cutAtDepth_of_uncut uncut),
        back, List.singleton_append, separates, ih others]
      simp

end DocReport.Symbol

import DocReport.Text.Basic

/-!
Texts that cuts, trims and replacements leave alone because what they look for is not there, how
joined parts begin and end, and runs of characters of one class.
-/
namespace DocReport.Text

theorem trimStart_eq_self {t : Text} (solid : ∀ c ∈ t, isBlank c = false) : trimStart t = t := by
  cases t with
  | nil => rfl
  | cons c r => simp [trimStart, solid c List.mem_cons_self]

theorem dropTail_eq_self {p : Char → Bool} {t : Text} (kept : ∀ c ∈ t, p c = false) :
    dropTail p t = t := by
  have front : t.reverse.dropWhile p = t.reverse := by
    cases same : t.reverse with
    | nil => rfl
    | cons c r =>
      have member : c ∈ t := List.mem_reverse.1 (same ▸ List.mem_cons_self)
      simp [kept c member]
  rw [dropTail, front, List.reverse_reverse]

theorem trim_eq_self {t : Text} (solid : ∀ c ∈ t, isBlank c = false) : trim t = t := by
  rw [trim, trimStart_eq_self solid, trimEnd, dropTail_eq_self solid]

theorem cutFirst_of_not_mem {c : Char} {t : Text} (absent : c ∉ t) : cutFirst c t = (t, none) := by
  induction t with
  | nil => rfl
  | cons d r ih =>
    have first : d ≠ c := fun same => absent (same ▸ List.mem_cons_self)
    have rest : c ∉ r := fun member => absent (List.mem_cons_of_mem _ member)
    rw [cutFirst, if_neg first, ih rest]

/-- A cut is made at the first `c`. -/
theorem cutFirst_some {c : Char} {t head rest : Text} (cut : cutFirst c t = (head, some rest)) :
    t = head ++ c :: rest ∧ c ∉ head := by
  induction t generalizing head with
  | nil => cases cut
  | cons d r ih =>
    simp only [cutFirst] at cut
    split at cut
    · rename_i same
      subst same
      cases cut
      exact ⟨rfl, by simp⟩
    · rename_i different
      obtain ⟨rfl, tail⟩ := Prod.mk.inj cut
      obtain ⟨whole, absent⟩ := ih (Prod.ext rfl tail)
      refine ⟨?_, ?_⟩
      · rw [List.cons_append, ← whole]
      · simp only [List.mem_cons, not_or]
        exact ⟨Ne.symm different, absent⟩

theorem replace_of_not_mem {p : Char} {ps replacement t : Text} (absent : p ∉ t) :
    replace (p :: ps) replacement t = t := by
  rw [replace]
  induction t with
  | nil => rfl
  | cons c r ih =>
    have first : p ≠ c := fun same => absent (same ▸ List.mem_cons_self)
    have rest : p ∉ r := fun member => absent (List.mem_cons_of_mem _ member)
    have other : (p :: ps).isPrefixOf (c :: r) = false := by
      simp only [List.isPrefixOf, beq_eq_false_iff_ne.2 first, Bool.false_and]
    simp [replaceFrom, other, ih rest]

theorem join_cons_cons (separator first second : Text) (parts : List Text) :
    join separator (first :: second :: parts) =
      first ++ separator ++ join separator (second :: parts) := rfl

/-- One more part at the end. -/
theorem join_concat (separator part : Text) {parts : List Text} (nonempty : parts ≠ []) :
    join separator (parts ++ [part]) = join separator parts ++ separator ++ part := by
  induction parts with
  | nil => exact absurd rfl nonempty
  | cons first rest ih =>
    cases rest with
    | nil => rfl
    | cons second rest =>
      have inner := ih (by simp)
      simp only [List.cons_append] at inner ⊢
      rw [join_cons_cons, inner, join_cons_cons]
      simp only [List.append_assoc]

/-- Characters of joined parts come from a part or from the separator. -/
theorem mem_join {separator : Text} {parts : List Text} {c : Char}
    (member : c ∈ join separator parts) : c ∈ separator ∨ ∃ part ∈ parts, c ∈ part := by
  fun_induction join separator parts with
  | case1 => cases member
  | case2 part => exact Or.inr ⟨part, by simp, member⟩
  | case3 part parts _ ih =>
    simp only [List.mem_append] at member
    rcases member with (own | between) | later
    · exact Or.inr ⟨part, by simp, own⟩
    · exact Or.inl between
    · rcases ih later with between | ⟨other, belongs, inside⟩
      · exact Or.inl between
      · exact Or.inr ⟨other, by simp [belongs], inside⟩

theorem mem_join_of_mem {separator part : Text} {parts : List Text} {c : Char}
    (belongs : part ∈ parts) (member : c ∈ part) : c ∈ join separator parts := by
  fun_induction join separator parts with
  | case1 => cases belongs
  | case2 only => rwa [← List.mem_singleton.1 belongs]
  | case3 first parts _ ih =>
    rcases List.mem_cons.1 belongs with rfl | later
    · exact List.mem_append_left _ (List.mem_append_left _ member)
    · exact List.mem_append_right _ (ih later)

theorem not_mem_join_map {α : Type} {separator : Text} {items : List α} {f : α → Text} {c : Char}
    (between : c ∉ separator) (inside : ∀ item ∈ items, c ∉ f item) :
    c ∉ join separator (items.map f) := by
  intro member
  rcases mem_join member with own | ⟨part, belongs, own⟩
  · exact between own
  · obtain ⟨item, listed, rfl⟩ := List.mem_map.1 belongs
    exact inside item listed own

section Runs

variable {p : Char → Bool} {c : Char}

theorem mem_takeWhile {t : Text} {d : Char} (member : d ∈ t.takeWhile p) : p d = true :=
  List.all_eq_true.1 List.all_takeWhile d member

/-- A class tells its characters from all others. -/
theorem ne_of_class {d : Char} (member : p c = true) (other : p d = false) : c ≠ d := by
  rintro rfl
  rw [other] at member
  cases member

/-- Where a run of characters ends. -/
theorem run_of_dropWhile {t rest : Text} (stop : t.dropWhile p = c :: rest) :
    t = t.takeWhile p ++ c :: rest ∧ p c = false := by
  refine ⟨?_, ?_⟩
  · rw [← stop, List.takeWhile_append_dropWhile]
  · have front := List.head?_dropWhile_not p t
    simpa [stop] using front

theorem dropWhile_append_stop {run other : Text} (inside : ∀ d ∈ run, p d = true)
    (outside : ∀ d, other.head? = some d → p d = false) :
    (run ++ other).dropWhile p = other := by
  rw [List.dropWhile_append_of_pos inside]
  cases other with
  | nil => rfl
  | cons d rest => rw [List.dropWhile_cons_of_neg (by simp [outside d rfl])]

theorem takeWhile_append_stop {run other : Text} (inside : ∀ d ∈ run, p d = true)
    (outside : ∀ d, other.head? = some d → p d = false) :
    (run ++ other).takeWhile p = run := by
  rw [List.takeWhile_append_of_pos inside]
  cases other with
  | nil => exact List.append_nil run
  | cons d rest =>
    rw [List.takeWhile_cons_of_neg (by simp [outside d rfl]), List.append_nil]

theorem dropWhile_run {run : Text} (inside : ∀ d ∈ run, p d = true) (outside : p c = false)
    (rest : Text) : (run ++ c :: rest).dropWhile p = c :: rest :=
  dropWhile_append_stop inside fun _ first => Option.some.inj first ▸ outside

theorem takeWhile_run {run : Text} (inside : ∀ d ∈ run, p d = true) (outside : p c = false)
    (rest : Text) : (run ++ c :: rest).takeWhile p = run :=
  takeWhile_append_stop inside fun _ first => Option.some.inj first ▸ outside

theorem stop_of_dropWhile (p : Char → Bool) (t : Text) :
    ∀ d, (t.dropWhile p).head? = some d → p d = false := by
  intro d first
  have front := List.head?_dropWhile_not p t
  simpa [first] using front

/-- A run and what stands behind it are told apart in one way only. -/
theorem run_inj {a b s t : Text} {d : Char} (inside : ∀ e ∈ a, p e = true) (stop : p c = false)
    (inside' : ∀ e ∈ b, p e = true) (stop' : p d = false) (same : a ++ c :: s = b ++ d :: t) :
    a = b ∧ c = d ∧ s = t := by
  have runs : a = b := by
    rw [← takeWhile_run inside stop s, same, takeWhile_run inside' stop' t]
  have rests : c :: s = d :: t := by
    rw [← dropWhile_run inside stop s, same, dropWhile_run inside' stop' t]
  exact ⟨runs, List.cons.inj rests⟩

theorem bne_of_not_mem {t : Text} (absent : c ∉ t) : ∀ d ∈ t, (d != c) = true := by
  intro d member
  rw [bne_iff_ne]
  rintro rfl
  exact absent member

/-- Where the last mark stands is told in one way only. -/
theorem append_mark_inj {a b s t : Text} (last : c ∉ s) (last' : c ∉ t)
    (same : a ++ c :: s = b ++ c :: t) : a = b ∧ s = t := by
  have reversed : s.reverse ++ c :: a.reverse = t.reverse ++ c :: b.reverse := by
    simpa using congrArg List.reverse same
  obtain ⟨tails, _, heads⟩ := run_inj (bne_of_not_mem (by simpa using last)) (by simp)
    (bne_of_not_mem (by simpa using last')) (by simp) reversed
  exact ⟨List.reverse_inj.1 heads, List.reverse_inj.1 tails⟩

end Runs

end DocReport.Text

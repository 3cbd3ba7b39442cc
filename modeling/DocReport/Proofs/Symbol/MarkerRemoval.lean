import DocReport.Symbol.Marker

/-!
Kind markers are removed letter by letter. Each pass finds the markers that stand in the text at its
turn, so what two passes leave depends on their order as soon as one brings a letter and a colon
together that the other looks for. That happens exactly where a letter stands before markers behind
which there is one more colon: letters and colons are then nested like brackets. In any other text
all orders agree with the removal of all markers at once, and no marker is left.
-/
namespace DocReport.Symbol

/-- Removes markers letter by letter, in the given order. -/
def removeInOrder (order : List Char) (t : Text) : Text :=
  order.foldl (fun t letter => dropMarker letter t) t

theorem removeInOrder_markers (t : Text) : removeInOrder markers t = withoutMarkers t := rfl

/-- Removes the markers of all given letters at once. -/
def dropMarkers (letters : List Char) : Text → Text
  | c :: d :: r =>
    if c ∈ letters ∧ d = ':' then dropMarkers letters r else c :: dropMarkers letters (d :: r)
  | t => t

/-- No marker of the given letters is in the text. -/
def MarkerFree (letters : List Char) (t : Text) : Prop :=
  ∀ letter ∈ letters, ¬ [letter, ':'] <:+: t

/-- Markers one after the other. -/
def markerRow (letters : List Char) : Text :=
  letters.flatMap fun letter => [letter, ':']

/-- A letter becomes the letter of a marker when the markers behind it go. -/
def Stacked (outer inner : List Char) (t : Text) : Prop :=
  ∃ letter ∈ outer, ∃ row ≠ [], (∀ c ∈ row, c ∈ inner) ∧ letter :: markerRow row ++ [':'] <:+: t

theorem Stacked.mono {outer outer' inner inner' : List Char} {s t : Text}
    (stacked : Stacked outer inner s) (more : outer ⊆ outer') (more' : inner ⊆ inner')
    (part : s <:+: t) : Stacked outer' inner' t := by
  obtain ⟨letter, listed, row, nonempty, own, inside⟩ := stacked
  exact ⟨letter, more listed, row, nonempty, fun c member => more' (own c member),
    inside.trans part⟩

/-! ### One pass -/

section Pass

variable {letters : List Char}

theorem dropMarkers_marker {c : Char} (listed : c ∈ letters) (r : Text) :
    dropMarkers letters (c :: ':' :: r) = dropMarkers letters r := by
  rw [dropMarkers, if_pos ⟨listed, rfl⟩]

theorem dropMarkers_cons {c : Char} {r : Text} (kept : c ∈ letters → r.head? ≠ some ':') :
    dropMarkers letters (c :: r) = c :: dropMarkers letters r := by
  cases r with
  | nil => rfl
  | cons d r =>
    rw [dropMarkers, if_neg]
    rintro ⟨listed, rfl⟩
    exact kept listed rfl

/-- A text is empty, begins with a marker, or begins with a character that is kept. -/
theorem marker_cases (letters : List Char) {motive : Text → Prop} (nil : motive [])
    (marker : ∀ c ∈ letters, ∀ r, motive r → motive (c :: ':' :: r))
    (cons : ∀ c r, (c ∈ letters → r.head? ≠ some ':') → motive r → motive (c :: r)) (t : Text) :
    motive t := by
  induction t using dropMarkers.induct letters with
  | case1 c d r both ih =>
    obtain ⟨listed, rfl⟩ := both
    exact marker c listed r ih
  | case2 c d r kept ih =>
    refine cons c (d :: r) (fun listed first => kept ⟨listed, ?_⟩) ih
    exact Option.some.inj first
  | case3 t short =>
    cases t with
    | nil => exact nil
    | cons c r =>
      cases r with
      | nil => exact cons c [] (fun _ first => by cases first) nil
      | cons d r => exact absurd rfl (short c d r)

theorem dropMarkers_nil (t : Text) : dropMarkers [] t = t := by
  induction t with
  | nil => rfl
  | cons c r ih => rw [dropMarkers_cons (by simp), ih]

theorem dropMarkers_singleton (letter : Char) (t : Text) :
    dropMarkers [letter] t = dropMarker letter t := by
  fun_induction dropMarker letter t with
  | case1 c d r both ih =>
    obtain ⟨rfl, rfl⟩ := both
    rw [dropMarkers_marker List.mem_cons_self, ih]
  | case2 c d r kept ih =>
    rw [dropMarkers_cons, ih]
    intro listed first
    exact kept ⟨List.mem_singleton.1 listed, Option.some.inj first⟩
  | case3 t short =>
    cases t with
    | nil => rfl
    | cons c r =>
      cases r with
      | nil => rfl
      | cons d r => exact absurd rfl (short c d r)

theorem dropMarkers_congr {others : List Char} (same : ∀ c, c ∈ letters ↔ c ∈ others) (t : Text) :
    dropMarkers letters t = dropMarkers others t := by
  induction t using marker_cases letters with
  | nil => rfl
  | marker c listed r ih => rw [dropMarkers_marker listed, dropMarkers_marker ((same c).1 listed), ih]
  | cons c r kept ih =>
    rw [dropMarkers_cons kept, dropMarkers_cons fun listed => kept ((same c).2 listed), ih]

theorem length_dropMarkers_le (letters : List Char) (t : Text) :
    (dropMarkers letters t).length ≤ t.length := by
  induction t using marker_cases letters with
  | nil => exact Nat.le_refl 0
  | marker c listed r ih =>
    rw [dropMarkers_marker listed, List.length_cons, List.length_cons]
    omega
  | cons c r kept ih =>
    rw [dropMarkers_cons kept]
    exact Nat.succ_le_succ ih

theorem markerFree_cons {c : Char} {r : Text} :
    MarkerFree letters (c :: r) ↔ (c ∈ letters → r.head? ≠ some ':') ∧ MarkerFree letters r := by
  have opens : ∀ letter, [letter, ':'] <+: c :: r ↔ letter = c ∧ r.head? = some ':' := by
    intro letter
    cases r <;> simp [eq_comm]
  simp only [MarkerFree, List.infix_cons_iff, opens, not_or, not_and]
  constructor
  · intro free
    exact ⟨fun listed => (free c listed).1 rfl, fun letter listed => (free letter listed).2⟩
  · rintro ⟨first, rest⟩ letter listed
    refine ⟨?_, rest letter listed⟩
    rintro rfl
    exact first listed

/-- A pass changes nothing exactly if there is no marker. -/
theorem dropMarkers_eq_self_iff (t : Text) : dropMarkers letters t = t ↔ MarkerFree letters t := by
  induction t using marker_cases letters with
  | nil => simp [MarkerFree, dropMarkers]
  | marker c listed r ih =>
    have shorter := length_dropMarkers_le letters r
    rw [dropMarkers_marker listed, markerFree_cons]
    constructor
    · intro same
      rw [same, List.length_cons, List.length_cons] at shorter
      omega
    · rintro ⟨first, -⟩
      exact absurd rfl (first listed)
  | cons c r kept ih =>
    rw [dropMarkers_cons kept, markerFree_cons, List.cons_inj_right, ih]
    exact (and_iff_right kept).symm

theorem removeInOrder_of_free {t : Text} (free : MarkerFree letters t) :
    removeInOrder letters t = t := by
  unfold removeInOrder
  induction letters with
  | nil => rfl
  | cons letter rest ih =>
    have own : dropMarkers [letter] t = t :=
      (dropMarkers_eq_self_iff t).2 fun c listed =>
        List.mem_singleton.1 listed ▸ free letter List.mem_cons_self
    rw [List.foldl_cons, ← dropMarkers_singleton, own]
    exact ih fun c listed => free c (List.mem_cons_of_mem _ listed)

/-- A colon comes to the front if only markers stand before it. -/
theorem exists_row_of_head {t : Text} (first : (dropMarkers letters t).head? = some ':') :
    ∃ row, (∀ c ∈ row, c ∈ letters) ∧ markerRow row ++ [':'] <+: t := by
  induction t using marker_cases letters with
  | nil => cases first
  | marker c listed r ih =>
    rw [dropMarkers_marker listed] at first
    obtain ⟨row, own, front⟩ := ih first
    refine ⟨c :: row, List.forall_mem_cons.2 ⟨listed, own⟩, ?_⟩
    obtain ⟨rest, rfl⟩ := front
    exact ⟨rest, by simp [markerRow]⟩
  | cons c r kept ih =>
    rw [dropMarkers_cons kept] at first
    cases first
    exact ⟨[], by simp, by simp [markerRow]⟩

end Pass

/-! ### Texts in which markers do not stack -/

section Flat

variable {inner outer : List Char}

/-- Two passes do what one does for the letters of both, unless the first makes markers for the
second. -/
theorem dropMarkers_dropMarkers (colon : ':' ∉ inner) {t : Text}
    (flat : ¬ Stacked outer inner t) :
    dropMarkers outer (dropMarkers inner t) = dropMarkers (inner ++ outer) t := by
  induction t using marker_cases (inner ++ outer) with
  | nil => rfl
  | marker c listed r ih =>
    have later : ¬ Stacked outer inner r := fun stacked =>
      flat (stacked.mono (List.Subset.refl _) (List.Subset.refl _)
        (List.suffix_append [c, ':'] r).isInfix)
    rw [dropMarkers_marker listed, ← ih later]
    by_cases own : c ∈ inner
    · rw [dropMarkers_marker own]
    · have listed' : c ∈ outer := (List.mem_append.1 listed).resolve_left own
      rw [dropMarkers_cons fun member => absurd member own,
        dropMarkers_cons fun member => absurd member colon, dropMarkers_marker listed']
  | cons c r kept ih =>
    have later : ¬ Stacked outer inner r := fun stacked =>
      flat (stacked.mono (List.Subset.refl _) (List.Subset.refl _) (List.suffix_cons c r).isInfix)
    rw [dropMarkers_cons kept, ← ih later,
      dropMarkers_cons fun member => kept (List.mem_append_left _ member), dropMarkers_cons]
    intro listed first
    obtain ⟨row, own, front⟩ := exists_row_of_head first
    -- Without markers in between, the colon would have been at the front before.
    have nonempty : row ≠ [] := by
      rintro rfl
      obtain ⟨rest, rfl⟩ := front
      exact kept (List.mem_append_right _ listed) rfl
    exact flat ⟨c, listed, row, nonempty, own, ((List.prefix_cons_inj c).2 front).isInfix⟩

theorem removeInOrder_dropMarkers {order done : List Char} {t : Text} (colon : ':' ∉ done ++ order)
    (flat : ¬ Stacked (done ++ order) (done ++ order) t) :
    removeInOrder order (dropMarkers done t) = dropMarkers (done ++ order) t := by
  induction order generalizing done with
  | nil => rw [List.append_nil]; rfl
  | cons letter order ih =>
    have whole : done ++ letter :: order = (done ++ [letter]) ++ order := by simp
    have pass : dropMarker letter (dropMarkers done t) = dropMarkers (done ++ [letter]) t := by
      rw [← dropMarkers_singleton]
      refine dropMarkers_dropMarkers (fun member => colon (List.mem_append_left _ member)) ?_
      intro stacked
      refine flat (stacked.mono ?_ (List.subset_append_left _ _) (List.infix_refl t))
      simp
    rw [whole] at colon flat ⊢
    rw [← ih colon flat, ← pass]
    rfl

/-- Where markers do not stack, every order removes them all at once. -/
theorem removeInOrder_of_flat {order : List Char} {t : Text} (colon : ':' ∉ order)
    (flat : ¬ Stacked order order t) : removeInOrder order t = dropMarkers order t := by
  have run := @removeInOrder_dropMarkers order [] t colon flat
  rwa [dropMarkers_nil] at run

theorem markerFree_of_flat {letters : List Char} {t : Text} (colon : ':' ∉ letters)
    (flat : ¬ Stacked letters letters t) : MarkerFree letters (dropMarkers letters t) := by
  rw [← dropMarkers_eq_self_iff, dropMarkers_dropMarkers colon flat]
  exact dropMarkers_congr (by simp) t

end Flat

/-! ### Texts in which markers stack -/

section Nested

variable {x letter : Char} {row : List Char} {t : Text}

/-- A pass goes through two texts one after the other, if no marker is where they meet. -/
theorem dropMarker_append {s u : Text} (apart : s.getLast? = some x → u.head? ≠ some ':') :
    dropMarker x (s ++ u) = dropMarker x s ++ dropMarker x u := by
  simp only [← dropMarkers_singleton]
  induction s using marker_cases [x] with
  | nil => rfl
  | marker c listed r ih =>
    have inner : r.getLast? = some x → u.head? ≠ some ':' := fun last =>
      apart (by simp [List.getLast?_cons, last])
    rw [List.cons_append, List.cons_append, dropMarkers_marker listed, dropMarkers_marker listed,
      ih inner]
  | cons c r kept ih =>
    have inner : r.getLast? = some x → u.head? ≠ some ':' := fun last =>
      apart (by simp [List.getLast?_cons, last])
    rw [dropMarkers_cons kept, List.cons_append, dropMarkers_cons, ih inner, List.cons_append]
    intro listed first
    cases r with
    | nil => exact apart (by rw [List.mem_singleton.1 listed]; rfl) first
    | cons d r => exact kept listed first

theorem dropMarker_colon (plain : x ≠ ':') (rest : Text) :
    dropMarker x (':' :: rest) = ':' :: dropMarker x rest := by
  have apart : [':'].getLast? = some x → rest.head? ≠ some ':' := fun last =>
    absurd (Option.some.inj last).symm plain
  exact dropMarker_append apart

theorem dropMarker_markerRow (plain : x ≠ ':') (row : List Char) :
    dropMarker x (markerRow row) = markerRow (row.filter (· ≠ x)) := by
  induction row with
  | nil => rfl
  | cons c row ih =>
    have apart : [c, ':'].getLast? = some x → (markerRow row).head? ≠ some ':' := fun last =>
      absurd (Option.some.inj last).symm plain
    change dropMarker x ([c, ':'] ++ markerRow row) = _
    rw [dropMarker_append apart, ih]
    by_cases same : c = x
    · simp [same, dropMarker]
    · simp [same, dropMarker, markerRow]

theorem markerRow_ends (plain : x ≠ ':') (row : List Char) :
    (markerRow row).getLast? ≠ some x := by
  induction row with
  | nil => simp [markerRow]
  | cons c row ih =>
    change ([c, ':'] ++ markerRow row).getLast? ≠ some x
    rw [List.getLast?_append]
    cases last : (markerRow row).getLast? with
    | none => simpa using Ne.symm plain
    | some d =>
      rw [last] at ih
      exact ih

/-- A pass leaves the letter in front and the last colon, and takes markers in between. -/
theorem stack_dropMarker (plain : x ≠ ':') (opens : letter ≠ ':') (own : ':' ∉ row)
    (inside : x = letter → row ≠ []) (stack : letter :: markerRow row ++ [':'] <:+: t) :
    letter :: markerRow (row.filter (· ≠ x)) ++ [':'] <:+: dropMarker x t := by
  obtain ⟨front, rest, rfl⟩ := stack
  have behind : dropMarker x (markerRow row ++ ':' :: rest) =
      markerRow (row.filter (· ≠ x)) ++ ':' :: dropMarker x rest := by
    rw [dropMarker_append fun last => absurd last (markerRow_ends plain row),
      dropMarker_markerRow plain, dropMarker_colon plain]
  have kept : [letter].getLast? = some x → (markerRow row ++ ':' :: rest).head? ≠ some ':' := by
    intro same
    obtain ⟨c, others, rfl⟩ := List.exists_cons_of_ne_nil (inside (Option.some.inj same).symm)
    intro first
    exact own (List.mem_cons.2 (.inl (Option.some.inj first).symm))
  have whole : dropMarker x (letter :: (markerRow row ++ ':' :: rest)) =
      letter :: (markerRow (row.filter (· ≠ x)) ++ ':' :: dropMarker x rest) := by
    rw [← List.singleton_append, dropMarker_append kept, behind]
    rfl
  have apart : front.getLast? = some x →
      (letter :: (markerRow row ++ ':' :: rest)).head? ≠ some ':' := fun _ first =>
    opens (Option.some.inj first)
  refine ⟨dropMarker x front, dropMarker x rest, ?_⟩
  have text : front ++ (letter :: markerRow row ++ [':']) ++ rest =
      front ++ letter :: (markerRow row ++ ':' :: rest) := by simp
  rw [text, dropMarker_append apart, whole]
  simp

/-- Once its own pass is over, a letter with a colon that comes next to it stays. -/
theorem marker_of_stack {order : List Char} (opens : letter ≠ ':') (colon : ':' ∉ order)
    (past : letter ∉ order) (own : ∀ c ∈ row, c ∈ order)
    (stack : letter :: markerRow row ++ [':'] <:+: t) :
    [letter, ':'] <:+: removeInOrder order t := by
  induction order generalizing row t with
  | nil =>
    have empty : row = [] := List.eq_nil_iff_forall_not_mem.2 fun c member => by
      cases own c member
    rw [empty] at stack
    exact stack
  | cons x order ih =>
    rw [List.mem_cons, not_or] at colon past
    have inRow : ':' ∉ row := fun member => by
      rcases List.mem_cons.1 (own _ member) with same | later
      · exact colon.1 same
      · exact colon.2 later
    refine ih colon.2 past.2 ?_ (stack_dropMarker (Ne.symm colon.1) opens inRow
      (fun same => absurd same.symm past.1) stack)
    intro c member
    obtain ⟨listed, other⟩ := List.mem_filter.1 member
    exact (List.mem_cons.1 (own c listed)).resolve_left (by simpa using other)

/-- If markers stack, some order of their letters leaves a marker. -/
theorem exists_order_of_stacked {letters : List Char} (colon : ':' ∉ letters)
    (distinct : letters.Nodup) (stacked : Stacked letters letters t) :
    ∃ order, order.Perm letters ∧ ¬ MarkerFree letters (removeInOrder order t) := by
  obtain ⟨letter, listed, row, nonempty, own, stack⟩ := stacked
  refine ⟨letter :: letters.erase letter, (List.perm_cons_erase listed).symm, fun free => ?_⟩
  have opens : letter ≠ ':' := by
    rintro rfl
    exact colon listed
  have first := stack_dropMarker opens opens (fun member => colon (own _ member))
    (fun _ => nonempty) stack
  have others : ':' ∉ letters.erase letter := fun member => colon (List.mem_of_mem_erase member)
  have left : [letter, ':'] <:+: removeInOrder (letters.erase letter) (dropMarker letter t) := by
    refine marker_of_stack opens others distinct.not_mem_erase ?_ first
    intro c member
    obtain ⟨inRow, other⟩ := List.mem_filter.1 member
    exact (List.mem_erase_of_ne (by simpa using other)).2 (own c inRow)
  exact free letter listed left

end Nested

/-- Markers stack in a text: a letter of a marker stands before markers with one more colon behind
them. -/
def MarkersStack (t : Text) : Prop :=
  Stacked markers markers t

/-- Removing markers leaves none, removing them again changes nothing, and all orders of their
letters give the same, exactly if markers do not stack in the text. -/
theorem markers_gone_in_any_order_iff (t : Text) :
    (MarkerFree markers (withoutMarkers t) ∧
      withoutMarkers (withoutMarkers t) = withoutMarkers t ∧
      ∀ order, order.Perm markers → removeInOrder order t = withoutMarkers t) ↔
    ¬ MarkersStack t := by
  have colon : ':' ∉ markers := by decide
  constructor
  · rintro ⟨free, -, alike⟩ stacked
    obtain ⟨order, perm, left⟩ := exists_order_of_stacked colon (by decide) stacked
    exact left (alike order perm ▸ free)
  · intro flat
    have once : withoutMarkers t = dropMarkers markers t :=
      (removeInOrder_markers t).symm.trans (removeInOrder_of_flat colon flat)
    have free : MarkerFree markers (withoutMarkers t) := once ▸ markerFree_of_flat colon flat
    refine ⟨free, removeInOrder_of_free free, fun order perm => ?_⟩
    have same : ∀ c, c ∈ order ↔ c ∈ markers := fun c => perm.mem_iff
    have flat' : ¬ Stacked order order t := fun stacked =>
      flat (stacked.mono (fun c => (same c).1) (fun c => (same c).1) (List.infix_refl t))
    rw [removeInOrder_of_flat (fun member => colon ((same _).1 member)) flat', once]
    exact dropMarkers_congr same t

/-- A method marker inside a type marker: one order removes both, and the order of the program
leaves the outer one. -/
theorem marker_left_by_stack :
    withoutMarkers ['T', 'M', ':', ':'] = ['T', ':'] ∧
      ¬ MarkerFree markers (withoutMarkers ['T', 'M', ':', ':']) ∧
      withoutMarkers (withoutMarkers ['T', 'M', ':', ':']) ≠ withoutMarkers ['T', 'M', ':', ':'] ∧
      ['M', 'T', 'P', 'F'].Perm markers ∧
      removeInOrder ['M', 'T', 'P', 'F'] ['T', 'M', ':', ':'] = [] := by
  have left : withoutMarkers ['T', 'M', ':', ':'] = ['T', ':'] := by decide
  refine ⟨left, fun free => ?_, by decide, by decide, by decide⟩
  rw [left] at free
  exact free 'T' List.mem_cons_self (List.infix_refl _)

end DocReport.Symbol

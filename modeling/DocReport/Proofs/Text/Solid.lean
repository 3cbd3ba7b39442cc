import DocReport.Proofs.Text.Basic

/-!
What cuts, joins and trims do to the characters that are not white. `solid` deletes all white
space, so an operation that only moves, adds or drops white space is invisible behind it.
-/
namespace DocReport.Text

@[simp] theorem solid_nil : solid [] = [] := rfl

@[simp] theorem solid_append (s t : Text) : solid (s ++ t) = solid s ++ solid t :=
  List.filter_append ..

theorem solid_cons (c : Char) (t : Text) : solid (c :: t) = solid [c] ++ solid t :=
  solid_append [c] t

theorem solid_singleton_of_blank {c : Char} (blank : isBlank c = true) : solid [c] = [] := by
  simp [solid, blank]

@[simp] theorem solid_reverse (t : Text) : solid t.reverse = (solid t).reverse :=
  List.filter_reverse ..

/-- The non-white characters of a text occur in it in their order. -/
theorem solid_sublist (t : Text) : (solid t).Sublist t :=
  List.filter_sublist

theorem solid_dropWhile {p : Char → Bool} (white : ∀ c, p c = true → isBlank c = true) (t : Text) :
    solid (t.dropWhile p) = solid t := by
  induction t with
  | nil => rfl
  | cons c r ih =>
    rw [List.dropWhile_cons]
    split
    · rename_i dropped
      rw [ih, solid_cons, solid_singleton_of_blank (white c dropped), List.nil_append]
    · rfl

theorem solid_dropTail {p : Char → Bool} (white : ∀ c, p c = true → isBlank c = true) (t : Text) :
    solid (dropTail p t) = solid t := by
  rw [dropTail, solid_reverse, solid_dropWhile white, solid_reverse, List.reverse_reverse]

@[simp] theorem solid_trim (t : Text) : solid (trim t) = solid t := by
  rw [trim, trimEnd, solid_dropTail (fun _ => id), trimStart, solid_dropWhile (fun _ => id)]

theorem trim_ne_nil {t : Text} {c : Char} (member : c ∈ t) (visible : isBlank c = false) :
    trim t ≠ [] := by
  intro empty
  have kept : c ∈ solid t := List.mem_filter.2 ⟨member, by simp [visible]⟩
  rw [← solid_trim, empty] at kept
  cases kept

/-- Deleting characters that are white anyway. -/
theorem solid_filter {p : Char → Bool} (white : ∀ c, p c = false → isBlank c = true) (t : Text) :
    solid (t.filter p) = solid t := by
  rw [solid, List.filter_filter]
  apply List.filter_congr
  intro c _
  cases kept : p c with
  | true => simp
  | false => simp [white c kept]

theorem solid_join {separator : Text} (white : solid separator = []) (parts : List Text) :
    solid (join separator parts) = parts.flatMap solid := by
  fun_induction join separator parts with
  | case1 => rfl
  | case2 part => simp
  | case3 part parts _ ih => simp [white, ih]

/-- A replacement of white text by white text, occurrence by occurrence. While characters of an
occurrence are still to be passed over, what is passed over is white too. -/
theorem solid_replaceFrom {pattern replacement : Text} (nonempty : pattern ≠ [])
    (white : solid pattern = []) (whiteAgain : solid replacement = []) (skip : Nat) (t : Text)
    (passed : solid (t.take skip) = []) :
    solid (replaceFrom pattern replacement skip t) = solid t := by
  fun_induction replaceFrom pattern replacement skip t with
  | case1 => rfl
  | case2 skip c r ih =>
    rw [List.take_succ_cons, solid_cons, List.append_eq_nil_iff] at passed
    rw [ih passed.2, solid_cons, passed.1, List.nil_append]
  | case3 c r found ih =>
    obtain ⟨rest, split⟩ := List.isPrefixOf_iff_prefix.1 found
    have inside : solid ((c :: r).take pattern.length) = [] := by
      rw [← split, List.take_left' rfl, white]
    have counted : pattern.length = (pattern.length - 1) + 1 := by
      have := List.length_pos_iff.2 nonempty
      omega
    rw [counted, List.take_succ_cons, solid_cons, List.append_eq_nil_iff] at inside
    rw [solid_append, whiteAgain, List.nil_append, ih inside.2, solid_cons, inside.1,
      List.nil_append]
  | case4 c r _ ih => rw [solid_cons, ih rfl, ← solid_cons]

/-- Unifying line ends touches white space only. -/
theorem solid_replace_lineEnds (t : Text) : solid (replace ['\r', '\n'] ['\n'] t) = solid t :=
  solid_replaceFrom (by decide) (by decide) (by decide) 0 t rfl

end DocReport.Text

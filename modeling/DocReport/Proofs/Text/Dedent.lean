import DocReport.Proofs.Text.Edges
import DocReport.Text.Dedent

/-!
What the removal of common indentation does not see: indentation that is put before every line, and
blank lines around the text. The margin grows by what all lines have more, and lines of spaces and
tabs have no say in it.
-/
namespace DocReport.Text

theorem commonStart_append (indent s t : Text) :
    commonStart (indent ++ s) (indent ++ t) = indent ++ commonStart s t := by
  induction indent with
  | nil => rfl
  | cons c rest ih => rw [List.cons_append, List.cons_append, commonStart, if_pos rfl, ih]; rfl

theorem foldl_commonStart_append (indent first : Text) (others : List Text) :
    (others.map (indent ++ ·)).foldl commonStart (indent ++ first) =
      indent ++ others.foldl commonStart first := by
  induction others generalizing first with
  | nil => rfl
  | cons second others ih =>
    rw [List.map_cons, List.foldl_cons, List.foldl_cons, commonStart_append, ih]

/-- Lines without the indentation that they share. -/
def dedentLines (parts : List Text) : List Text :=
  let cleared := parts.map clearBlankLine
  cleared.map fun line => line.drop (margin cleared).length

theorem dedent_unlines {parts : List Text} (nonempty : parts ≠ [])
    (single : ∀ part ∈ parts, '\n' ∉ part) :
    dedent (unlines parts) = unlines (dedentLines parts) := by
  have same : ∀ t, dedent t = unlines (dedentLines (lines t)) := fun _ => rfl
  rw [same, (lines_unlines_iff nonempty).2 single]

theorem indents_ne_nil {parts : List Text} {line : Text} (member : line ∈ parts)
    (visible : line ≠ []) : indents parts ≠ [] := by
  unfold indents
  intro none
  have kept : line ∈ parts.filter (!·.isEmpty) := List.mem_filter.2 ⟨member, by simpa using visible⟩
  rw [List.map_eq_nil_iff.1 none] at kept
  cases kept

section Indented

/-- A line with indentation put before it, unless there is nothing to indent. -/
def indentLine (indent line : Text) : Text :=
  if line.isEmpty then [] else indent ++ line

variable {indent : Text} (white : indent.all isIndent = true)

include white

theorem clearBlankLine_append (line : Text) :
    clearBlankLine (indent ++ line) = indentLine indent (clearBlankLine line) := by
  unfold clearBlankLine indentLine
  rw [List.all_append, white, Bool.true_and]
  split
  · rfl
  · rename_i visible
    have some : line ≠ [] := by
      rintro rfl
      exact visible rfl
    rw [if_neg (by simpa using some)]

theorem indents_indentLine (parts : List Text) :
    indents (parts.map (indentLine indent)) = (indents parts).map (indent ++ ·) := by
  unfold indents
  induction parts with
  | nil => rfl
  | cons line parts ih =>
    cases line with
    | nil => exact ih
    | cons c rest =>
      have shifted : indentLine indent (c :: rest) = indent ++ c :: rest := rfl
      have grown : (indent ++ c :: rest).takeWhile isIndent =
          indent ++ (c :: rest).takeWhile isIndent :=
        List.takeWhile_append_of_pos (List.all_eq_true.1 white)
      rw [List.map_cons, shifted, List.filter_cons_of_pos (by simp), List.map_cons, grown, ih,
        List.filter_cons_of_pos (by simp), List.map_cons, List.map_cons]

/-- If any line counts, the margin grows by what all lines have more. -/
theorem margin_indentLine {parts : List Text} (counts : indents parts ≠ []) :
    margin (parts.map (indentLine indent)) = indent ++ margin parts := by
  unfold margin
  rw [indents_indentLine white]
  cases found : indents parts with
  | nil => exact absurd found counts
  | cons first others => exact foldl_commonStart_append indent first others

/-- Indentation before every line is removed with the rest of the margin. -/
theorem dedentLines_indent (parts : List Text) :
    dedentLines (parts.map (indent ++ ·)) = dedentLines parts := by
  have cleared : (parts.map (indent ++ ·)).map clearBlankLine =
      (parts.map clearBlankLine).map (indentLine indent) := by
    rw [List.map_map, List.map_map]
    exact List.map_congr_left fun line _ => clearBlankLine_append white line
  unfold dedentLines
  rw [cleared]
  generalize parts.map clearBlankLine = rows
  rw [List.map_map]
  refine List.map_congr_left fun line member => ?_
  cases line with
  | nil => simp [indentLine]
  | cons c rest =>
    have grown := margin_indentLine white (indents_ne_nil member (by simp))
    have shifted : indentLine indent (c :: rest) = indent ++ c :: rest := rfl
    simp only [Function.comp_apply]
    rw [grown, shifted, List.length_append, ← List.drop_drop, List.drop_left]

end Indented

/-- An empty line before and a blank line behind the text stay empty lines. -/
theorem dedentLines_between (parts : List Text) {last : Text} (white : last.all isIndent = true) :
    dedentLines ([] :: parts ++ [last]) = [] :: dedentLines parts ++ [[]] := by
  have first : clearBlankLine [] = [] := rfl
  have final : clearBlankLine last = [] := if_pos white
  have same : margin ([] :: parts.map clearBlankLine ++ [[]]) =
      margin (parts.map clearBlankLine) := by
    simp [margin, indents]
  simp only [dedentLines]
  rw [List.map_append, List.map_cons, List.map_singleton, first, final, same]
  simp

theorem dedentLines_ne_nil {parts : List Text} (nonempty : parts ≠ []) :
    dedentLines parts ≠ [] := by
  simpa [dedentLines] using nonempty

theorem trim_unlines_between {parts : List Text} (nonempty : parts ≠ []) :
    trim (unlines ([] :: parts ++ [[]])) = trim (unlines parts) := by
  have feed : IsGap ['\n'] := by
    intro c member
    rw [List.mem_singleton.1 member]
    rfl
  have front : unlines ([] :: parts) = ['\n'] ++ unlines parts := by
    cases parts with
    | nil => exact absurd rfl nonempty
    | cons first others => rfl
  rw [unlines, join_concat _ _ (by simp), List.append_nil, trim_append_gap feed]
  change trim (unlines ([] :: parts)) = trim (unlines parts)
  rw [front, trim_gap_append feed]

end DocReport.Text

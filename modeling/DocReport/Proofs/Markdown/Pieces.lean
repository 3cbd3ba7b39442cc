import DocReport.Proofs.Markdown.Solid
import DocReport.Proofs.Text.Edges

/-!
What adding a piece to a text does. An inline piece comes behind the text, maybe without spaces at
its front. A block finds nothing before it, or the text without the spaces and line feeds at its end
and an empty line instead.
-/
namespace DocReport.Markdown

open Text (isBlank solid emptyLine)

/-- An inline piece loses white space at its front at most. -/
theorem exists_appendInline (out value : Text) :
    ∃ p : Char → Bool, (∀ c, p c = true → isBlank c = true) ∧
      append out (.inline value) = out ++ value.dropWhile p := by
  change ∃ p : Char → Bool, _ ∧ appendInline out value = _
  unfold appendInline
  split
  · exact ⟨(· == ' '), space_is_blank, rfl⟩
  · refine ⟨fun _ => false, fun _ never => absurd never Bool.false_ne_true, ?_⟩
    cases value <;> rfl

theorem visible_of_fence {t : Text} (held : fence <+: t ∨ fence <:+ t) : solid t ≠ [] := by
  have ticks : solid fence = fence := by decide
  rcases held with ⟨rest, rfl⟩ | ⟨rest, rfl⟩
  · rw [Text.solid_append, ticks]
    simp [fence]
  · rw [Text.solid_append, ticks]
    simp [fence]

/-- What a block finds before it. -/
def beforeBlock (out : Text) : Text :=
  let trimmed := Text.dropTail (· == ' ') out
  if trimmed.isEmpty then [] else Text.dropTail (· == '\n') trimmed ++ emptyLine

theorem appendBlock_eq (out block : Text) :
    appendBlock out block = beforeBlock out ++ block ++ emptyLine := rfl

theorem beforeBlock_closes (out : Text) :
    beforeBlock out = [] ∨ emptyLine <:+ beforeBlock out := by
  unfold beforeBlock
  dsimp only
  split
  · exact Or.inl rfl
  · exact Or.inr (List.suffix_append _ _)

theorem beforeBlock_of_visible {out : Text} (visible : solid out ≠ []) :
    beforeBlock out =
      Text.dropTail (· == '\n') (Text.dropTail (· == ' ') out) ++ emptyLine := by
  have some : (Text.dropTail (· == ' ') out).isEmpty = false :=
    List.isEmpty_eq_false_iff.2 (Text.dropTail_ne_nil space_is_blank visible)
  unfold beforeBlock
  dsimp only
  rw [some, if_neg Bool.false_ne_true]

theorem trim_beforeBlock (out : Text) : Text.trim (beforeBlock out) = Text.trim out := by
  have spaces := Text.trim_dropTail space_is_blank out
  unfold beforeBlock
  dsimp only
  split
  · rename_i empty
    rw [← spaces, List.isEmpty_iff.1 empty]
  · rw [Text.trim_append_gap Text.emptyLine_is_gap, Text.trim_dropTail lineFeed_is_blank, spaces]

theorem solid_beforeBlock (out : Text) : solid (beforeBlock out) = solid out := by
  rw [← Text.solid_trim, trim_beforeBlock, Text.solid_trim]

end DocReport.Markdown

import DocReport.Proofs.Markdown.Pieces
import Mathlib.Data.List.Forall2

/-!
Fenced blocks in a rendering. Code of several lines is a block wherever it stands below wrappers,
and every block stands apart: an empty line, or nothing at all, is before it and behind it, and
between its fences the code is as written. A rendering is put together from left to right, so the
invariant says where the blocks are in what is put together so far: up to the last block the text
is laid out for good, and only what follows it can still lose spaces and line feeds.
-/
namespace DocReport.Markdown

open Markup
open Text (solid emptyLine)

mutual

/-- The fenced blocks of a node in document order: code of several lines, where only wrappers lead
to it. -/
def fencedBlocks (options : Options) : Node → List Text
  | .text _ => []
  | .element tag _ content =>
    if Text.lower tag = "code".toList then
      let code := Text.trim (Text.replace ['\r', '\n'] ['\n'] (Node.flattenAll content))
      if '\n' ∈ code ∨ '\r' ∈ code then
        [fence ++ options.codeLanguage ++ ['\n'] ++ code ++ ['\n'] ++ fence]
      else []
    else if Text.lower tag = "c".toList ∨ Text.lower tag = "see".toList then []
    else allFencedBlocks options content

/-- The fenced blocks of nodes, in document order. -/
def allFencedBlocks (options : Options) : List Node → List Text
  | [] => []
  | node :: rest => fencedBlocks options node ++ allFencedBlocks options rest

end

/-- A text with a fence at its front and a fence at its end. -/
structure IsFenced (block : Text) : Prop where
  opens : fence <+: block
  closes : fence <:+ block

/-- Blocks in a text that ends with the last of them. The first stands at the front or behind an
empty line. What is between two blocks begins and ends with an empty line. -/
inductive Placed : List Text → Text → Prop where
  | first {start block : Text} (fenced : IsFenced block)
      (apart : start = [] ∨ emptyLine <:+ start) : Placed [block] (start ++ block)
  | next {blocks : List Text} {front gap block : Text} (before : Placed blocks front)
      (fenced : IsFenced block) (opens : emptyLine <+: gap) (closes : emptyLine <:+ gap) :
      Placed (blocks ++ [block]) (front ++ gap ++ block)

namespace Placed

variable {blocks others : List Text} {front text gap : Text}

theorem fence_suffix (placed : Placed blocks front) : fence <:+ front := by
  cases placed with
  | first fenced _ => exact fenced.closes.trans (List.suffix_append _ _)
  | next _ fenced _ _ => exact fenced.closes.trans (List.suffix_append _ _)

/-- Text without blocks may come before, unless it would touch the first block. -/
theorem behind (placed : Placed blocks front)
    (apart : gap = [] ∨ emptyLine <:+ gap ∨ ¬ fence <+: front) : Placed blocks (gap ++ front) := by
  induction placed with
  | @first start block fenced own =>
    rw [← List.append_assoc]
    apply Placed.first fenced
    rcases own with rfl | closes
    · rw [List.append_nil]
      rcases apart with empty | closes | bare
      · exact Or.inl empty
      · exact Or.inr closes
      · exact absurd fenced.opens bare
    · exact Or.inr (closes.trans (List.suffix_append _ _))
  | @next blocks front own block before fenced opens closes ih =>
    have inner : gap = [] ∨ emptyLine <:+ gap ∨ ¬ fence <+: front := by
      refine apart.imp_right (Or.imp_right fun bare fenced => bare ?_)
      rw [List.append_assoc]
      exact fenced.trans (List.prefix_append _ _)
    rw [List.append_assoc, ← List.append_assoc, ← List.append_assoc]
    exact .next (ih inner) fenced opens closes

/-- Blocks behind blocks, with a gap that both sides take for an empty line. -/
theorem append (placed : Placed blocks front) (opens : emptyLine <+: gap)
    (later : Placed others text) (apart : emptyLine <:+ gap ∨ ¬ fence <+: text) :
    Placed (blocks ++ others) (front ++ gap ++ text) := by
  induction later with
  | @first start block fenced own =>
    have closes : emptyLine <:+ gap ++ start := by
      rcases own with rfl | closes
      · rw [List.append_nil]
        rcases apart with closes | bare
        · exact closes
        · exact absurd fenced.opens bare
      · exact closes.trans (List.suffix_append _ _)
    have whole : front ++ gap ++ (start ++ block) = front ++ (gap ++ start) ++ block := by simp
    rw [whole]
    exact .next placed fenced (opens.trans (List.prefix_append _ _)) closes
  | @next others text own block before fenced ownOpens ownCloses ih =>
    have inner : emptyLine <:+ gap ∨ ¬ fence <+: text := by
      refine apart.imp_right fun bare fenced => bare ?_
      rw [List.append_assoc]
      exact fenced.trans (List.prefix_append _ _)
    have whole : front ++ gap ++ (text ++ own ++ block) = front ++ gap ++ text ++ own ++ block := by
      simp
    rw [whole, ← List.append_assoc]
    exact .next (ih inner) fenced ownOpens ownCloses

/-- White space at the front goes without harm: a first gap of white space goes as a whole. -/
theorem trimStart (placed : Placed blocks front) (rest : Text) :
    ∃ kept, Text.trimStart (front ++ rest) = kept ++ rest ∧ Placed blocks kept := by
  induction placed generalizing rest with
  | @first start block fenced own =>
    obtain ⟨more, rfl⟩ := fenced.opens
    have ticks : start ++ (fence ++ more) ++ rest =
        start ++ '\x60' :: ("``".toList ++ more ++ rest) := by
      simp [fence]
    have kept : Text.trimStart (start ++ (fence ++ more) ++ rest) =
        Text.trimStart start ++ (fence ++ more) ++ rest := by
      rw [ticks, Text.trimStart_append_solid (by decide)]
      simp [fence]
    refine ⟨_, kept, .first fenced ?_⟩
    rcases own with rfl | closes
    · exact Or.inl rfl
    · exact Text.dropWhile_of_emptyLine_suffix closes
  | @next blocks front own block before fenced opens closes ih =>
    obtain ⟨kept, same, placed⟩ := ih (own ++ block ++ rest)
    refine ⟨kept ++ own ++ block, ?_, .next placed fenced opens closes⟩
    simpa using same

/-- No tail without backticks reaches into the last block. -/
theorem dropTail_append (placed : Placed blocks front) {p : Char → Bool} (kept : p '\x60' = false)
    (rest : Text) : Text.dropTail p (front ++ rest) = front ++ Text.dropTail p rest := by
  obtain ⟨more, same⟩ := placed.fence_suffix
  have ticks : front ++ rest = (more ++ "``".toList) ++ '\x60' :: rest := by
    rw [← same]
    simp [fence]
  rw [ticks, Text.dropTail_append_kept kept, ← same]
  simp [fence]

end Placed

/-- Blocks in what is put together so far: an empty line is behind the last of them. -/
def Open (blocks : List Text) (out : Text) : Prop :=
  blocks = [] ∨ ∃ front rest, out = front ++ rest ∧ Placed blocks front ∧ emptyLine <+: rest

/-- Blocks in a text that is complete: an empty line or nothing is behind the last of them. -/
def StandApart (blocks : List Text) (t : Text) : Prop :=
  blocks = [] ∨
    ∃ front rest, t = front ++ rest ∧ Placed blocks front ∧ (rest = [] ∨ emptyLine <+: rest)

/-- Blocks in a piece. An inline piece can hold some too, but not at its edges. -/
def Piece.Holds (blocks : List Text) : Piece → Prop
  | .inline value => blocks = [] ∨ ∃ front rest, value = front ++ rest ∧ Placed blocks front ∧
      emptyLine <+: rest ∧ ¬ fence <+: value ∧ value.dropWhile (· == ' ') = value
  | .block value => StandApart blocks value

section Assembly

variable {blocks others : List Text} {out value : Text}

theorem open_appendInline (before : Open blocks out) (holds : (Piece.inline value).Holds others) :
    Open (blocks ++ others) (appendInline out value) := by
  rcases holds with rfl | ⟨front, rest, whole, placed, opens, bare, unspaced⟩
  · rw [List.append_nil]
    refine before.imp_right ?_
    rintro ⟨front, rest, rfl, placed, opens⟩
    unfold appendInline
    split
    · exact ⟨front, _, List.append_assoc .., placed, opens.trans (List.prefix_append _ _)⟩
    · exact ⟨front, _, List.append_assoc .., placed, opens.trans (List.prefix_append _ _)⟩
  · have same : appendInline out value = out ++ value := by
      unfold appendInline
      rw [unspaced, ite_self]
    have inner : ¬ fence <+: front := fun fenced =>
      bare (whole ▸ fenced.trans (List.prefix_append _ _))
    rw [same, whole, ← List.append_assoc]
    right
    rcases before with rfl | ⟨early, gap, rfl, earlier, gapOpens⟩
    · exact ⟨out ++ front, rest, rfl, placed.behind (Or.inr (Or.inr inner)), opens⟩
    · exact ⟨_, rest, rfl, earlier.append gapOpens placed (Or.inr inner), opens⟩

/-- The gap behind the last block is still there, and it is closed by an empty line now. -/
theorem beforeBlock_of_placed {front rest : Text} (placed : Placed blocks front)
    (opens : emptyLine <+: rest) :
    ∃ gap, beforeBlock (front ++ rest) = front ++ gap ∧ emptyLine <+: gap ∧ emptyLine <:+ gap := by
  have visible : solid (front ++ rest) ≠ [] := by
    have visibleFront := visible_of_fence (Or.inr placed.fence_suffix)
    rw [Text.solid_append]
    exact List.append_ne_nil_of_left_ne_nil visibleFront _
  refine ⟨Text.dropTail (· == '\n') (Text.dropTail (· == ' ') rest) ++ emptyLine, ?_, ?_,
    List.suffix_append _ _⟩
  · rw [beforeBlock_of_visible visible, placed.dropTail_append (by decide),
      placed.dropTail_append (by decide), List.append_assoc]
  · have inner : Text.dropTail (· == ' ') rest = [] ∨
        emptyLine <+: Text.dropTail (· == ' ') rest := Text.dropTail_of_emptyLine_prefix opens
    have outer : Text.dropTail (· == '\n') (Text.dropTail (· == ' ') rest) = [] ∨
        emptyLine <+: Text.dropTail (· == '\n') (Text.dropTail (· == ' ') rest) := by
      rcases inner with gone | kept
      · rw [gone]
        exact Or.inl rfl
      · exact Text.dropTail_of_emptyLine_prefix kept
    rcases outer with gone | kept
    · exact gone.symm ▸ List.prefix_refl emptyLine
    · exact kept.trans (List.prefix_append _ _)

theorem open_appendBlock (before : Open blocks out) (holds : StandApart others value) :
    Open (blocks ++ others) (appendBlock out value) := by
  rw [appendBlock_eq]
  rcases holds with rfl | ⟨front, rest, rfl, placed, opens⟩
  · rw [List.append_nil]
    refine before.imp_right ?_
    rintro ⟨front, rest, rfl, placed, opens⟩
    obtain ⟨gap, same, gapOpens, _⟩ := beforeBlock_of_placed placed opens
    refine ⟨front, gap ++ value ++ emptyLine, ?_, placed, ?_⟩
    · rw [same]
      simp
    · rw [List.append_assoc]
      exact gapOpens.trans (List.prefix_append _ _)
  · have behind : emptyLine <+: rest ++ emptyLine := by
      rcases opens with rfl | opens
      · exact List.prefix_refl _
      · exact opens.trans (List.prefix_append _ _)
    right
    rcases before with rfl | ⟨early, gap, rfl, earlier, gapOpens⟩
    · refine ⟨beforeBlock out ++ front, rest ++ emptyLine, by simp, ?_, behind⟩
      exact placed.behind ((beforeBlock_closes out).imp_right Or.inl)
    · obtain ⟨gap, same, gapOpens, gapCloses⟩ := beforeBlock_of_placed earlier gapOpens
      refine ⟨early ++ gap ++ front, rest ++ emptyLine, ?_, ?_, behind⟩
      · rw [same]
        simp
      · exact earlier.append gapOpens placed (Or.inl gapCloses)

/-- One more piece. -/
theorem open_append {piece : Piece} (before : Open blocks out) (holds : piece.Holds others) :
    Open (blocks ++ others) (append out piece) := by
  cases piece with
  | inline value => exact open_appendInline before holds
  | block value => exact open_appendBlock before holds

/-- All pieces, one after the other. -/
theorem open_foldl {pieces : List Piece} {held : List (List Text)}
    (holds : List.Forall₂ Piece.Holds held pieces) (before : Open blocks out) :
    Open (blocks ++ held.flatten) (pieces.foldl append out) := by
  induction holds generalizing blocks out with
  | nil => simpa using before
  | cons first _ ih =>
    rw [List.flatten_cons, ← List.append_assoc]
    exact ih (open_append before first)

theorem standApart_trim (complete : Open blocks out) : StandApart blocks (Text.trim out) := by
  refine complete.imp_right ?_
  rintro ⟨front, rest, rfl, placed, opens⟩
  obtain ⟨kept, same, keptPlaced⟩ := placed.trimStart rest
  refine ⟨kept, Text.trimEnd rest, ?_, keptPlaced, Text.dropTail_of_emptyLine_prefix opens⟩
  rw [Text.trim, same, Text.trimEnd, keptPlaced.dropTail_append (by decide), Text.trimEnd]

theorem standApart_assemble {pieces : List Piece} {held : List (List Text)}
    (holds : List.Forall₂ Piece.Holds held pieces) :
    StandApart held.flatten (assemble pieces) :=
  standApart_trim (open_foldl holds (Or.inl rfl : Open [] []))

/-- Content with a block at an edge starts or ends with a fence, so as a piece it is a block. -/
theorem nestedPiece_holds {t : Text} (holds : StandApart blocks (Text.trim t)) :
    (nestedPiece (Text.trim t)).Holds blocks := by
  unfold nestedPiece
  split
  · exact holds
  · rename_i edges
    simp only [Bool.or_eq_true, List.isPrefixOf_iff_prefix, List.isSuffixOf_iff_suffix,
      not_or] at edges
    refine holds.imp_right ?_
    rintro ⟨front, rest, whole, placed, opens⟩
    refine ⟨front, rest, whole, placed, ?_, edges.1, Text.dropWhile_trim space_is_blank t⟩
    rcases opens with rfl | opens
    · rw [List.append_nil] at whole
      exact absurd (whole ▸ placed.fence_suffix) edges.2
    · exact opens

end Assembly

theorem isFenced_code (language code : Text) :
    IsFenced (fence ++ language ++ ['\n'] ++ code ++ ['\n'] ++ fence) where
  opens := by
    simp only [List.append_assoc]
    exact List.prefix_append _ _
  closes := List.suffix_append _ _

theorem codePiece_holds (options : Options) (content : List Node) :
    (codePiece options content).Holds
      (if '\n' ∈ codeText content ∨ '\r' ∈ codeText content then
        [fence ++ options.codeLanguage ++ ['\n'] ++ codeText content ++ ['\n'] ++ fence]
      else []) := by
  unfold codePiece
  dsimp only
  split
  · exact Or.inr ⟨_, [], (List.append_nil _).symm,
      @Placed.first [] _ (isFenced_code _ _) (Or.inl rfl), Or.inl rfl⟩
  · exact Or.inl rfl

theorem allFencedBlocks_eq (options : Options) (nodes : List Node) :
    allFencedBlocks options nodes = (nodes.map (fencedBlocks options)).flatten := by
  induction nodes with
  | nil => rfl
  | cons node rest ih => rw [allFencedBlocks, ih, List.map_cons, List.flatten_cons]

mutual

theorem piece_holds (options : Options) :
    ∀ node : Node, (piece options node).Holds (fencedBlocks options node)
  | .text _ => Or.inl rfl
  | .element tag attributes content => by
    have nested := standApart_assemble (pieces_hold options content)
    rw [← allFencedBlocks_eq] at nested
    rw [piece, Role.ofTag_eq, fencedBlocks]
    by_cases code : Text.lower tag = "code".toList
    · rw [if_pos code, if_pos code]
      exact codePiece_holds options content
    · rw [if_neg code, if_neg code]
      by_cases inlineCode : Text.lower tag = "c".toList
      · rw [if_pos inlineCode, if_pos (Or.inl inlineCode)]
        exact Or.inl rfl
      · rw [if_neg inlineCode]
        by_cases reference : Text.lower tag = "see".toList
        · rw [if_pos reference, if_pos (Or.inr reference)]
          exact Or.inl rfl
        · rw [if_neg reference, if_neg (not_or.2 ⟨inlineCode, reference⟩)]
          exact nestedPiece_holds nested

theorem pieces_hold (options : Options) :
    ∀ nodes : List Node,
      List.Forall₂ Piece.Holds (nodes.map (fencedBlocks options)) (pieces options nodes)
  | [] => .nil
  | node :: rest => .cons (piece_holds options node) (pieces_hold options rest)

end

/-- A text before the first block, and behind each block what follows it: `s₀ B₁ s₁ … Bₙ sₙ`. -/
def laidOut (start : Text) (blocks gaps : List Text) : Text :=
  start ++ (List.zipWith (· ++ ·) blocks gaps).flatten

theorem Placed.exists_laidOut {blocks : List Text} {front : Text} (placed : Placed blocks front) :
    ∃ start gaps, gaps.length + 1 = blocks.length ∧
      (start = [] ∨ emptyLine <:+ start) ∧
      (∀ gap ∈ gaps, emptyLine <+: gap ∧ emptyLine <:+ gap) ∧
      ∀ rest, front ++ rest = laidOut start blocks (gaps ++ [rest]) := by
  induction placed with
  | @first start block fenced apart =>
    refine ⟨start, [], rfl, apart, by simp, fun rest => ?_⟩
    simp [laidOut]
  | @next blocks front gap block before fenced opens closes ih =>
    obtain ⟨start, gaps, count, apart, between, whole⟩ := ih
    refine ⟨start, gaps ++ [gap], by simp [count], apart, ?_, fun rest => ?_⟩
    · intro other member
      rcases List.mem_append.1 member with early | own
      · exact between other early
      · rw [List.mem_singleton.1 own]
        exact ⟨opens, closes⟩
    · have same : blocks.length = (gaps ++ [gap]).length := by simp [count]
      have early := whole gap
      unfold laidOut at early ⊢
      rw [List.zipWith_append same, List.flatten_append, ← List.append_assoc, ← early]
      simp

/-- Every fenced block of a tree is in its rendering as it is, in document order. Before the first
of them is nothing, or text that ends with an empty line; behind the last is nothing, or text that
begins with one; and what is between two of them does both. -/
theorem fenced_blocks_stand_apart (options : Options) (node : Node) :
    let blocks := allFencedBlocks options node.content
    ∃ start gaps, gaps.length = blocks.length ∧
      render options node = laidOut start blocks gaps ∧
      (blocks ≠ [] → start = [] ∨ emptyLine <:+ start) ∧
      (∀ gap ∈ gaps.dropLast, emptyLine <+: gap ∧ emptyLine <:+ gap) ∧
      (∀ gap, gaps.getLast? = some gap → gap = [] ∨ emptyLine <+: gap) := by
  have apart : StandApart (allFencedBlocks options node.content) (render options node) := by
    rw [allFencedBlocks_eq]
    exact standApart_assemble (pieces_hold options node.content)
  rcases apart with none | ⟨front, rest, whole, placed, behind⟩
  · refine ⟨render options node, [], by simp [none], ?_, fun some => absurd none some, ?_, ?_⟩
    · simp [laidOut]
    · simp
    · simp
  · obtain ⟨start, gaps, count, first, between, same⟩ := placed.exists_laidOut
    refine ⟨start, gaps ++ [rest], by simp [count], whole.trans (same rest), fun _ => first, ?_, ?_⟩
    · rw [List.dropLast_concat]
      exact between
    · intro gap last
      rw [List.getLast?_concat, Option.some.injEq] at last
      exact last ▸ behind

end DocReport.Markdown

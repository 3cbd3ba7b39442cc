import DocReport.Proofs.Markdown.Fences
import DocReport.Proofs.Markdown.OneLine
import DocReport.Proofs.Text.Phrase

/-!
Wrappers are invisible. What an element shows is put together from nothing and trimmed; the same
content in place of the element is put together behind what is there already. Without paragraphs and
without inline spacing no piece has white space at its ends, so the two come out the same, unless a
block at an edge of the element takes an empty line from what is outside. The invariant says how a
text that is put together so far can begin and end.
-/
namespace DocReport.Markdown

open Markup
open Text (isBlank solid emptyLine)

/-- Whether elements with a tag only show their content: any tag but three, whatever its case. -/
def isWrapperTag (tag : Text) : Bool :=
  !(["c".toList, "code".toList, "see".toList].contains (Text.lower tag))

/-- Whether a node is an element that only shows its content. -/
def isWrapper : Node → Bool
  | .text _ => false
  | .element tag _ _ => isWrapperTag tag

/-- No fence at either end. -/
def Unfenced (t : Text) : Prop :=
  ¬ fence <+: t ∧ ¬ fence <:+ t

instance (t : Text) : Decidable (Unfenced t) :=
  inferInstanceAs (Decidable (_ ∧ _))

theorem isWrapperTag_iff {tag : Text} : isWrapperTag tag = true ↔ Role.ofTag tag = .wrapper := by
  rw [Role.ofTag_eq]
  simp only [isWrapperTag, List.contains_cons, List.contains_nil, Bool.or_false, Bool.not_or,
    Bool.and_eq_true, Bool.not_eq_true', beq_eq_false_iff_ne]
  constructor
  · rintro ⟨c, code, see⟩
    rw [if_neg code, if_neg c, if_neg see]
  · intro role
    refine ⟨?_, ?_, ?_⟩ <;> intro same <;> simp [same] at role

theorem piece_wrapper {tag : Text} (wrapper : isWrapperTag tag = true) (options : Options)
    (attributes : List Attribute) (content : List Node) :
    piece options (.element tag attributes content) =
      nestedPiece (render options (.element tag attributes content)) := by
  rw [piece, isWrapperTag_iff.1 wrapper]
  rfl

theorem nestedPiece_unfenced {t : Text} (bare : Unfenced t) : nestedPiece t = .inline t := by
  have edges : ¬ (fence.isPrefixOf t || fence.isSuffixOf t) = true := by
    rw [Bool.or_eq_true, List.isPrefixOf_iff_prefix, List.isSuffixOf_iff_suffix, not_or]
    exact bare
  rw [nestedPiece, if_neg edges]

/-! ### Text that no piece reaches -/

section Frame

variable {s : Text}

/-- A piece reaches back to the last visible character at most. -/
theorem append_append_of_visible (visible : solid s ≠ []) (front : Text) (p : Piece) :
    append (front ++ s) p = front ++ append s p := by
  have some : s ≠ [] := by
    rintro rfl
    exact visible rfl
  cases p with
  | inline value =>
    change appendInline (front ++ s) value = front ++ appendInline s value
    unfold appendInline
    rw [List.getLast?_append_of_ne_nil _ some]
    split
    · exact List.append_assoc ..
    · exact List.append_assoc ..
  | block value =>
    have whole : solid (front ++ s) ≠ [] := by simp [visible]
    have unspaced : solid (Text.dropTail (· == ' ') s) ≠ [] := by
      rwa [Text.solid_dropTail space_is_blank]
    change appendBlock (front ++ s) value = front ++ appendBlock s value
    rw [appendBlock_eq, appendBlock_eq, beforeBlock_of_visible whole,
      beforeBlock_of_visible visible,
      Text.dropTail_append_of_visible space_is_blank visible,
      Text.dropTail_append_of_visible lineFeed_is_blank unspaced]
    simp only [List.append_assoc]

theorem foldl_append_of_visible (visible : solid s ≠ []) (front : Text) (ps : List Piece) :
    ps.foldl append (front ++ s) = front ++ ps.foldl append s := by
  induction ps generalizing s with
  | nil => rfl
  | cons p rest ih =>
    have still : solid (append s p) ≠ [] := by
      rw [solid_append_piece]
      exact List.append_ne_nil_of_left_ne_nil visible _
    rw [List.foldl_cons, List.foldl_cons, append_append_of_visible visible, ih still]

/-- A visible character and all before it stay where they are. -/
theorem exists_foldl_behind {c : Char} (visible : isBlank c = false) (front s : Text)
    (ps : List Piece) : ∃ r, ps.foldl append (front ++ c :: s) = front ++ c :: r := by
  induction ps generalizing s with
  | nil => exact ⟨s, rfl⟩
  | cons p rest ih =>
    have step : ∃ r, append (front ++ c :: s) p = front ++ c :: r := by
      cases p with
      | inline value =>
        obtain ⟨dropped, _, same⟩ := exists_appendInline (front ++ c :: s) value
        exact ⟨s ++ value.dropWhile dropped, by simp [same]⟩
      | block value =>
        have shown : solid (front ++ c :: s) ≠ [] := by simp [solid, visible]
        refine ⟨Text.dropTail (· == '\n') (Text.dropTail (· == ' ') s) ++ emptyLine ++ value ++
          emptyLine, ?_⟩
        change appendBlock (front ++ c :: s) value = _
        have noSpace : (c == ' ') = false := Text.kept_of_visible space_is_blank visible
        have noFeed : (c == '\n') = false := Text.kept_of_visible lineFeed_is_blank visible
        rw [appendBlock_eq, beforeBlock_of_visible shown,
          Text.dropTail_append_kept (p := (· == ' ')) noSpace,
          Text.dropTail_append_kept (p := (· == '\n')) noFeed]
        simp
    obtain ⟨r, same⟩ := step
    rw [List.foldl_cons, same]
    exact ih r

end Frame

/-! ### Pieces without white space at their ends -/

/-- A piece without white space at its ends; a block stands between fences. -/
structure Piece.Tidy (p : Piece) : Prop where
  trimmed : Text.trim p.value = p.value
  fenced : p.isBlock = true → IsFenced p.value

/-- How a text put together from tidy pieces begins and ends: visibly, or with a block. -/
structure Settled (out : Text) : Prop where
  front : ∀ c, out.head? = some c → isBlank c = false
  back : (∀ c, out.getLast? = some c → isBlank c = false) ∨
    ∃ start, out = start ++ fence ++ emptyLine

section Tidy

variable {out : Text} {p : Piece} {ps : List Piece}

theorem append_inline_tidy {value : Text} (trimmed : Text.trim value = value) (out : Text) :
    append out (.inline value) = out ++ value := by
  obtain ⟨dropped, white, same⟩ := exists_appendInline out value
  rw [same, ← trimmed, Text.dropWhile_trim white]

theorem append_nil_block (value : Text) : append [] (.block value) = value ++ emptyLine := rfl

/-- One more piece. -/
theorem settled_append (settled : Settled out) (tidy : p.Tidy) : Settled (append out p) where
  front := by
    intro c first
    cases out with
    | cons d r =>
      have visible : isBlank d = false := settled.front d rfl
      obtain ⟨rest, same⟩ := exists_foldl_behind visible [] r [p]
      change append (d :: r) p = d :: rest at same
      rw [same] at first
      exact Option.some.inj first ▸ visible
    | nil =>
      cases p with
      | inline value =>
        have trimmed : Text.trim value = value := tidy.trimmed
        rw [append_inline_tidy trimmed, List.nil_append, ← trimmed] at first
        exact Text.head_trim first
      | block value =>
        obtain ⟨rest, rfl⟩ := (tidy.fenced rfl).opens
        have tick : c = '\x60' := by
          rw [append_nil_block] at first
          exact (Option.some.inj first).symm
        rw [tick]
        decide
  back := by
    cases p with
    | inline value =>
      have trimmed : Text.trim value = value := tidy.trimmed
      rw [append_inline_tidy trimmed]
      by_cases empty : value = []
      · rw [empty, List.append_nil]
        exact settled.back
      · left
        intro c last
        rw [List.getLast?_append_of_ne_nil _ empty, ← trimmed] at last
        exact Text.last_trim last
    | block value =>
      obtain ⟨start, rfl⟩ := (tidy.fenced rfl).closes
      refine Or.inr ⟨beforeBlock out ++ start, ?_⟩
      change appendBlock out (start ++ fence) = _
      rw [appendBlock_eq, ← List.append_assoc]

/-- All pieces, one after the other. -/
theorem settled_foldl (settled : Settled out) (tidy : ∀ p ∈ ps, p.Tidy) :
    Settled (ps.foldl append out) := by
  induction ps generalizing out with
  | nil => exact settled
  | cons p rest ih =>
    exact ih (settled_append settled (tidy p List.mem_cons_self))
      fun q member => tidy q (List.mem_cons_of_mem _ member)

theorem fence_suffix_trim (start : Text) : fence <:+ Text.trim (start ++ fence ++ emptyLine) := by
  have ticks : start ++ fence = (start ++ '\x60' :: ['\x60']) ++ ['\x60'] := by simp [fence]
  rw [Text.trim_append_gap Text.emptyLine_is_gap, ticks,
    Text.trim_append_solid (by decide) Text.isGap_nil, Text.trimStart_append_solid (by decide)]
  exact ⟨Text.trimStart start, by simp [fence]⟩

theorem fence_prefix_trim (rest : Text) : fence <+: Text.trim (fence ++ rest) := by
  have ticks : fence ++ rest = ['\x60', '\x60'] ++ '\x60' :: rest := rfl
  have start : Text.trimStart (fence ++ rest) = fence ++ rest := rfl
  rw [Text.trim, start, ticks, Text.trimEnd, Text.dropTail_append_kept (by decide)]
  exact ⟨Text.dropTail isBlank rest, rfl⟩

/-- A text that does not end with a block has no white space at its ends. -/
theorem trim_settled (settled : Settled out) (bare : ¬ fence <:+ Text.trim out) :
    Text.trim out = out := by
  rcases settled.back with visible | ⟨start, rfl⟩
  · exact Text.trim_of_visible_ends settled.front visible
  · exact absurd (fence_suffix_trim start) bare

/-- What is put together behind a text is what is put together from nothing, unless a block comes
first. -/
theorem foldl_append_eq (tidy : ∀ p ∈ ps, p.Tidy)
    (bare : ¬ fence <+: Text.trim (ps.foldl append [])) (out : Text) :
    ps.foldl append out = out ++ ps.foldl append [] := by
  induction ps generalizing out with
  | nil => simp
  | cons p rest ih =>
    have own := tidy p List.mem_cons_self
    have others : ∀ q ∈ rest, q.Tidy := fun q member => tidy q (List.mem_cons_of_mem _ member)
    rw [List.foldl_cons] at bare ⊢
    rw [List.foldl_cons]
    cases p with
    | inline value =>
      have trimmed : Text.trim value = value := own.trimmed
      rw [append_inline_tidy trimmed, List.nil_append] at bare
      rw [append_inline_tidy trimmed, append_inline_tidy trimmed, List.nil_append]
      by_cases hidden : solid value = []
      · have empty : value = [] := by
          rw [← trimmed, Text.trim_gap (Text.isGap_of_solid_eq_nil hidden)]
        rw [empty] at bare ⊢
        rw [List.append_nil]
        exact ih others bare out
      · exact foldl_append_of_visible hidden out rest
    | block value =>
      -- A block that comes first would show its fence at the front.
      obtain ⟨more, rfl⟩ := (own.fenced rfl).opens
      rw [append_nil_block] at bare
      obtain ⟨r, same⟩ := exists_foldl_behind (c := '\x60') (by decide) ['\x60', '\x60']
        (more ++ emptyLine) rest
      have front : rest.foldl append (fence ++ more ++ emptyLine) = fence ++ r := same
      rw [front] at bare
      exact absurd (fence_prefix_trim r) bare

end Tidy

/-! ### Wrappers -/

section Wrappers

variable {options : Options} (flat : options.preserveParagraphs = false)
  (unspaced : options.inlineSpacing = false)

include flat unspaced

theorem trim_normalize_plain (value : Text) :
    Text.trim (normalize options value) = normalize options value := by
  have plain : normalize options value = Text.trim (collapse (value.filter (· != '\r'))) := by
    unfold normalize normalizeParagraph
    rw [flat, unspaced]
    rfl
  rw [plain, Text.trim_trim]

/-- A node is a tidy piece unless it is a wrapper with a fence at an end. -/
theorem tidy_piece {node : Node} (bare : isWrapper node = true → Unfenced (render options node)) :
    (piece options node).Tidy where
  trimmed := by
    cases node with
    | text value => exact trim_normalize_plain flat unspaced value
    | element tag attributes content => exact trim_piece_element options tag attributes content
  fenced := by
    intro stands
    cases node with
    | text value => cases stands
    | element tag attributes content =>
      cases role : Role.ofTag tag with
      | code =>
        rw [piece, role] at stands ⊢
        change (codePiece options content).isBlock = true at stands
        change IsFenced (codePiece options content).value
        unfold codePiece at stands ⊢
        dsimp only at stands ⊢
        split at stands
        · rename_i several
          rw [if_pos several]
          exact isFenced_code _ _
        · cases stands
      | inlineCode =>
        rw [piece, role] at stands
        cases stands
      | reference =>
        rw [piece, role] at stands
        cases stands
      | wrapper =>
        have wrapper : isWrapperTag tag = true := isWrapperTag_iff.2 role
        rw [piece_wrapper wrapper, nestedPiece_unfenced (bare wrapper)] at stands
        cases stands

/-- Without paragraphs and without inline spacing an element that only shows its content can be
replaced by it, wherever it stands: neither the element nor a wrapper among its content may show a
fence at an end. Fences further inside and wrappers further inside do not matter. -/
theorem wrapper_is_invisible {tag : Text} (wrapper : isWrapperTag tag = true)
    (attributes : List Attribute) (pre content post : List Node)
    (bare : Unfenced (render options (.element tag attributes content)))
    (inner : ∀ node ∈ content, isWrapper node = true → Unfenced (render options node))
    (outerTag : Text) (outerAttributes : List Attribute) :
    render options (.element outerTag outerAttributes
        (pre ++ [.element tag attributes content] ++ post)) =
      render options (.element outerTag outerAttributes (pre ++ content ++ post)) := by
  have tidy : ∀ p ∈ pieces options content, p.Tidy := by
    intro p member
    rw [pieces_eq_map] at member
    obtain ⟨node, belongs, rfl⟩ := List.mem_map.1 member
    exact tidy_piece flat unspaced (inner node belongs)
  have settled : Settled ((pieces options content).foldl append []) :=
    settled_foldl ⟨by simp, by simp⟩ tidy
  have trimmed : Text.trim ((pieces options content).foldl append []) =
      (pieces options content).foldl append [] := trim_settled settled bare.2
  -- What the element shows is put together from nothing, and nothing is trimmed from it.
  have shown : render options (.element tag attributes content) =
      (pieces options content).foldl append [] := trimmed
  have inPlace : ∀ out, append out (piece options (.element tag attributes content)) =
      (pieces options content).foldl append out := by
    intro out
    rw [piece_wrapper wrapper, nestedPiece_unfenced bare, shown, append_inline_tidy trimmed,
      foldl_append_eq tidy bare.1 out]
  have all : ∀ nodes, render options (.element outerTag outerAttributes nodes) =
      Text.trim ((pieces options nodes).foldl append []) := fun _ => rfl
  rw [all, all, pieces_eq_map, pieces_eq_map, List.map_append, List.map_append, List.map_append,
    List.map_append, List.foldl_append, List.foldl_append, List.foldl_append, List.foldl_append,
    List.map_singleton, List.foldl_cons, List.foldl_nil, inPlace, pieces_eq_map]

end Wrappers

/-- Code of two lines between text and another wrapper. -/
def codeBetween : List Node :=
  [.text "Call ".toList, .element "code".toList [] [.text "a\nb".toList],
    .element "B".toList [] [.text "twice".toList]]

theorem wrapper_is_invisible_para :
    isWrapperTag "Para".toList = true ∧
    Unfenced (render {} (.element "Para".toList [] codeBetween)) ∧
    (∀ node ∈ codeBetween, isWrapper node = true → Unfenced (render {} node)) ∧
    render {} (.element "summary".toList []
        ([.text "Or".toList] ++ [.element "Para".toList [] codeBetween] ++ [.text "!".toList])) =
      render {} (.element "summary".toList []
        ([.text "Or".toList] ++ codeBetween ++ [.text "!".toList])) := by
  have wrapper : isWrapperTag "Para".toList = true := by decide
  have bare : Unfenced (render {} (.element "Para".toList [] codeBetween)) := by decide
  have inner : ∀ node ∈ codeBetween, isWrapper node = true → Unfenced (render {} node) := by decide
  exact ⟨wrapper, bare, inner, wrapper_is_invisible rfl rfl wrapper [] _ _ _ bare inner _ _⟩

end DocReport.Markdown

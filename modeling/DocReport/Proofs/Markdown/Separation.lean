import DocReport.Proofs.Markdown.RunningText
import DocReport.Proofs.Markdown.Transparency
import DocReport.Proofs.Text.Gap

/-!
What stands apart from what. Wrappers show only their content, so what is next to each other in a
rendering are the nodes that are no wrappers, in the order of the document. Two of them are put
together where two siblings meet, one that ends with the first and one that begins with the second.
White space comes between them there or nowhere: later pieces and trims do not reach between visible
characters. With inline spacing a text node brings the white space at its ends, but a wrapper is
trimmed before it meets what is outside, so the space at the end of its last text node is lost.
-/
namespace DocReport.Markdown

open Markup
open Text (solid emptyLine GapBehind gapAfter beginsBlank endsBlank)

/-! ### Nodes in the order of the document -/

mutual

/-- The nodes of a tree that are no wrappers, outermost ones only, in order. -/
def leaves : Node → List Node
  | .text value => [.text value]
  | .element tag attributes content =>
    if isWrapperTag tag then allLeaves content else [.element tag attributes content]

/-- The leaves of several trees, one after the other. -/
def allLeaves : List Node → List Node
  | [] => []
  | node :: rest => leaves node ++ allLeaves rest

end

theorem leaves_wrapper {tag : Text} (wrapper : isWrapperTag tag = true)
    (attributes : List Attribute) (content : List Node) :
    leaves (.element tag attributes content) = allLeaves content := by
  rw [leaves, if_pos wrapper]

theorem solidOf_wrapper {tag : Text} (wrapper : isWrapperTag tag = true) (options : Options)
    (attributes : List Attribute) (content : List Node) :
    solidOf options (.element tag attributes content) = content.flatMap (solidOf options) := by
  rw [← solid_piece, piece_wrapper wrapper, value_nestedPiece, solid_render]
  rfl

/-- The non-white characters that nodes add to a rendering. -/
def solidOfAll (options : Options) (nodes : List Node) : Text :=
  nodes.flatMap (solidOf options)

mutual

/-- All that can be seen of a tree is in its leaves. -/
theorem solidOf_leaves (options : Options) :
    ∀ node : Node, solidOfAll options (leaves node) = solidOf options node
  | .text _ => List.flatMap_singleton ..
  | .element tag attributes content => by
    by_cases wrapper : isWrapperTag tag = true
    · rw [leaves_wrapper wrapper, solidOf_wrapper wrapper]
      exact solidOf_allLeaves options content
    · rw [leaves, if_neg wrapper]
      exact List.flatMap_singleton ..

theorem solidOf_allLeaves (options : Options) :
    ∀ nodes : List Node, solidOfAll options (allLeaves nodes) = solidOfAll options nodes
  | [] => rfl
  | node :: rest => by
    have first := solidOf_leaves options node
    have others := solidOf_allLeaves options rest
    unfold solidOfAll at first others ⊢
    rw [allLeaves, List.flatMap_append, first, others, List.flatMap_cons]

end

mutual

/-- A tree without leaves adds nothing, not even white space. -/
theorem piece_leafless (options : Options) :
    ∀ node : Node, leaves node = [] → piece options node = .inline []
  | .text _, bare => by cases bare
  | .element tag attributes content, bare => by
    by_cases wrapper : isWrapperTag tag = true
    · rw [leaves_wrapper wrapper] at bare
      have nothing : render options (.element tag attributes content) = [] := by
        change Text.trim ((pieces options content).foldl append []) = []
        rw [foldl_leafless options content bare]
        rfl
      rw [piece_wrapper wrapper, nothing]
      rfl
    · rw [leaves, if_neg wrapper] at bare
      cases bare

theorem foldl_leafless (options : Options) :
    ∀ nodes : List Node, allLeaves nodes = [] → ∀ out, (pieces options nodes).foldl append out = out
  | [], _, _ => rfl
  | node :: rest, bare, out => by
    rw [allLeaves, List.append_eq_nil_iff] at bare
    have nothing : append out (.inline []) = out := by
      change appendInline out [] = out
      unfold appendInline
      split <;> simp
    rw [pieces, piece_leafless options node bare.1, List.foldl_cons, nothing,
      foldl_leafless options rest bare.2]

end

/-! ### White space between pieces -/

section Gaps

variable {seen gap out : Text} {p q : Piece}

/-- Pieces do not reach between visible characters. -/
theorem gap_append (behind : GapBehind seen gap out) (p : Piece) :
    GapBehind seen gap (append out p) := by
  cases p with
  | inline value =>
    obtain ⟨dropped, _, same⟩ := exists_appendInline out value
    rw [same]
    exact behind.append_right _
  | block value =>
    change GapBehind seen gap (appendBlock out value)
    rw [appendBlock_eq, beforeBlock_of_visible behind.visible, List.append_assoc,
      List.append_assoc]
    exact ((behind.dropTail space_is_blank).dropTail lineFeed_is_blank).append_right _

theorem gap_foldl (behind : GapBehind seen gap out) (ps : List Piece) :
    GapBehind seen gap (ps.foldl append out) := by
  induction ps generalizing out with
  | nil => exact behind
  | cons p rest ih => exact ih (gap_append behind p)

/-- White space inside a piece is there behind what comes before the piece. -/
theorem gap_of_piece (behind : GapBehind seen gap p.value) (out : Text) :
    GapBehind (solid out ++ seen) gap (append out p) := by
  cases p with
  | inline value =>
    obtain ⟨dropped, white, same⟩ := exists_appendInline out value
    rw [same]
    exact (behind.dropWhile white).append_left out
  | block value =>
    have before := behind.append_left (beforeBlock out)
    rw [solid_beforeBlock] at before
    exact before.append_right emptyLine

/-- A text ends with white space if its last piece does or stands apart. -/
theorem endsBlank_append_iff (shown : solid p.value ≠ []) (out : Text) :
    endsBlank (append out p) = true ↔ p.isBlock = true ∨ endsBlank p.value = true := by
  cases p with
  | inline value =>
    obtain ⟨front, c, gap, white, visible, rfl⟩ := Text.exists_visible_back shown
    obtain ⟨dropped, blank, same⟩ := exists_appendInline out (front ++ c :: gap)
    have kept : (front ++ c :: gap).dropWhile dropped = front.dropWhile dropped ++ c :: gap :=
      Text.dropWhile_append_kept (Text.kept_of_visible blank visible) front gap
    rw [same, kept, ← List.append_assoc, Text.endsBlank_iff visible white, Piece.value_inline,
      Text.endsBlank_iff visible white]
    simp [Piece.isBlock]
  | block value =>
    have closes : endsBlank (appendBlock out value) = true := by
      rw [appendBlock_eq, Text.endsBlank_append_of_ne_nil (by decide)]
      decide
    exact iff_of_true closes (Or.inl rfl)

/-- The white space between two pieces that can be seen. -/
theorem gap_between (shown : solid p.value ≠ []) (shown' : solid q.value ≠ []) (out : Text) :
    ∃ gap, GapBehind (solid out ++ solid p.value) gap (append (append out p) q) ∧
      (gap ≠ [] ↔ p.isBlock = true ∨ q.isBlock = true ∨ endsBlank p.value = true ∨
        beginsBlank q.value = true) := by
  have ends := endsBlank_append_iff shown out
  have before : solid (append out p) ≠ [] := by
    rw [solid_append_piece]
    exact List.append_ne_nil_of_right_ne_nil _ shown
  rw [← solid_append_piece]
  generalize append out p = front at ends before ⊢
  cases q with
  | inline value =>
    by_cases white : endsBlank front = true
    · -- Spaces may go at the front of a line, but what is before them stays.
      obtain ⟨dropped, blank, same⟩ := exists_appendInline front value
      have rest : solid (value.dropWhile dropped) ≠ [] := by
        rwa [Text.solid_dropWhile blank]
      obtain ⟨gap, behind, some⟩ := Text.exists_gap_between before rest
      rw [same]
      refine ⟨gap, behind, iff_of_true (some.2 (Or.inl white)) ?_⟩
      exact (ends.1 white).imp_right fun own => Or.inr (Or.inl own)
    · have noFeed : front.getLast? ≠ some '\n' := by
        intro feed
        rw [endsBlank, feed] at white
        exact white (by decide)
      have same : append front (.inline value) = front ++ value := if_neg noFeed
      obtain ⟨gap, behind, some⟩ := Text.exists_gap_between before shown'
      rw [same]
      refine ⟨gap, behind, some.trans ?_⟩
      rw [ends]
      simp [Piece.isBlock, or_assoc]
  | block value =>
    have front' : solid (beforeBlock front) ≠ [] := by rwa [solid_beforeBlock]
    have apart : endsBlank (beforeBlock front) = true := by
      rw [beforeBlock_of_visible before, Text.endsBlank_append_of_ne_nil (by decide)]
      decide
    obtain ⟨gap, behind, some⟩ := Text.exists_gap_between front' shown'
    rw [solid_beforeBlock] at behind
    refine ⟨gap, behind.append_right emptyLine, iff_of_true (some.2 (Or.inl apart)) ?_⟩
    exact Or.inr (Or.inl rfl)

end Gaps

/-! ### Where two leaves meet -/

/-- Somewhere in the trees the sibling `b` follows `a`, with nothing but wrappers without leaves
between them, and `seen` is all that can be seen up to the end of `a`. -/
inductive Meet (options : Options) : List Node → Text → Node → Node → Prop where
  | here {a b : Node} {between : List Node} (bare : allLeaves between = []) (post : List Node) :
      Meet options (a :: (between ++ b :: post)) (solidOf options a) a b
  | inside {tag : Text} {content : List Node} {seen : Text} {a b : Node}
      (wrapper : isWrapperTag tag = true) (attributes : List Attribute)
      (inner : Meet options content seen a b) (post : List Node) :
      Meet options (.element tag attributes content :: post) seen a b
  | later {rest : List Node} {seen : Text} {a b : Node} (node : Node)
      (behind : Meet options rest seen a b) :
      Meet options (node :: rest) (solidOf options node ++ seen) a b

/-- Whether a block or white space at an end comes between two neighbours. -/
def separated (options : Options) (a b : Node) : Bool :=
  (piece options a).isBlock || (piece options b).isBlock || endsBlank (piece options a).value ||
    beginsBlank (piece options b).value

section Meeting

variable {options : Options}

/-- What is between two neighbours is decided where they meet, behind whatever comes before. -/
theorem gap_at_meet {nodes : List Node} {seen : Text} {a b : Node}
    (meet : Meet options nodes seen a b) (shown : solidOf options a ≠ [])
    (shown' : solidOf options b ≠ []) (out : Text) :
    ∃ gap, GapBehind (solid out ++ seen) gap ((pieces options nodes).foldl append out) ∧
      (gap ≠ [] ↔ separated options a b = true) := by
  induction meet generalizing out with
  | @here a b between bare post =>
    rw [← solid_piece] at shown shown' ⊢
    obtain ⟨gap, behind, some⟩ := gap_between shown shown' out
    refine ⟨gap, ?_, some.trans ?_⟩
    · have order : (pieces options (a :: (between ++ b :: post))).foldl append out =
          (pieces options post).foldl append (append (append out (piece options a))
            (piece options b)) := by
        rw [pieces, pieces_eq_map, List.map_append, List.foldl_cons, List.foldl_append,
          ← pieces_eq_map, foldl_leafless options between bare, List.map_cons, List.foldl_cons,
          ← pieces_eq_map]
      rw [order]
      exact gap_foldl behind _
    · simp [separated, or_assoc]
  | @inside tag content seen a b wrapper attributes inner post ih =>
    obtain ⟨gap, behind, some⟩ := ih shown shown' []
    have own : GapBehind seen gap (piece options (.element tag attributes content)).value := by
      rw [piece_wrapper wrapper, value_nestedPiece]
      exact behind.trim
    exact ⟨gap, gap_foldl (gap_of_piece own out) _, some⟩
  | @later rest seen a b node _ ih =>
    obtain ⟨gap, behind, some⟩ := ih shown shown' (append out (piece options node))
    rw [solid_append_piece, solid_piece, List.append_assoc] at behind
    exact ⟨gap, behind, some⟩

/-- The first leaf is the first one of a node that only wrappers without leaves come before. -/
theorem exists_first_leaf {nodes after : List Node} {x : Node}
    (order : allLeaves nodes = x :: after) :
    ∃ between b post, nodes = between ++ b :: post ∧ allLeaves between = [] ∧ [x] <+: leaves b := by
  induction nodes with
  | nil => cases order
  | cons node rest ih =>
    rw [allLeaves] at order
    cases own : leaves node with
    | nil =>
      rw [own, List.nil_append] at order
      obtain ⟨between, b, post, rfl, bare, first⟩ := ih order
      refine ⟨node :: between, b, post, rfl, ?_, first⟩
      rw [allLeaves, own, bare, List.nil_append]
    | cons y more =>
      rw [own, List.cons_append] at order
      have same : y = x := (List.cons.inj order).1
      refine ⟨[], node, rest, rfl, rfl, ?_⟩
      rw [own, same]
      exact ⟨more, rfl⟩

mutual

/-- Two leaves in a row are the last one and the first one of two siblings that meet. -/
theorem exists_meet (options : Options) :
    ∀ (nodes : List Node) {before after : List Node} {x y : Node},
      allLeaves nodes = before ++ x :: y :: after →
      ∃ a b, Meet options nodes (solidOfAll options (before ++ [x])) a b ∧ [x] <:+ leaves a ∧
        [y] <+: leaves b
  | [], before, after, x, y, order => by
    simp [allLeaves] at order
  | node :: rest, before, after, x, y, order => by
    rw [allLeaves] at order
    have behind : ∀ front : List Node, before = leaves node ++ front →
        allLeaves rest = front ++ x :: y :: after →
        ∃ a b, Meet options (node :: rest) (solidOfAll options (before ++ [x])) a b ∧
          [x] <:+ leaves a ∧ [y] <+: leaves b := by
      rintro front rfl order
      obtain ⟨a, b, meet, last, first⟩ := exists_meet options rest order
      have seen : solidOfAll options (leaves node ++ front ++ [x]) =
          solidOf options node ++ solidOfAll options (front ++ [x]) := by
        rw [← solidOf_leaves options node, List.append_assoc]
        exact List.flatMap_append
      rw [seen]
      exact ⟨a, b, .later node meet, last, first⟩
    rcases List.append_eq_append_iff.1 order with ⟨front, same, order⟩ | ⟨own, same, order⟩
    · exact behind front same order
    · match own, same, order with
      | [], same, order =>
        have whole : before = leaves node := by rw [same, List.append_nil]
        exact behind [] (by rw [whole, List.append_nil]) order.symm
      | [z], same, order =>
        obtain ⟨rfl, next⟩ := List.cons.inj order
        obtain ⟨between, b, post, rfl, bare, first⟩ := exists_first_leaf next.symm
        refine ⟨node, b, ?_, same ▸ List.suffix_append _ _, first⟩
        rw [← same, solidOf_leaves]
        exact .here bare post
      | z :: w :: own, same, order =>
        obtain ⟨rfl, next⟩ := List.cons.inj order
        obtain ⟨rfl, _⟩ := List.cons.inj next
        exact exists_meet_inside options node rest same

theorem exists_meet_inside (options : Options) :
    ∀ (node : Node) (rest : List Node) {before after : List Node} {x y : Node},
      leaves node = before ++ x :: y :: after →
      ∃ a b, Meet options (node :: rest) (solidOfAll options (before ++ [x])) a b ∧
        [x] <:+ leaves a ∧ [y] <+: leaves b
  | .text value, rest, before, after, x, y, order => by
    have count := congrArg List.length order
    simp [leaves] at count
    omega
  | .element tag attributes content, rest, before, after, x, y, order => by
    by_cases wrapper : isWrapperTag tag = true
    · rw [leaves_wrapper wrapper] at order
      obtain ⟨a, b, meet, last, first⟩ := exists_meet options content order
      exact ⟨a, b, .inside wrapper attributes meet rest, last, first⟩
    · have count := congrArg List.length order
      rw [leaves, if_neg wrapper] at count
      simp at count
      omega

end

theorem visible_of_leaf {a x : Node} (member : x ∈ leaves a) (shown : solidOf options x ≠ []) :
    solidOf options a ≠ [] := by
  rw [← solidOf_leaves]
  intro hidden
  exact shown (List.flatMap_eq_nil_iff.1 hidden x member)

/-- Whether white space is between two leaves is decided where they meet. -/
theorem gapAfter_render_iff (node : Node) {before after : List Node} {x y : Node}
    (order : allLeaves node.content = before ++ x :: y :: after) (shown : solidOf options x ≠ [])
    (shown' : solidOf options y ≠ []) :
    ∃ a b, Meet options node.content (solidOfAll options (before ++ [x])) a b ∧ [x] <:+ leaves a ∧
      [y] <+: leaves b ∧
      (gapAfter (solidOfAll options (before ++ [x])).length (render options node) ≠ [] ↔
        separated options a b = true) := by
  obtain ⟨a, b, meet, last, first⟩ := exists_meet options node.content order
  have own : solidOf options a ≠ [] := visible_of_leaf (last.subset List.mem_cons_self) shown
  have other : solidOf options b ≠ [] := visible_of_leaf (first.subset List.mem_cons_self) shown'
  obtain ⟨gap, behind, some⟩ := gap_at_meet meet own other []
  refine ⟨a, b, meet, last, first, ?_⟩
  have rendered :
      gapAfter (solidOfAll options (before ++ [x])).length (render options node) = gap :=
    behind.trim.gapAfter_eq
  rw [rendered, some]

end Meeting

/-! ### Words and inline code -/

/-- Whether a node is a `c`, or a `code` on one line. -/
def isInlineCode : Node → Bool
  | .text _ => false
  | .element tag _ content =>
    Text.lower tag == "c".toList || Text.lower tag == "code".toList && onOneLine (codeText content)

/-- A wrapper that shows a fence at an end. -/
def FencedWrapper (options : Options) (node : Node) : Prop :=
  isWrapper node = true ∧ ¬ Unfenced (render options node)

instance (options : Options) (node : Node) : Decidable (FencedWrapper options node) :=
  inferInstanceAs (Decidable (_ ∧ _))

section Words

variable {options : Options}

theorem piece_inlineCode {code : Node} (inline : isInlineCode code = true) (options : Options) :
    ∃ t, piece options code = .inline (quoted t) := by
  cases code with
  | text value => cases inline
  | element tag attributes content =>
    rw [isInlineCode, Bool.or_eq_true, Bool.and_eq_true, beq_iff_eq, beq_iff_eq] at inline
    rw [piece, Role.ofTag_eq]
    rcases inline with short | ⟨code, single⟩
    · have other : Text.lower tag ≠ "code".toList := by
        rw [short]
        decide
      rw [if_neg other, if_pos short]
      exact ⟨_, rfl⟩
    · rw [if_pos code]
      have oneLine : ¬ ('\n' ∈ codeText content ∨ '\r' ∈ codeText content) := by
        rw [not_or]
        exact onOneLine_iff.1 single
      exact ⟨codeText content, if_neg oneLine⟩

theorem visible_inlineCode {code : Node} (inline : isInlineCode code = true) :
    solidOf options code ≠ [] := by
  obtain ⟨t, same⟩ := piece_inlineCode inline options
  rw [← solid_piece, same, Piece.value_inline, solid_quoted]
  simp

/-- With inline spacing white space at an end of a text node is kept, unless it is gone with the
carriage returns. -/
theorem setEdge_eq_nil_iff (spaced : options.inlineSpacing = true) {gap : Text} :
    setEdge options gap = [] ↔ gap = [] := by
  unfold setEdge edgeSpace oneSpace
  rw [if_pos spaced]
  cases gap with
  | nil =>
    have none : isParagraphGap [] = false := by decide
    simp [none]
  | cons c r =>
    refine iff_of_false ?_ (List.cons_ne_nil c r)
    split
    · exact List.cons_ne_nil _ _
    · exact List.cons_ne_nil _ _

theorem ends_normalize (spaced : options.inlineSpacing = true) {value : Text}
    (shown : solid value ≠ []) :
    beginsBlank (normalize options value) = beginsBlank (value.filter (· != '\r')) ∧
      endsBlank (normalize options value) = endsBlank (value.filter (· != '\r')) := by
  rcases Text.exists_phrase (value.filter (· != '\r')) with white |
    ⟨start, phrase, stop, before, own, after, whole⟩
  · rw [← solid_without_returns] at shown
    exact absurd (Text.solid_eq_nil_of_isGap white) shown
  · have set := phrase_set own options.preserveParagraphs
    have start' := setEdge_is_gap options start
    have stop' := setEdge_is_gap options stop
    rw [normalize_phrase options before own after whole, whole, List.flatMap_def]
    constructor
    · obtain ⟨c, r, front, visible⟩ := own.head
      obtain ⟨c', r', front', visible'⟩ := set.head
      rw [front, front', Bool.eq_iff_iff, List.append_assoc, List.append_assoc, List.cons_append,
        List.cons_append, Text.beginsBlank_iff visible before, Text.beginsBlank_iff visible' start',
        ne_eq, ne_eq, setEdge_eq_nil_iff spaced]
    · obtain ⟨r, c, back, visible⟩ := own.last
      obtain ⟨r', c', back', visible'⟩ := set.last
      rw [back, back', Bool.eq_iff_iff, ← List.append_assoc, ← List.append_assoc,
        List.append_assoc _ [c], List.append_assoc _ [c'], List.singleton_append,
        List.singleton_append, Text.endsBlank_iff visible after, Text.endsBlank_iff visible' stop',
        ne_eq, ne_eq, setEdge_eq_nil_iff spaced]

theorem ends_element (options : Options) (tag : Text) (attributes : List Attribute)
    (content : List Node) :
    beginsBlank (piece options (.element tag attributes content)).value = false ∧
      endsBlank (piece options (.element tag attributes content)).value = false := by
  rw [← trim_piece_element]
  exact ⟨Text.beginsBlank_trim _, Text.endsBlank_trim _⟩

/-- The white space of a text node is at the ends of what holds it only if nothing but the text node
itself does. -/
theorem ends_of_text (spaced : options.inlineSpacing = true) {value : Text}
    (word : solid value ≠ []) {a : Node} (member : .text value ∈ leaves a) :
    (beginsBlank (piece options a).value = true ↔
      a = .text value ∧ beginsBlank (value.filter (· != '\r')) = true) ∧
    (endsBlank (piece options a).value = true ↔
      a = .text value ∧ endsBlank (value.filter (· != '\r')) = true) := by
  cases a with
  | text other =>
    have same : value = other := by simpa [leaves] using member
    subst same
    obtain ⟨front, back⟩ := ends_normalize spaced word
    rw [piece, Piece.value_inline, front, back]
    simp
  | element tag attributes content =>
    obtain ⟨front, back⟩ := ends_element options tag attributes content
    rw [front, back]
    simp

theorem ends_of_inlineCode {code a : Node} (inline : isInlineCode code = true)
    (member : code ∈ leaves a) :
    beginsBlank (piece options a).value = false ∧ endsBlank (piece options a).value = false := by
  cases a with
  | text value =>
    rw [leaves, List.mem_singleton] at member
    rw [member] at inline
    cases inline
  | element tag attributes content => exact ends_element options tag attributes content

theorem isBlock_nestedPiece_iff (t : Text) : (nestedPiece t).isBlock = true ↔ ¬ Unfenced t := by
  constructor
  · intro stands bare
    rw [nestedPiece_unfenced bare] at stands
    cases stands
  · intro fenced
    rw [Unfenced, not_and_or, not_not, not_not, ← List.isPrefixOf_iff_prefix,
      ← List.isSuffixOf_iff_suffix, ← Bool.or_eq_true] at fenced
    rw [nestedPiece, if_pos fenced]
    rfl

/-- What holds a leaf that is not a block is one only if it is a wrapper with a fence at an end. -/
theorem isBlock_iff_of_leaf {a x : Node} (member : x ∈ leaves a)
    (inline : (piece options x).isBlock = false) :
    (piece options a).isBlock = true ↔ FencedWrapper options a := by
  cases a with
  | text value => simp [piece, Piece.isBlock, FencedWrapper, isWrapper]
  | element tag attributes content =>
    by_cases wrapper : isWrapperTag tag = true
    · rw [piece_wrapper wrapper, isBlock_nestedPiece_iff]
      simp [FencedWrapper, isWrapper, wrapper]
    · rw [leaves, if_neg wrapper, List.mem_singleton] at member
      rw [← member, inline, member]
      simp [FencedWrapper, isWrapper, wrapper]

/-- With inline spacing, white space is between a word and the inline code next to it in exactly two
cases. The text node of the word has white space at that end, other than carriage returns, and is
itself a sibling of what holds the code; or one of the two siblings that meet is a wrapper with a
fence at an end. Space inside a wrapper, at its edge, does not keep them apart. -/
theorem word_apart_from_inline_code_iff (spaced : options.inlineSpacing = true) (node : Node)
    {before after : List Node} {value : Text} {code : Node} (word : solid value ≠ [])
    (inline : isInlineCode code = true) :
    (allLeaves node.content = before ++ .text value :: code :: after →
      ∃ a b, Meet options node.content (solidOfAll options (before ++ [.text value])) a b ∧
        [.text value] <:+ leaves a ∧ [code] <+: leaves b ∧
        (gapAfter (solidOfAll options (before ++ [.text value])).length (render options node) ≠ [] ↔
          (a = .text value ∧ endsBlank (value.filter (· != '\r')) = true) ∨
            FencedWrapper options a ∨ FencedWrapper options b)) ∧
    (allLeaves node.content = before ++ code :: .text value :: after →
      ∃ a b, Meet options node.content (solidOfAll options (before ++ [code])) a b ∧
        [code] <:+ leaves a ∧ [.text value] <+: leaves b ∧
        (gapAfter (solidOfAll options (before ++ [code])).length (render options node) ≠ [] ↔
          (b = .text value ∧ beginsBlank (value.filter (· != '\r')) = true) ∨
            FencedWrapper options a ∨ FencedWrapper options b)) := by
  have shown : solidOf options code ≠ [] := visible_inlineCode inline
  have codeInline : (piece options code).isBlock = false := by
    obtain ⟨t, same⟩ := piece_inlineCode inline options
    rw [same, Piece.isBlock]
  constructor
  · intro order
    obtain ⟨a, b, meet, last, first, apart⟩ := gapAfter_render_iff node order word shown
    refine ⟨a, b, meet, last, first, ?_⟩
    have left : .text value ∈ leaves a := last.subset List.mem_cons_self
    have right : code ∈ leaves b := first.subset List.mem_cons_self
    rw [apart, separated, Bool.or_eq_true, Bool.or_eq_true, Bool.or_eq_true,
      isBlock_iff_of_leaf left rfl, isBlock_iff_of_leaf right codeInline,
      (ends_of_text spaced word left).2, (ends_of_inlineCode inline right).1]
    simp only [Bool.false_eq_true, or_false]
    exact or_comm
  · intro order
    obtain ⟨a, b, meet, last, first, apart⟩ := gapAfter_render_iff node order shown word
    refine ⟨a, b, meet, last, first, ?_⟩
    have left : code ∈ leaves a := last.subset List.mem_cons_self
    have right : .text value ∈ leaves b := first.subset List.mem_cons_self
    rw [apart, separated, Bool.or_eq_true, Bool.or_eq_true, Bool.or_eq_true,
      isBlock_iff_of_leaf left codeInline, isBlock_iff_of_leaf right rfl,
      (ends_of_text spaced word right).1, (ends_of_inlineCode inline left).2]
    simp only [Bool.false_eq_true, or_false]
    exact or_comm

end Words

/-- Inline code inside a wrapper, between words with spaces at their ends. -/
def codeAmongWords : Node :=
  .element "summary".toList []
    [.text "Run ".toList, .element "B".toList [] [.element "C".toList [] [.text "go".toList]],
      .text "\n now".toList]

theorem word_apart_from_inline_code_iff_wrapped :
    solid "Run ".toList ≠ [] ∧ isInlineCode (.element "C".toList [] [.text "go".toList]) = true ∧
    allLeaves codeAmongWords.content = [] ++ .text "Run ".toList ::
      .element "C".toList [] [.text "go".toList] :: [.text "\n now".toList] ∧
    ∃ a b, Meet { inlineSpacing := true } codeAmongWords.content
        (solidOfAll { inlineSpacing := true } ([] ++ [.text "Run ".toList])) a b ∧
      [.text "Run ".toList] <:+ leaves a ∧
      [.element "C".toList [] [.text "go".toList]] <+: leaves b ∧
      (gapAfter (solidOfAll { inlineSpacing := true } ([] ++ [.text "Run ".toList])).length
          (render { inlineSpacing := true } codeAmongWords) ≠ [] ↔
        (a = .text "Run ".toList ∧ endsBlank ("Run ".toList.filter (· != '\r')) = true) ∨
          FencedWrapper { inlineSpacing := true } a ∨
            FencedWrapper { inlineSpacing := true } b) := by
  have word : solid "Run ".toList ≠ [] := by decide
  have inline : isInlineCode (.element "C".toList [] [.text "go".toList]) = true := by decide
  exact ⟨word, inline, rfl, (word_apart_from_inline_code_iff rfl _ word inline).1 rfl⟩

/-- Text that ends with a space, inside a wrapper and next to inline code: they touch. -/
theorem space_lost_at_edge_of_wrapper :
    allLeaves [.element "para".toList [] [.text "see ".toList],
      .element "c".toList [] [.text "x".toList]] =
        [.text "see ".toList, .element "c".toList [] [.text "x".toList]] ∧
    solid "see ".toList ≠ [] ∧ endsBlank "see ".toList = true ∧
    isInlineCode (.element "c".toList [] [.text "x".toList]) = true ∧
    render { inlineSpacing := true } (.element "summary".toList []
      [.element "para".toList [] [.text "see ".toList],
        .element "c".toList [] [.text "x".toList]]) = "see`x`".toList ∧
    gapAfter 3 "see`x`".toList = [] :=
  ⟨rfl, by decide, by decide, by decide, by decide, by decide⟩

end DocReport.Markdown

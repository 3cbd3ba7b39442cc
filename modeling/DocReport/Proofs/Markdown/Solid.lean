import DocReport.Markdown.Render
import DocReport.Proofs.Text.Case
import DocReport.Proofs.Text.Solid

/-!
Rendering loses no text. Behind `Text.solid`, which deletes white space, every way of putting
pieces together is plain concatenation: the trims, the collapsed gaps, the paragraph breaks and the
empty lines around blocks are all white. So the non-white characters of a rendering are those of
the children, one child after the other.
-/
namespace DocReport.Markdown

open Markup
open Text (isBlank solid solid_append solid_cons solid_singleton_of_blank)

/-- The Markdown of a piece, inline or not. -/
def Piece.value : Piece → Text
  | .inline value => value
  | .block value => value

@[simp] theorem Piece.value_inline (t : Text) : (Piece.inline t).value = t := rfl

@[simp] theorem Piece.value_block (t : Text) : (Piece.block t).value = t := rfl

theorem solid_collapseFrom (afterBlank : Bool) (t : Text) :
    solid (collapseFrom afterBlank t) = solid t := by
  fun_induction collapseFrom afterBlank t with
  | case1 => rfl
  | case2 c r blank ih => rw [ih, solid_cons, solid_singleton_of_blank blank, List.nil_append]
  | case3 afterBlank c r blank _ ih =>
    rw [solid_cons, ih, solid_cons c, solid_singleton_of_blank blank,
      solid_singleton_of_blank (by decide)]
  | case4 afterBlank c r _ ih => rw [solid_cons, ih, ← solid_cons]

theorem cutParagraphs_ne_nil (gap t : Text) : cutParagraphs gap t ≠ [] := by
  fun_induction cutParagraphs gap t <;> simp_all

/-- Paragraphs hold all of a text but the gaps between them; a gap read so far is white. -/
theorem solid_cutParagraphs (gap t : Text) (white : solid gap = []) :
    (cutParagraphs gap t).flatMap solid = solid t := by
  fun_induction cutParagraphs gap t with
  | case1 gap _ => rfl
  | case2 gap _ => simp [white]
  | case3 gap c r blank ih =>
    have wider : solid (c :: gap) = [] := by
      rw [solid_cons, solid_singleton_of_blank blank, white, List.nil_append]
    rw [ih wider, solid_cons, solid_singleton_of_blank blank, List.nil_append]
  | case4 gap c r _ empty => exact absurd empty (cutParagraphs_ne_nil [] r)
  | case5 gap c r _ part parts cut _ ih =>
    have rest := ih rfl
    rw [cut, List.flatMap_cons] at rest
    rw [List.flatMap_cons, List.flatMap_cons, solid_cons c part, solid_cons c r, ← rest]
    simp
  | case6 gap c r _ part parts cut _ ih =>
    have rest := ih rfl
    rw [cut, List.flatMap_cons] at rest
    rw [List.flatMap_cons, solid_append, solid_cons c part, solid_cons c r, ← rest]
    simp [white]

theorem solid_normalizeParagraph (options : Options) (t : Text) :
    solid (normalizeParagraph options t) = solid t := by
  have collapsed : solid (collapse t) = solid t := solid_collapseFrom false t
  unfold normalizeParagraph
  split
  · exact collapsed
  · rw [Text.solid_trim, collapsed]

theorem solid_without_returns (t : Text) : solid (t.filter (· != '\r')) = solid t := by
  apply Text.solid_filter
  intro c dropped
  rw [show c = '\r' by simpa using dropped]
  decide

theorem solid_normalize (options : Options) (value : Text) :
    solid (normalize options value) = solid value := by
  have paragraph : (fun t => solid (normalizeParagraph options t)) = solid :=
    funext (solid_normalizeParagraph options)
  unfold normalize
  rw [Text.solid_join (by decide), List.flatMap_map, paragraph]
  split
  · rw [paragraphs, solid_cutParagraphs [] _ rfl, solid_without_returns]
  · simp [solid_without_returns]

theorem space_is_blank (c : Char) (space : (c == ' ') = true) : isBlank c = true := by
  rw [show c = ' ' by simpa using space]
  decide

theorem lineFeed_is_blank (c : Char) (feed : (c == '\n') = true) : isBlank c = true := by
  rw [show c = '\n' by simpa using feed]
  decide

theorem solid_appendInline (out piece : Text) :
    solid (appendInline out piece) = solid out ++ solid piece := by
  unfold appendInline
  split
  · rw [solid_append, Text.solid_dropWhile space_is_blank]
  · rw [solid_append]

theorem solid_appendBlock (out block : Text) :
    solid (appendBlock out block) = solid out ++ solid block := by
  have trimmed : solid (Text.dropTail (· == ' ') out) = solid out :=
    Text.solid_dropTail space_is_blank out
  have lines : solid ['\n', '\n'] = [] := by decide
  simp only [appendBlock, solid_append, lines, List.append_nil]
  split
  · rename_i empty
    rw [List.isEmpty_iff.1 empty] at trimmed
    rw [← trimmed]
  · rw [solid_append, lines, Text.solid_dropTail lineFeed_is_blank, trimmed, List.append_nil]

theorem solid_append_piece (out : Text) (piece : Piece) :
    solid (append out piece) = solid out ++ solid piece.value := by
  cases piece with
  | inline value => exact solid_appendInline out value
  | block value => exact solid_appendBlock out value

theorem solid_foldl_append (pieces : List Piece) (out : Text) :
    solid (pieces.foldl append out) = solid out ++ pieces.flatMap fun p => solid p.value := by
  induction pieces generalizing out with
  | nil => simp
  | cons p rest ih =>
    rw [List.foldl_cons, ih, solid_append_piece, List.flatMap_cons, List.append_assoc]

theorem solid_assemble (pieces : List Piece) :
    solid (assemble pieces) = pieces.flatMap fun p => solid p.value := by
  rw [assemble, Text.solid_trim, solid_foldl_append, Text.solid_nil, List.nil_append]

theorem pieces_eq_map (options : Options) (nodes : List Node) :
    pieces options nodes = nodes.map (piece options) := by
  induction nodes with
  | nil => rfl
  | cons node rest ih => rw [pieces, ih, List.map_cons]

/-- Tags are compared in lower case, whatever letters they are written with. -/
theorem Role.ofTag_eq (tag : Text) :
    Role.ofTag tag =
      if Text.lower tag = "code".toList then .code
      else if Text.lower tag = "c".toList then .inlineCode
      else if Text.lower tag = "see".toList then .reference
      else .wrapper := by
  have code := Text.lower_eq_iff tag "code".toList (by decide)
  have inlineCode := Text.lower_eq_iff tag "c".toList (by decide)
  have reference := Text.lower_eq_iff tag "see".toList (by decide)
  simp only [Role.ofTag, code, inlineCode, reference]

/-- What a child adds to the non-white characters of its parent's rendering. -/
def solidOf (options : Options) : Node → Text
  | .text value => solid value
  | .element tag attributes content =>
    if Text.lower tag = "code".toList then
      let code := Text.trim (Text.replace ['\r', '\n'] ['\n'] (Node.flattenAll content))
      if '\n' ∈ code ∨ '\r' ∈ code then
        fence ++ solid options.codeLanguage ++ solid code ++ fence
      else ['\x60'] ++ solid code ++ ['\x60']
    else if Text.lower tag = "c".toList then
      ['\x60'] ++ solid (Node.flattenAll content) ++ ['\x60']
    else if Text.lower tag = "see".toList then
      -- A symbol, a link, a keyword, or only text: the first attribute that is not blank decides.
      let given (name : Text) : Text :=
        Text.trim (((attributes.find? (·.name == name)).map (·.value)).getD [])
      if given "cref".toList ≠ [] then
        ['\x60'] ++ solid (Symbol.withoutMarkers (given "cref".toList)) ++ ['\x60']
      else if given "href".toList ≠ [] then
        ['['] ++ solid (Node.flattenAll content) ++ "](".toList ++
          solid (given "href".toList) ++ [')']
      else if given "langword".toList ≠ [] then
        ['\x60'] ++ solid (given "langword".toList) ++ ['\x60']
      else solid (Node.flattenAll content)
    else solid (render options (.element tag attributes content))

theorem solid_quoted (t : Text) : solid (quoted t) = ['\x60'] ++ solid t ++ ['\x60'] := by
  rw [quoted, solid_append, solid_append]
  rfl

theorem solid_referenceText (attributes : List Attribute) (content : List Node) :
    solid (referenceText attributes content) =
      if attributeText "cref".toList attributes ≠ [] then
        ['\x60'] ++ solid (Symbol.withoutMarkers (attributeText "cref".toList attributes)) ++
          ['\x60']
      else if attributeText "href".toList attributes ≠ [] then
        ['['] ++ solid (Node.flattenAll content) ++ "](".toList ++
          solid (attributeText "href".toList attributes) ++ [')']
      else if attributeText "langword".toList attributes ≠ [] then
        ['\x60'] ++ solid (attributeText "langword".toList attributes) ++ ['\x60']
      else solid (Node.flattenAll content) := by
  have opening : solid ['['] = ['['] := by decide
  have middle : solid "](".toList = "](".toList := by decide
  have closing : solid [')'] = [')'] := by decide
  unfold referenceText
  generalize attributeText "cref".toList attributes = symbol
  generalize attributeText "href".toList attributes = link
  generalize attributeText "langword".toList attributes = keyword
  cases symbol with
  | cons c symbol => exact solid_quoted _
  | nil =>
    cases link with
    | cons c link =>
      change solid (['['] ++ _ ++ "](".toList ++ _ ++ [')']) = _
      rw [solid_append, solid_append, solid_append, solid_append, Text.solid_trim, opening, middle,
        closing]
      rfl
    | nil =>
      cases keyword with
      | cons c keyword => exact solid_quoted _
      | nil => exact Text.solid_trim _

theorem solid_codePiece (options : Options) (content : List Node) :
    solid (codePiece options content).value =
      if '\n' ∈ codeText content ∨ '\r' ∈ codeText content then
        fence ++ solid options.codeLanguage ++ solid (codeText content) ++ fence
      else ['\x60'] ++ solid (codeText content) ++ ['\x60'] := by
  have feed : solid ['\n'] = [] := by decide
  have ticks : solid fence = fence := by decide
  by_cases several : '\n' ∈ codeText content ∨ '\r' ∈ codeText content
  · simp only [codePiece, if_pos several, Piece.value_block, solid_append, feed, ticks,
      List.append_nil]
  · simp only [codePiece, if_neg several, Piece.value_inline, solid_quoted]

theorem value_nestedPiece (rendered : Text) : (nestedPiece rendered).value = rendered := by
  unfold nestedPiece
  split <;> rfl

theorem solid_piece (options : Options) (node : Node) :
    solid (piece options node).value = solidOf options node := by
  cases node with
  | text value => exact solid_normalize options value
  | element tag attributes content =>
    rw [piece, Role.ofTag_eq, solidOf]
    by_cases code : Text.lower tag = "code".toList
    · simp only [if_pos code]
      exact solid_codePiece options content
    · by_cases inlineCode : Text.lower tag = "c".toList
      · simp only [if_neg code, if_pos inlineCode, Piece.value_inline, solid_quoted,
          Text.solid_trim]
      · by_cases reference : Text.lower tag = "see".toList
        · simp only [if_neg code, if_neg inlineCode, if_pos reference, Piece.value_inline,
            solid_referenceText]
          rfl
        · simp only [if_neg code, if_neg inlineCode, if_neg reference, value_nestedPiece]
          rfl

theorem solid_render (options : Options) (node : Node) :
    solid (render options node) = node.content.flatMap (solidOf options) := by
  rw [render, solid_assemble, pieces_eq_map, List.flatMap_map]
  simp only [solid_piece]

mutual

/-- Of the options only the code language reaches the non-white characters. -/
theorem solidOf_congr {options others : Options}
    (same : others.codeLanguage = options.codeLanguage) :
    ∀ node : Node, solidOf others node = solidOf options node
  | .text _ => rfl
  | .element tag attributes content => by
    simp only [solidOf, same, solid_render, Node.content, solidOf_congr_all same content]

theorem solidOf_congr_all {options others : Options}
    (same : others.codeLanguage = options.codeLanguage) :
    ∀ nodes : List Node, nodes.flatMap (solidOf others) = nodes.flatMap (solidOf options)
  | [] => rfl
  | node :: rest => by
    rw [List.flatMap_cons, List.flatMap_cons, solidOf_congr same node, solidOf_congr_all same rest]

end

mutual

/-- Whether no element of a tree is a `see`, in any case of its letters. -/
def hasNoReference : Node → Bool
  | .text _ => true
  | .element tag _ content => Text.lower tag != "see".toList && haveNoReference content

/-- Whether no element of any tree in a list is a `see`. -/
def haveNoReference : List Node → Bool
  | [] => true
  | node :: rest => hasNoReference node && haveNoReference rest

end

theorem sublist_between (start t stop : Text) : t.Sublist (start ++ t ++ stop) :=
  (List.sublist_append_right start t).trans (List.sublist_append_left _ stop)

/-- Code keeps its text between whatever marks it. -/
theorem sublist_solidCode (language : Text) (content : List Node) :
    (solid (Node.flattenAll content)).Sublist
      (if '\n' ∈ codeText content ∨ '\r' ∈ codeText content then
        fence ++ solid language ++ solid (codeText content) ++ fence
      else ['\x60'] ++ solid (codeText content) ++ ['\x60']) := by
  have same : solid (codeText content) = solid (Node.flattenAll content) := by
    rw [codeText, Text.solid_trim, Text.solid_replace_lineEnds]
  rw [same]
  split
  · exact sublist_between ..
  · exact sublist_between ..

mutual

theorem solid_flatten_sublist (options : Options) :
    ∀ node : Node, hasNoReference node = true →
      (solid node.flatten).Sublist (solidOf options node)
  | .text _, _ => List.Sublist.refl _
  | .element tag attributes content, plain => by
    simp only [hasNoReference, Bool.and_eq_true, bne_iff_ne, ne_eq] at plain
    rw [Node.flatten, solidOf, if_neg plain.1]
    split
    · exact sublist_solidCode options.codeLanguage content
    · split
      · exact sublist_between ..
      · rw [solid_render, Node.content]
        exact solid_flattenAll_sublist options content plain.2

theorem solid_flattenAll_sublist (options : Options) :
    ∀ nodes : List Node, haveNoReference nodes = true →
      (solid (Node.flattenAll nodes)).Sublist (nodes.flatMap (solidOf options))
  | [], _ => List.Sublist.refl _
  | node :: rest, plain => by
    simp only [haveNoReference, Bool.and_eq_true] at plain
    rw [Node.flattenAll, solid_append, List.flatMap_cons]
    exact (solid_flatten_sublist options node plain.1).append
      (solid_flattenAll_sublist options rest plain.2)

end

/-- Modulo white space rendering concatenates what the children add, one after the other. So the
layout options do not reach the non-white characters, and without references no text is lost. -/
theorem render_loses_no_text (options : Options) (tag : Text) (attributes : List Attribute)
    (content : List Node) :
    solid (render options (.element tag attributes content)) =
      content.flatMap (solidOf options) ∧
    (∀ preserveParagraphs inlineSpacing : Bool,
      solid (render { options with preserveParagraphs, inlineSpacing }
        (.element tag attributes content)) =
      solid (render options (.element tag attributes content))) ∧
    (haveNoReference content = true →
      (solid (Node.flatten (.element tag attributes content))).Sublist
        (render options (.element tag attributes content))) := by
  refine ⟨solid_render .., ?_, ?_⟩
  · intro preserveParagraphs inlineSpacing
    rw [solid_render, solid_render]
    refine solidOf_congr_all ?_ content
    rfl
  · intro plain
    have kept := solid_flattenAll_sublist options content plain
    have rendered := solid_render options (.element tag attributes content)
    rw [Node.content] at rendered
    rw [← rendered] at kept
    exact kept.trans (Text.solid_sublist _)

/-- Inline code, a fence inside a wrapper and running text, with spaces kept at the edges. -/
theorem render_loses_no_text_nested :
    haveNoReference
      [.text "Run ".toList, .element "C".toList [] [.text "go".toList],
        .element "para".toList [] [.element "code".toList [] [.text "a\r\n b".toList]],
        .text "\n\n then stop.".toList] = true ∧
    (solid (Node.flatten (.element "summary".toList []
      [.text "Run ".toList, .element "C".toList [] [.text "go".toList],
        .element "para".toList [] [.element "code".toList [] [.text "a\r\n b".toList]],
        .text "\n\n then stop.".toList]))).Sublist
      (render { inlineSpacing := true } (.element "summary".toList []
        [.text "Run ".toList, .element "C".toList [] [.text "go".toList],
          .element "para".toList [] [.element "code".toList [] [.text "a\r\n b".toList]],
          .text "\n\n then stop.".toList])) :=
  ⟨by decide, (render_loses_no_text { inlineSpacing := true } _ [] _).2.2 (by decide)⟩

end DocReport.Markdown

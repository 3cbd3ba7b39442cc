import DocReport.Proofs.Markup.Fragment
import DocReport.Proofs.Markup.Writer

/-!
Reading what was written. Nodes without empty or neighbouring texts and with plain names are read
back from their markup exactly: texts with their white space, attributes in their order, elements
with their content. In turn, whatever is read has no empty or neighbouring texts, so nothing else
could be written and read back.
-/
namespace DocReport.Markup

/-- Whether an element can be written by itself: its names are plain, no attribute has the name of
another, and texts hold characters of XML only. -/
def isPlainElement (tag : Text) (attributes : List Attribute) (content : List Node) : Bool :=
  isPlainName tag && attributes.all Attribute.isPlain &&
    decide ((attributes.map (·.name)).Nodup) &&
    content.all fun
      | .text value => isLegal value
      | .element _ _ _ => true

/-- Whether all elements of a node can be written. -/
def Node.isPlain (node : Node) : Bool :=
  node.everyElement isPlainElement

/-- Content that is written and read back. -/
structure Writable (nodes : List Node) : Prop where
  apart : textsApart nodes = true
  legal : ∀ value, .text value ∈ nodes → isLegal value = true
  normal : Node.everyElementIn (fun _ _ content => textsApart content) nodes = true
  plain : Node.everyElementIn isPlainElement nodes = true

namespace Writable

variable {tag : Text} {attributes : List Attribute} {inside rest : List Node}

theorem of_element (normal : (Node.element tag attributes inside).isNormal = true)
    (plain : (Node.element tag attributes inside).isPlain = true) : Writable inside := by
  simp only [Node.isNormal, Node.everyElement, Bool.and_eq_true] at normal
  simp only [Node.isPlain, Node.everyElement, isPlainElement, Bool.and_eq_true,
    List.all_eq_true] at plain
  exact ⟨normal.1, fun value member => plain.1.2 _ member, normal.2, plain.2⟩

theorem tail {node : Node} (writable : Writable (node :: rest)) : Writable rest := by
  obtain ⟨apart, legal, normal, plain⟩ := writable
  simp only [Node.everyElementIn, Bool.and_eq_true] at normal plain
  refine ⟨?_, fun value member => legal value (List.mem_cons_of_mem _ member), normal.2, plain.2⟩
  cases node with
  | text value =>
    simp only [textsApart, Bool.and_eq_true] at apart
    exact apart.2
  | element tag attributes content => exact apart

theorem content (writable : Writable (.element tag attributes inside :: rest)) :
    Writable inside := by
  have normal := writable.normal
  have plain := writable.plain
  simp only [Node.everyElementIn, Bool.and_eq_true] at normal plain
  exact of_element normal.1 plain.1

theorem element (writable : Writable (.element tag attributes inside :: rest)) :
    isPlainName tag = true ∧ (∀ a ∈ attributes, a.isPlain = true) ∧
      (attributes.map (·.name)).Nodup := by
  have plain := writable.plain
  simp only [Node.everyElementIn, Node.everyElement, isPlainElement, Bool.and_eq_true,
    List.all_eq_true, decide_eq_true_eq] at plain
  exact ⟨plain.1.1.1.1.1, plain.1.1.1.1.2, plain.1.1.1.2⟩

theorem text {value : Text} (writable : Writable (.text value :: rest)) :
    value ≠ [] ∧ startsWithText rest = false ∧ isLegal value = true := by
  have apart := writable.apart
  simp only [textsApart, Bool.and_eq_true, Bool.not_eq_true', List.isEmpty_eq_false_iff] at apart
  exact ⟨apart.1.1, apart.1.2, writable.legal value List.mem_cons_self⟩

end Writable

/-- Content that begins with no text begins with markup, also if it is empty and markup follows. -/
theorem nodes_head (style : Style) {nodes : List Node} (markup : startsWithText nodes = false)
    {rest : Text} (behind : rest.head? = some '<') :
    (style.nodes nodes ++ rest).head? = some '<' := by
  cases nodes with
  | nil => exact behind
  | cons node nodes =>
    cases node with
    | text value => cases markup
    | element tag attributes content =>
      simp only [Style.nodes, Style.node]
      split <;> rfl

theorem mergeText_holding (frame : Frame) (inside nodes : List Node) :
    mergeText (frame.holding inside :: nodes) = frame.holding inside :: mergeText nodes := rfl

theorem content_characters {scope : Scope} {tokens : List Token} {nodes : List Node} (value : Text)
    (rest : Content scope tokens nodes) :
    Content scope (value.map Token.character ++ tokens)
      ((value.map fun c => .text [c]) ++ nodes) := by
  induction value with
  | nil => exact rest
  | cons c value ih => exact .character c ih

/-- What is written for nodes is read as their content, in front of any markup. -/
theorem scan_nodes (style : Style) (nodes : List Node) (writable : Writable nodes) (rest : Text)
    (markup : rest.head? = some '<') :
    ∃ tokens raw, scan (style.nodes nodes ++ rest) = tokens ++ scan rest ∧
      Content .outermost tokens raw ∧ mergeText raw = nodes := by
  -- The recursion is on the row and into the content of its elements. No text follows a text, so
  -- the end of each one is where markup begins.
  match nodes with
  | [] => exact ⟨[], [], rfl, .nil _, rfl⟩
  | .text value :: others =>
    obtain ⟨some, apart, legal⟩ := writable.text
    obtain ⟨tokens, raw, row, made, merged⟩ := scan_nodes style others writable.tail rest markup
    refine ⟨_, _, ?_, content_characters value made, ?_⟩
    · rw [Style.nodes, Style.node, List.append_assoc,
        scan_characters style legal (nodes_head style apart markup), row, List.append_assoc]
    · rw [mergeText_append, mergeText_characters some, merged, joinContent_text apart]
  | .element tag attributes content :: others =>
    obtain ⟨named, plain, distinct⟩ := writable.element
    obtain ⟨tokens, raw, row, made, merged⟩ := scan_nodes style others writable.tail rest markup
    rw [Style.nodes, Style.node, List.append_assoc]
    generalize style.nodes others ++ rest = behind at row
    split
    · rename_i short
      obtain ⟨_, rfl⟩ : style.shortEmpty = true ∧ content = [] := by simpa using short
      obtain ⟨raws, here, opening, opened⟩ :=
        scan_startTag style named plain distinct true behind
      refine ⟨_, _, by rw [opening, row]; rfl, .empty opened made, ?_⟩
      rw [mergeText_holding, merged]
      rfl
    · obtain ⟨raws, here, opening, opened⟩ := scan_startTag style named plain distinct false
        (style.nodes content ++ '<' :: '/' :: (tag ++ '>' :: behind))
      obtain ⟨body, inside, bodyRow, bodyMade, bodyMerged⟩ := scan_nodes style content
        writable.content ('<' :: '/' :: (tag ++ '>' :: behind)) rfl
      refine ⟨.startTag tag raws false here ::
        (body ++ .endTag tag (tag ++ '>' :: behind) behind :: tokens), _, ?_,
        .element opened bodyMade made, ?_⟩
      · simp only [List.append_assoc, List.cons_append, List.nil_append]
        rw [opening, bodyRow, scan_endTag named, row]
      · rw [mergeText_holding, merged, Frame.holding, bodyMerged]
        rfl

/-- Whatever is read is the root, with merged texts all the way down; and whatever has merged texts
and plain names is read back from its markup exactly, in any style. -/
theorem parseFragment_inverts_writing :
    (∀ fragment root, parseFragment fragment = .ok root →
      (∃ nodes, root = .element rootTag [] nodes) ∧ root.isNormal = true) ∧
    ∀ (style : Style) (nodes : List Node), (Node.element rootTag [] nodes).isNormal = true →
      (Node.element rootTag [] nodes).isPlain = true →
      parseFragment (style.nodes nodes) = .ok (.element rootTag [] nodes) := by
  refine ⟨fun fragment root read => ?_, fun style nodes normal plain => ?_⟩
  · obtain ⟨tokens, nodes, made, rfl, _⟩ := content_of_readFragment (parseFragment_eq_ok_iff.1 read)
    exact ⟨⟨mergeText nodes, rfl⟩, Frame.isNormal_holding made.normal⟩
  · obtain ⟨tokens, raw, row, made, merged⟩ :=
      scan_nodes style nodes (.of_element normal plain) rootEnd rfl
    rw [parseFragment_eq_ok_iff, readFragment_of_content made row, Frame.holding, merged]
    rfl

/-- White space, line ends, marks and quotes, in text and in values. -/
theorem parseFragment_inverts_writing_marks :
    let style : Style :=
      { form := fun c => if c = '\r' then .hexadecimal else .named, shortEmpty := true }
    let nodes : List Node :=
      [.text "]]> & \r\n".toList,
       .element ['c'] [⟨['b'], " \t\"<".toList⟩, ⟨['a'], []⟩]
         [.element ['p'] [] [], .text [' ', '\''], .element ['p'] [] [.text ['é']]]]
    style.nodes nodes =
        "]]&gt; &amp; &#xd;\n<c b=\" &#9;&quot;&lt;\" a=\"\"><p/> &apos;<p>é</p></c>".toList ∧
      parseFragment (style.nodes nodes) = .ok (.element rootTag [] nodes) ∧
      (Node.element rootTag [] nodes).isNormal = true := by
  intro style nodes
  have normal : (Node.element rootTag [] nodes).isNormal = true := by decide +kernel
  have plain : (Node.element rootTag [] nodes).isPlain = true := by decide +kernel
  have read := parseFragment_inverts_writing.2 style nodes normal plain
  exact ⟨by decide +kernel, read, (parseFragment_inverts_writing.1 _ _ read).2⟩

end DocReport.Markup

import DocReport.Proofs.Markup.Content

/-!
Texts in content. Merging joins every run of neighbouring texts into one and leaves out empty ones,
so merged content has no empty text and no two texts side by side, and content that is so already
stays as it is. Merging rows one after the other merges once more where they meet.
-/
namespace DocReport.Markup

/-- Content one after the other; a text at the end of the first and one at the start of the second
become one text. -/
def joinContent : List Node → List Node → List Node
  | [], others => others
  | [.text value], .text next :: others => .text (value ++ next) :: others
  | node :: rest, others => node :: joinContent rest others

/-- Whether content begins with a text. -/
def startsWithText : List Node → Bool
  | .text _ :: _ => true
  | _ => false

/-- Whether no text is empty and no two texts stand side by side. -/
def textsApart : List Node → Bool
  | [] => true
  | .element _ _ _ :: rest => textsApart rest
  | .text value :: rest => !value.isEmpty && !startsWithText rest && textsApart rest

theorem joinContent_element (tag : Text) (attributes : List Attribute)
    (content rest others : List Node) :
    joinContent (.element tag attributes content :: rest) others =
      .element tag attributes content :: joinContent rest others := by
  cases rest <;> rfl

theorem joinContent_more (first second : Node) (rest others : List Node) :
    joinContent (first :: second :: rest) others =
      first :: joinContent (second :: rest) others := by
  cases first <;> rfl

theorem joinContent_text {others : List Node} (apart : startsWithText others = false)
    (value : Text) : joinContent [.text value] others = .text value :: others := by
  cases others with
  | nil => rfl
  | cons first rest =>
    cases first with
    | text next => cases apart
    | element tag attributes content => rfl

/-- A text in front joins on where it is put, so it may be put there before or after. -/
theorem joinContent_text_join (value : Text) (nodes others : List Node) :
    joinContent [.text value] (joinContent nodes others) =
      joinContent (joinContent [.text value] nodes) others := by
  cases nodes with
  | nil => rfl
  | cons first rest =>
    cases first with
    | element tag attributes content =>
      rw [joinContent_element, joinContent_text rfl, joinContent_text rfl, joinContent_more,
        joinContent_element]
    | text next =>
      cases rest with
      | cons second rest => rfl
      | nil =>
        cases others with
        | nil => rfl
        | cons other others =>
          cases other with
          | element tag attributes content => rfl
          | text last => exact congrArg (fun t => .text t :: others) (List.append_assoc ..).symm

theorem mergeText_text {value : Text} (some : value ≠ []) (rest : List Node) :
    mergeText (.text value :: rest) = joinContent [.text value] (mergeText rest) := by
  simp only [mergeText]
  cases value with
  | nil => exact absurd rfl some
  | cons c t =>
    cases mergeText rest with
    | nil => rfl
    | cons first others => cases first <;> rfl

/-- Merging two rows merges each of them, and once more where they meet. -/
theorem mergeText_append (nodes others : List Node) :
    mergeText (nodes ++ others) = joinContent (mergeText nodes) (mergeText others) := by
  induction nodes with
  | nil => rfl
  | cons node rest ih =>
    rw [List.cons_append]
    cases node with
    | element tag attributes content => rw [mergeText, ih, mergeText, joinContent_element]
    | text value =>
      by_cases empty : value = []
      · subst empty
        exact ih
      · rw [mergeText_text empty, ih, joinContent_text_join, mergeText_text empty]

theorem textsApart_joinContent_text {value : Text} (some : value ≠ []) {nodes : List Node}
    (apart : textsApart nodes = true) : textsApart (joinContent [.text value] nodes) = true := by
  cases nodes with
  | nil => simp [joinContent, textsApart, startsWithText, some]
  | cons first rest =>
    cases first with
    | element tag attributes content =>
      rw [joinContent_text rfl]
      simpa [textsApart, startsWithText, some] using apart
    | text next =>
      simp only [textsApart, Bool.and_eq_true] at apart
      simp [joinContent, textsApart, some, apart.1.2, apart.2]

/-- Merged content has no empty text and no two texts side by side. -/
theorem textsApart_mergeText (nodes : List Node) : textsApart (mergeText nodes) = true := by
  induction nodes with
  | nil => rfl
  | cons node rest ih =>
    cases node with
    | element tag attributes content => exact ih
    | text value =>
      by_cases empty : value = []
      · subst empty
        exact ih
      · rw [mergeText_text empty]
        exact textsApart_joinContent_text empty ih

/-- A text that was read character by character. -/
theorem mergeText_characters {value : Text} (some : value ≠ []) :
    mergeText (value.map fun c => .text [c]) = [.text value] := by
  induction value with
  | nil => exact absurd rfl some
  | cons c rest ih =>
    rw [List.map_cons, mergeText_text (by simp)]
    cases rest with
    | nil => rfl
    | cons d t => rw [ih (by simp)]; rfl

/-! ### Trees -/

namespace Node

mutual

/-- Trees are compared from the top. -/
def decideEq : (node other : Node) → Decidable (node = other)
  | .text value, .text value' => decidable_of_iff (value = value') (by simp)
  | .text _, .element _ _ _ => .isFalse nofun
  | .element _ _ _, .text _ => .isFalse nofun
  | .element tag attributes content, .element tag' attributes' content' =>
    have := decideEqAll content content'
    decidable_of_iff (tag = tag' ∧ attributes = attributes' ∧ content = content') (by simp)

/-- Rows of trees are compared one by one. -/
def decideEqAll : (nodes others : List Node) → Decidable (nodes = others)
  | [], [] => .isTrue rfl
  | [], _ :: _ => .isFalse nofun
  | _ :: _, [] => .isFalse nofun
  | node :: rest, other :: others =>
    have := decideEq node other
    have := decideEqAll rest others
    decidable_of_iff (node = other ∧ rest = others) (by simp)

end

instance : DecidableEq Node := decideEq

variable {p : Text → List Attribute → List Node → Bool}

mutual

/-- Whether all elements in a node satisfy `p`. -/
def everyElement (p : Text → List Attribute → List Node → Bool) : Node → Bool
  | .text _ => true
  | .element tag attributes content => p tag attributes content && everyElementIn p content

/-- Whether all elements in nodes satisfy `p`. -/
def everyElementIn (p : Text → List Attribute → List Node → Bool) : List Node → Bool
  | [] => true
  | node :: rest => node.everyElement p && everyElementIn p rest

end

/-- Whether texts are merged everywhere in a node. -/
def isNormal (node : Node) : Bool :=
  node.everyElement fun _ _ content => textsApart content

theorem everyElementIn_mergeText (nodes : List Node) :
    everyElementIn p (mergeText nodes) = everyElementIn p nodes := by
  induction nodes with
  | nil => rfl
  | cons node rest ih =>
    cases node with
    | element tag attributes content => rw [mergeText, everyElementIn, ih, everyElementIn]
    | text value =>
      by_cases empty : value = []
      · subst empty
        rw [everyElementIn, ← ih]
        rfl
      · rw [mergeText_text empty, everyElementIn, ← ih]
        cases mergeText rest with
        | nil => rfl
        | cons first others => cases first <;> rfl

end Node

theorem Frame.isNormal_holding {frame : Frame} {nodes : List Node}
    (normal : Node.everyElementIn (fun _ _ content => textsApart content) nodes = true) :
    (frame.holding nodes).isNormal = true := by
  simp only [holding, Node.isNormal, Node.everyElement, textsApart_mergeText,
    Node.everyElementIn_mergeText, normal, Bool.and_self]

/-- Every element that the reader makes is merged when it ends. -/
theorem Content.normal {scope : Scope} {tokens : List Token} {nodes : List Node}
    (made : Content scope tokens nodes) :
    Node.everyElementIn (fun _ _ content => textsApart content) nodes = true := by
  induction made with
  | nil => rfl
  | ignored _ ih => exact ih
  | character c _ ih => exact ih
  | cdata value _ ih => exact ih
  | empty opened _ ih =>
    rw [Node.everyElementIn, ih, Bool.and_true]
    exact Frame.isNormal_holding rfl
  | element opened _ _ ihBody ih =>
    rw [Node.everyElementIn, ih, Bool.and_true]
    exact Frame.isNormal_holding ihBody

end DocReport.Markup

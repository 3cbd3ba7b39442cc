import Mathlib.Data.List.Forall2
import DocReport.Markup.Reader
import DocReport.Proofs.Markup.Locality.Token

/-!
Trees up to the values of the attributes with one name. Rows of tokens that differ in such values
and in places only are built into trees that differ in such values only.
-/
namespace DocReport.Markup

/-- An attribute, without its value if it has the given name. -/
def Attribute.blank (name : Text) (a : Attribute) : Attribute :=
  if a.name = name then ⟨name, []⟩ else a

theorem Attribute.name_eq_of_blank {name : Text} {a b : Attribute}
    (same : a.blank name = b.blank name) : a.name = b.name := by
  have kept : ∀ c : Attribute, (c.blank name).name = c.name := by
    intro c
    unfold Attribute.blank
    split
    · rename_i named
      rw [named]
    · rfl
  rw [← kept a, same, kept b]

theorem Attribute.eq_of_blank {name : Text} {a b : Attribute} (other : a.name ≠ name)
    (same : a.blank name = b.blank name) : a = b := by
  have otherwise : b.name ≠ name := by
    rw [← Attribute.name_eq_of_blank same]
    exact other
  rwa [Attribute.blank, if_neg other, Attribute.blank, if_neg otherwise] at same

namespace Node

mutual

/-- A tree without the values of the attributes with the given name. -/
def blank (name : Text) : Node → Node
  | .text value => .text value
  | .element tag attributes content =>
    .element tag (attributes.map (Attribute.blank name)) (blankAll name content)

/-- Trees without the values of the attributes with the given name. -/
def blankAll (name : Text) : List Node → List Node
  | [] => []
  | node :: rest => node.blank name :: blankAll name rest

end

theorem blankAll_append (name : Text) (nodes others : List Node) :
    blankAll name (nodes ++ others) = blankAll name nodes ++ blankAll name others := by
  induction nodes with
  | nil => rfl
  | cons node rest ih => rw [List.cons_append, blankAll, blankAll, ih, List.cons_append]

theorem blankAll_reverse (name : Text) (nodes : List Node) :
    blankAll name nodes.reverse = (blankAll name nodes).reverse := by
  induction nodes with
  | nil => rfl
  | cons node rest ih =>
    rw [List.reverse_cons, blankAll_append, ih, blankAll, blankAll, blankAll, List.reverse_cons]

/-- Texts have no attributes, so they merge in the same way. -/
theorem blankAll_mergeText (name : Text) (nodes : List Node) :
    blankAll name (mergeText nodes) = mergeText (blankAll name nodes) := by
  induction nodes with
  | nil => rfl
  | cons node rest ih =>
    cases node with
    | element tag attributes content =>
      simp only [mergeText, blankAll, blank, ih]
    | text value =>
      simp only [blankAll, blank, mergeText, ← ih]
      cases value with
      | nil => rfl
      | cons c t =>
        cases mergeText rest with
        | nil => rfl
        | cons first others => cases first <;> rfl

end Node

/-! ### Attributes -/

section Attributes

variable {name : Text}

/-- Attributes that agree but for the value of one with the given name. -/
def RawAttribute.Agree (name : Text) (a b : RawAttribute) : Prop :=
  a.name = b.name ∧ ∀ here there value, expandValue here a.value = .ok value →
    ∃ other, expandValue there b.value = .ok other ∧ (a.name ≠ name → other = value)

/-- Places in a value matter for faults only. -/
theorem expandValue_placeless {here value : Text} {parts others : List ValuePart}
    (same : parts.map ValuePart.placeless = others.map ValuePart.placeless)
    (read : expandValue here parts = .ok value) (there : Text) :
    expandValue there others = .ok value := by
  induction parts generalizing others value with
  | nil =>
    obtain rfl : others = [] := by simpa using same.symm
    exact read
  | cons part parts ih =>
    cases others with
    | nil => cases same
    | cons first others =>
      obtain ⟨sameFirst, sameOthers⟩ := List.cons.inj same
      cases part with
      | character c =>
        cases first with
        | reference target place => cases sameFirst
        | character d =>
          cases sameFirst
          obtain ⟨inner, expanded, done⟩ := bind_ok read
          rw [expandValue, ih sameOthers expanded]
          exact done
      | reference target place =>
        cases first with
        | character d => cases sameFirst
        | reference target place =>
          cases sameFirst
          simp only [expandValue] at read ⊢
          split at read
          · cases read
          · cases read
          · obtain ⟨inner, expanded, done⟩ := bind_ok read
            rw [ih sameOthers expanded]
            exact done

theorem RawAttribute.agree_of_placeless {a b : RawAttribute} (same : a.placeless = b.placeless) :
    RawAttribute.Agree name a b := by
  simp only [RawAttribute.placeless, RawAttribute.mk.injEq, and_true] at same
  exact ⟨same.1, fun here there value read =>
    ⟨value, expandValue_placeless same.2 read there, fun _ => rfl⟩⟩

theorem agree_of_placeless_map {as bs : List RawAttribute}
    (same : as.map RawAttribute.placeless = bs.map RawAttribute.placeless) :
    List.Forall₂ (RawAttribute.Agree name) as bs := by
  induction as generalizing bs with
  | nil =>
    obtain rfl : bs = [] := by simpa using same.symm
    exact .nil
  | cons a as ih =>
    cases bs with
    | nil => cases same
    | cons b bs =>
      obtain ⟨first, others⟩ := List.cons.inj same
      exact .cons (RawAttribute.agree_of_placeless first) (ih others)

/-- An attribute that declares nothing may change its value: scope and names stay. -/
theorem declare_agree (plain : declaredLabel? name = none) {here : Text} {seen : List Text}
    {scope inner : Scope} {as bs : List RawAttribute} {attributes : List Attribute}
    (agree : List.Forall₂ (RawAttribute.Agree name) as bs)
    (read : declare here seen scope as = .ok (inner, attributes)) (there : Text) :
    ∃ others, declare there seen scope bs = .ok (inner, others) ∧
      others.map (Attribute.blank name) = attributes.map (Attribute.blank name) := by
  induction agree generalizing seen scope attributes with
  | nil =>
    cases read
    exact ⟨[], rfl, rfl⟩
  | @cons a b as bs first _ ih =>
    obtain ⟨named, expands⟩ := first
    simp only [declare] at read ⊢
    rw [← named]
    split at read
    · cases read
    · rename_i unseen
      rw [if_neg unseen]
      obtain ⟨value, expanded, read⟩ := bind_ok read
      obtain ⟨other, expanded, same⟩ := expands here there value expanded
      rw [expanded, ok_bind]
      cases label : declaredLabel? a.name with
      | some short =>
        have different : a.name ≠ name := by
          intro equal
          rw [equal, plain] at label
          cases label
        rw [label] at read
        rw [same different]
        simp only at read ⊢
        split at read
        · cases read
        · exact ih read
      | none =>
        rw [label] at read
        simp only at read ⊢
        obtain ⟨⟨scope, rest⟩, declared, done⟩ := bind_ok read
        simp only [Except.ok.injEq, Prod.mk.injEq] at done
        obtain ⟨rfl, rfl⟩ := done
        obtain ⟨others, again, blank⟩ := ih declared
        refine ⟨⟨a.name, other⟩ :: others, by rw [again]; rfl, ?_⟩
        rw [List.map_cons, List.map_cons, blank]
        by_cases equal : a.name = name
        · simp [Attribute.blank, equal]
        · rw [same equal]

theorem expandNames_agree (unqualified : (Text.cutFirst ':' name).2 = none) {here : Text}
    {scope : Scope} {seen : List Text} {as bs attributes : List Attribute}
    (same : bs.map (Attribute.blank name) = as.map (Attribute.blank name))
    (read : expandNames here scope seen as = .ok attributes) (there : Text) :
    ∃ others, expandNames there scope seen bs = .ok others ∧
      others.map (Attribute.blank name) = attributes.map (Attribute.blank name) := by
  induction as generalizing bs seen attributes with
  | nil =>
    cases read
    obtain rfl : bs = [] := by simpa using same
    exact ⟨[], rfl, rfl⟩
  | cons a as ih =>
    cases bs with
    | nil => cases same
    | cons b bs =>
      obtain ⟨first, rest⟩ := List.cons.inj same
      have named : b.name = a.name := Attribute.name_eq_of_blank first
      simp only [expandNames] at read ⊢
      rw [named]
      cases cut : Text.cutFirst ':' a.name with
      | mk label part =>
        rw [cut] at read
        cases part with
        | none =>
          simp only at read ⊢
          obtain ⟨inner, expanded, done⟩ := bind_ok read
          cases done
          obtain ⟨others, again, blank⟩ := ih rest expanded
          exact ⟨b :: others, by rw [again]; rfl, by rw [List.map_cons, List.map_cons, first, blank]⟩
        | some part =>
          have equal : b = a := by
            apply Attribute.eq_of_blank _ first
            rw [named]
            intro equal
            rw [← equal, cut] at unqualified
            cases unqualified
          simp only at read ⊢
          split at read
          · cases read
          · split at read
            · cases read
            · rename_i unseen
              rw [if_neg unseen]
              obtain ⟨inner, expanded, done⟩ := bind_ok read
              cases done
              obtain ⟨others, again, blank⟩ := ih rest expanded
              exact ⟨_ :: others, by rw [again]; rfl,
                by rw [List.map_cons, List.map_cons, equal, blank]⟩

theorem expandTag_there {here scope tag full} (read : expandTag here scope tag = .ok full)
    (there : Text) : expandTag there scope tag = .ok full := by
  unfold expandTag at read ⊢
  split at read
  · exact read
  · split at read
    · cases read
    · exact read

end Attributes

/-! ### Frames and rows -/

namespace Frame

variable {name : Text}

/-- A frame without the values of the attributes with the given name. -/
def blank (name : Text) (frame : Frame) : Frame :=
  { frame with
    attributes := frame.attributes.map (Attribute.blank name)
    content := Node.blankAll name frame.content }

theorem blank_add (frame : Frame) (node : Node) :
    (frame.add node).blank name = (frame.blank name).add (node.blank name) := rfl

theorem blank_close (frame : Frame) : frame.close.blank name = (frame.blank name).close := by
  rw [close, Node.blank, Node.blankAll_mergeText, Node.blankAll_reverse]
  rfl

theorem ofTag_agree (plain : declaredLabel? name = none)
    (unqualified : (Text.cutFirst ':' name).2 = none) {scope : Scope} {tag here : Text}
    {as bs : List RawAttribute} {frame : Frame}
    (agree : List.Forall₂ (RawAttribute.Agree name) as bs)
    (read : ofTag scope tag as here = .ok frame) (there : Text) :
    ∃ other, ofTag scope tag bs there = .ok other ∧ other.blank name = frame.blank name := by
  obtain ⟨⟨inner, attributes⟩, declared, read⟩ := bind_ok read
  obtain ⟨full, expanded, read⟩ := bind_ok read
  obtain ⟨label, tagged, done⟩ := bind_ok read
  cases done
  obtain ⟨attributes', declared', same⟩ := declare_agree plain agree declared there
  obtain ⟨full', expanded', same⟩ := expandNames_agree unqualified same expanded there
  refine ⟨{ written := tag, tag := label, attributes := full', scope := inner }, ?_, ?_⟩
  · rw [ofTag, declared', ok_bind]
    simp only [expanded', ok_bind, expandTag_there tagged there]
  · simp [blank, same]

end Frame

/-- Tokens that agree but for places and the values of attributes with the given name. An end tag
that can end the document agrees with such ones only. -/
inductive Token.Agree (name : Text) : Token → Token → Prop
  | character (c : Char) : Token.Agree name (.character c) (.character c)
  | cdata (value : Text) : Token.Agree name (.cdata value) (.cdata value)
  | ignored : Token.Agree name .ignored .ignored
  | broken (fault other : Fault) : Token.Agree name (.broken fault) (.broken other)
  | startTag {tag : Text} {closed : Bool} {as bs : List RawAttribute} (here there : Text)
      (agree : List.Forall₂ (RawAttribute.Agree name) as bs) :
      Token.Agree name (.startTag tag as closed here) (.startTag tag bs closed there)
  | endTag {tag rest other : Text} (here there : Text)
      (ends : epilogueFault? rest = none → epilogueFault? other = none) :
      Token.Agree name (.endTag tag here rest) (.endTag tag there other)

section Rows

variable {name : Text}

theorem Token.Agree.refl (token : Token) : Token.Agree name token token := by
  cases token with
  | character c => exact .character c
  | cdata value => exact .cdata value
  | startTag tag attributes closed here => exact .startTag here here (agree_of_placeless_map rfl)
  | endTag tag here rest => exact .endTag here here id
  | ignored => exact .ignored
  | broken fault => exact .broken fault fault

theorem Token.agree_of_placeless {token other : Token} (same : token.placeless = other.placeless)
    (inside : ∀ tag here rest, token = .endTag tag here rest → epilogueFault? rest ≠ none) :
    Token.Agree name token other := by
  cases token with
  | startTag tag attributes closed here =>
    cases other with
    | startTag tag' attributes' closed' here' =>
      simp only [Token.placeless, Token.startTag.injEq, and_true] at same
      obtain ⟨rfl, attributed, rfl⟩ := same
      exact .startTag here here' (agree_of_placeless_map attributed)
    | _ => cases same
  | endTag tag here rest =>
    cases other with
    | endTag tag' here' rest' =>
      cases same
      exact .endTag here here' fun none => absurd none (inside tag here rest rfl)
    | _ => cases same
  | broken fault =>
    cases other with
    | broken other => exact .broken fault other
    | _ => cases same
  | character c =>
    cases other with
    | character d =>
      cases same
      exact .character c
    | _ => cases same
  | cdata value =>
    cases other with
    | cdata value' =>
      cases same
      exact .cdata value
    | _ => cases same
  | ignored =>
    cases other with
    | ignored => exact .ignored
    | _ => cases same

theorem rows_agree_of_placeless {tokens others : List Token}
    (same : tokens.map Token.placeless = others.map Token.placeless)
    (inside : ∀ tag here rest, .endTag tag here rest ∈ tokens → epilogueFault? rest ≠ none) :
    List.Forall₂ (Token.Agree name) tokens others := by
  induction tokens generalizing others with
  | nil =>
    obtain rfl : others = [] := by simpa using same.symm
    exact .nil
  | cons token tokens ih =>
    cases others with
    | nil => cases same
    | cons other others =>
      obtain ⟨first, rest⟩ := List.cons.inj same
      refine .cons (Token.agree_of_placeless first ?_) (ih rest ?_)
      · rintro tag here rest rfl
        exact inside tag here rest List.mem_cons_self
      · intro tag here rest member
        exact inside tag here rest (List.mem_cons_of_mem _ member)

/-- Rows that agree are built into trees that agree. -/
theorem build_agree (plain : declaredLabel? name = none)
    (unqualified : (Text.cutFirst ':' name).2 = none) {tokens others : List Token}
    (agree : List.Forall₂ (Token.Agree name) tokens others) {frame frame' : Frame}
    {outer outer' : List Frame} (same : frame'.blank name = frame.blank name)
    (around : outer'.map (Frame.blank name) = outer.map (Frame.blank name)) {node : Node}
    (built : build frame outer tokens = .ok node) :
    ∃ node', build frame' outer' others = .ok node' ∧ node'.blank name = node.blank name := by
  induction agree generalizing frame frame' outer outer' with
  | nil => cases built
  | @cons token other tokens others first _ ih =>
    cases first with
    | character c =>
      refine ih ?_ around built
      rw [Frame.blank_add, Frame.blank_add, same]
    | cdata value =>
      refine ih ?_ around built
      rw [Frame.blank_add, Frame.blank_add, same]
    | ignored => exact ih same around built
    | broken fault other => cases built
    | @startTag tag closed as bs here there agree =>
      obtain ⟨inner, opened, built⟩ := bind_ok built
      have scope : frame'.scope = frame.scope := by
        simpa [Frame.blank] using congrArg Frame.scope same
      obtain ⟨inner', opened', sameInner⟩ := Frame.ofTag_agree plain unqualified agree opened there
      rw [build, scope, opened', ok_bind]
      cases closed with
      | true =>
        refine ih ?_ around built
        rw [Frame.blank_add, Frame.blank_add, Frame.blank_close, Frame.blank_close, same, sameInner]
      | false =>
        refine ih sameInner ?_ built
        rw [List.map_cons, List.map_cons, same, around]
    | @endTag tag rest other here there ends =>
      have written : frame'.written = frame.written := by
        simpa [Frame.blank] using congrArg Frame.written same
      simp only [build] at built ⊢
      rw [written]
      split at built
      · cases built
      · rename_i matched
        rw [if_neg matched]
        cases outer with
        | cons parent outer =>
          cases outer' with
          | nil => cases around
          | cons parent' outer' =>
            obtain ⟨sameParent, around⟩ := List.cons.inj around
            refine ih ?_ around built
            rw [Frame.blank_add, Frame.blank_add, Frame.blank_close, Frame.blank_close, same,
              sameParent]
        -- The root ends, and both rows have nothing but an epilogue behind it.
        | nil =>
          obtain rfl : outer' = [] := by simpa using around
          simp only at built ⊢
          split at built
          · cases built
          · rename_i none
            cases built
            rw [ends none]
            exact ⟨frame'.close, rfl, by rw [Frame.blank_close, Frame.blank_close, same]⟩

/-- What cannot be built cannot be built behind tokens that do not end the document. -/
theorem build_append_ne_ok {front tokens : List Token}
    (inside : ∀ tag here rest, .endTag tag here rest ∈ front → epilogueFault? rest ≠ none)
    (fails : ∀ frame outer node, build frame outer tokens ≠ .ok node) (frame : Frame)
    (outer : List Frame) (node : Node) : build frame outer (front ++ tokens) ≠ .ok node := by
  induction front generalizing frame outer with
  | nil => exact fails frame outer node
  | cons token front ih =>
    have ih := fun frame outer =>
      ih (fun tag here rest member => inside tag here rest (List.mem_cons_of_mem _ member)) frame outer
    intro built
    cases token with
    | character c => exact ih _ _ built
    | cdata value => exact ih _ _ built
    | ignored => exact ih _ _ built
    | broken fault => cases built
    | startTag tag attributes closed here =>
      obtain ⟨inner, opened, built⟩ := bind_ok built
      cases closed with
      | true => exact ih _ _ built
      | false => exact ih _ _ built
    | endTag tag here rest =>
      simp only [List.cons_append, build] at built
      split at built
      · cases built
      · cases outer with
        | cons parent outer => exact ih _ _ built
        | nil =>
          simp only at built
          split at built
          · cases built
          · rename_i none
            exact inside tag here rest List.mem_cons_self none

end Rows

end DocReport.Markup

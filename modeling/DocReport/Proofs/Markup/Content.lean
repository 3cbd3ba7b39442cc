import DocReport.Proofs.Markup.BlankValues

/-!
Content as a grammar. A row of tokens is the content of an element if every start tag in it is
followed by content of its own and the end tag that belongs to it. The reader, which keeps a stack
of open elements, passes over such rows whatever is open around them, and whatever it accepts is
content up to the end tag of the innermost open element. Rows one after the other make their nodes
one after the other.
-/
namespace DocReport.Markup

namespace Frame

/-- The element that a frame makes with the given content. -/
def holding (frame : Frame) (nodes : List Node) : Node :=
  .element frame.tag frame.attributes (mergeText nodes)

/-- Puts nodes behind the content so far. -/
def addAll (frame : Frame) (nodes : List Node) : Frame :=
  { frame with content := nodes.reverse ++ frame.content }

@[simp] theorem addAll_cons (frame : Frame) (node : Node) (nodes : List Node) :
    frame.addAll (node :: nodes) = (frame.add node).addAll nodes := by
  simp [addAll, add]

theorem ofTag_fresh {scope : Scope} {name here : Text} {raw : List RawAttribute} {frame : Frame}
    (opened : ofTag scope name raw here = .ok frame) :
    frame.written = name ∧ frame.content = [] := by
  obtain ⟨⟨inner, attributes⟩, _, opened⟩ := bind_ok opened
  obtain ⟨full, _, opened⟩ := bind_ok opened
  obtain ⟨tag, _, done⟩ := bind_ok opened
  cases done
  exact ⟨rfl, rfl⟩

theorem close_addAll {frame : Frame} (fresh : frame.content = []) (nodes : List Node) :
    (frame.addAll nodes).close = frame.holding nodes := by
  simp [close, holding, addAll, fresh]

end Frame

/-- What a row of tokens is as the content of an element with the given scope. Texts are as the
tokens give them, not yet merged. -/
inductive Content : Scope → List Token → List Node → Prop
  | nil (scope : Scope) : Content scope [] []
  | ignored {scope : Scope} {tokens : List Token} {nodes : List Node}
      (rest : Content scope tokens nodes) : Content scope (.ignored :: tokens) nodes
  | character (c : Char) {scope : Scope} {tokens : List Token} {nodes : List Node}
      (rest : Content scope tokens nodes) :
      Content scope (.character c :: tokens) (.text [c] :: nodes)
  | cdata (value : Text) {scope : Scope} {tokens : List Token} {nodes : List Node}
      (rest : Content scope tokens nodes) :
      Content scope (.cdata value :: tokens) (.text value :: nodes)
  | empty {scope : Scope} {name here : Text} {raw : List RawAttribute} {frame : Frame}
      {tokens : List Token} {nodes : List Node}
      (opened : Frame.ofTag scope name raw here = .ok frame) (rest : Content scope tokens nodes) :
      Content scope (.startTag name raw true here :: tokens) (frame.holding [] :: nodes)
  | element {scope : Scope} {name here place behind : Text} {raw : List RawAttribute}
      {frame : Frame} {body tokens : List Token} {inside nodes : List Node}
      (opened : Frame.ofTag scope name raw here = .ok frame)
      (content : Content frame.scope body inside) (rest : Content scope tokens nodes) :
      Content scope (.startTag name raw false here :: (body ++ .endTag name place behind :: tokens))
        (frame.holding inside :: nodes)

theorem Content.append {scope : Scope} {tokens others : List Token} {nodes more : List Node}
    (made : Content scope tokens nodes) (behind : Content scope others more) :
    Content scope (tokens ++ others) (nodes ++ more) := by
  induction made with
  | nil => exact behind
  | ignored _ ih => exact .ignored (ih behind)
  | character c _ ih => exact .character c (ih behind)
  | cdata value _ ih => exact .cdata value (ih behind)
  | empty opened _ ih => exact .empty opened (ih behind)
  | element opened content _ _ ih =>
    simp only [List.cons_append, List.append_assoc]
    exact .element opened content (ih behind)

/-! ### Content and the stack of open elements -/

theorem build_startTag {frame inner : Frame} {name here : Text} {raw : List RawAttribute}
    (opened : Frame.ofTag frame.scope name raw here = .ok inner) (closed : Bool)
    (outer : List Frame) (tokens : List Token) :
    build frame outer (.startTag name raw closed here :: tokens) =
      if closed then build (frame.add inner.close) outer tokens
      else build inner (frame :: outer) tokens := by
  rw [build, opened]
  rfl

theorem build_endTag {frame parent : Frame} {name : Text} (matched : frame.written = name)
    (outer : List Frame) (place behind : Text) (tokens : List Token) :
    build frame (parent :: outer) (.endTag name place behind :: tokens) =
      build (parent.add frame.close) outer tokens := by
  rw [build, if_neg (by simp [matched])]

/-- The reader passes over content and adds its nodes to the innermost open element. -/
theorem build_content {scope : Scope} {tokens : List Token} {nodes : List Node}
    (made : Content scope tokens nodes) (frame : Frame) (inside : frame.scope = scope)
    (outer : List Frame) (tail : List Token) :
    build frame outer (tokens ++ tail) = build (frame.addAll nodes) outer tail := by
  induction made generalizing frame outer tail with
  | nil => rfl
  | ignored _ ih => exact ih frame inside outer tail
  | character c _ ih =>
    rw [Frame.addAll_cons]
    exact ih (frame.add (.text [c])) inside outer tail
  | cdata value _ ih =>
    rw [Frame.addAll_cons]
    exact ih (frame.add (.text value)) inside outer tail
  | @empty scope name here raw inner tokens nodes opened _ ih =>
    subst inside
    have closes : inner.close = inner.holding [] :=
      Frame.close_addAll (Frame.ofTag_fresh opened).2 []
    rw [List.cons_append, build_startTag opened, if_pos rfl, Frame.addAll_cons, closes]
    exact ih (frame.add (inner.holding [])) rfl outer tail
  | @element scope name here place behind raw inner body tokens children nodes opened _ _ ihBody
      ih =>
    subst inside
    obtain ⟨written, fresh⟩ := Frame.ofTag_fresh opened
    simp only [List.cons_append, List.append_assoc]
    have matched : (inner.addAll children).written = name := written
    rw [build_startTag opened, if_neg (by simp), ihBody inner rfl, build_endTag matched,
      Frame.close_addAll fresh, Frame.addAll_cons]
    exact ih (frame.add (inner.holding children)) rfl outer tail

/-- Whatever the reader accepts is content up to the end tag of the innermost open element. -/
theorem content_of_build {frame : Frame} {outer : List Frame} {tokens : List Token} {node : Node}
    (built : build frame outer tokens = .ok node) :
    ∃ body nodes place behind tail, Content frame.scope body nodes ∧
      tokens = body ++ .endTag frame.written place behind :: tail := by
  -- An open element takes its content and its end tag first, and what follows is shorter.
  induction size : tokens.length using Nat.strongRecOn generalizing frame outer tokens with
  | ind n ih =>
    subst size
    cases tokens with
    | nil => cases built
    | cons token tokens =>
      have further : ∀ {frame outer}, build frame outer tokens = .ok node →
          ∃ body nodes place behind tail, Content frame.scope body nodes ∧
            tokens = body ++ .endTag frame.written place behind :: tail := fun built =>
        ih tokens.length (by simp) built rfl
      cases token with
      | broken fault => cases built
      | ignored =>
        obtain ⟨body, nodes, place, behind, tail, made, rfl⟩ := further built
        exact ⟨_, _, place, behind, tail, .ignored made, rfl⟩
      | character c =>
        obtain ⟨body, nodes, place, behind, tail, made, rfl⟩ := further built
        exact ⟨_, _, place, behind, tail, .character c made, rfl⟩
      | cdata value =>
        obtain ⟨body, nodes, place, behind, tail, made, rfl⟩ := further built
        exact ⟨_, _, place, behind, tail, .cdata value made, rfl⟩
      | startTag name raw closed here =>
        obtain ⟨inner, opened, built⟩ := bind_ok built
        cases closed with
        | true =>
          obtain ⟨body, nodes, place, behind, tail, made, rfl⟩ := further built
          exact ⟨_, _, place, behind, tail, .empty opened made, rfl⟩
        | false =>
          obtain ⟨written, fresh⟩ := Frame.ofTag_fresh opened
          simp only [Bool.false_eq_true, if_false] at built
          obtain ⟨body, inside, place, behind, tail, content, rfl⟩ := further built
          have matched : (inner.addAll inside).written = inner.written := rfl
          rw [build_content content inner rfl, build_endTag matched] at built
          obtain ⟨more, nodes, last, after, rest, made, rfl⟩ :=
            ih tail.length (by simp; omega) built rfl
          subst written
          refine ⟨.startTag inner.written raw false here ::
            (body ++ .endTag inner.written place behind :: more), _, last, after, rest,
            .element opened content made, ?_⟩
          simp [Frame.add]
      | endTag name place behind =>
        simp only [build] at built
        split at built
        · cases built
        · rename_i matched
          obtain rfl : name = frame.written := by simpa using matched
          exact ⟨[], [], place, behind, tokens, .nil _, rfl⟩

/-! ### Content without its places -/

theorem declare_placeless {here : Text} {seen : List Text} {scope : Scope}
    {as bs : List RawAttribute} {result : Scope × List Attribute}
    (same : as.map RawAttribute.placeless = bs.map RawAttribute.placeless)
    (read : declare here seen scope as = .ok result) (there : Text) :
    declare there seen scope bs = .ok result := by
  induction as generalizing bs seen scope result with
  | nil =>
    obtain rfl : bs = [] := by simpa using same.symm
    exact read
  | cons a as ih =>
    cases bs with
    | nil => cases same
    | cons b bs =>
      obtain ⟨first, others⟩ := List.cons.inj same
      simp only [RawAttribute.placeless, RawAttribute.mk.injEq, and_true] at first
      obtain ⟨named, values⟩ := first
      simp only [declare, ← named] at read ⊢
      split at read
      · cases read
      · rename_i unseen
        obtain ⟨value, expanded, read⟩ := bind_ok read
        rw [if_neg unseen, expandValue_placeless values expanded there, ok_bind]
        cases label : declaredLabel? a.name with
        | some short =>
          rw [label] at read
          simp only at read ⊢
          split at read
          · cases read
          · exact ih others read
        | none =>
          rw [label] at read
          obtain ⟨rest, declared, done⟩ := bind_ok read
          simp only [ih others declared, ok_bind]
          exact done

theorem expandNames_there {here : Text} {scope : Scope} {seen : List Text}
    {attributes full : List Attribute}
    (read : expandNames here scope seen attributes = .ok full) (there : Text) :
    expandNames there scope seen attributes = .ok full := by
  induction attributes generalizing seen full with
  | nil => exact read
  | cons first rest ih =>
    simp only [expandNames] at read ⊢
    split at read
    · obtain ⟨others, expanded, done⟩ := bind_ok read
      rw [ih expanded]
      exact done
    · split at read
      · cases read
      · split at read
        · cases read
        · rename_i unseen
          obtain ⟨others, expanded, done⟩ := bind_ok read
          rw [if_neg unseen, ih expanded]
          exact done

theorem Frame.ofTag_placeless {scope : Scope} {name here : Text} {as bs : List RawAttribute}
    {frame : Frame} (same : as.map RawAttribute.placeless = bs.map RawAttribute.placeless)
    (opened : ofTag scope name as here = .ok frame) (there : Text) :
    ofTag scope name bs there = .ok frame := by
  obtain ⟨⟨inner, attributes⟩, declared, opened⟩ := bind_ok opened
  obtain ⟨full, expanded, opened⟩ := bind_ok opened
  obtain ⟨tag, tagged, done⟩ := bind_ok opened
  rw [ofTag, declare_placeless same declared there, ok_bind]
  simp only [expandNames_there expanded there, expandTag_there tagged there, ok_bind]
  exact done

theorem Token.placeless_startTag {name here : Text} {raw : List RawAttribute} {closed : Bool}
    {token : Token} (same : (Token.startTag name raw closed here).placeless = token.placeless) :
    ∃ others there, token = .startTag name others closed there ∧
      raw.map RawAttribute.placeless = others.map RawAttribute.placeless := by
  cases token with
  | startTag name' others closed' there =>
    simp only [Token.placeless, Token.startTag.injEq, and_true] at same
    obtain ⟨rfl, attributed, rfl⟩ := same
    exact ⟨others, there, rfl, attributed⟩
  | _ => cases same

theorem Token.placeless_endTag {name place behind : Text} {token : Token}
    (same : (Token.endTag name place behind).placeless = token.placeless) :
    ∃ there after, token = .endTag name there after := by
  cases token with
  | endTag name' there after =>
    cases same
    exact ⟨there, after, rfl⟩
  | _ => cases same

/-- Places matter for faults only. -/
theorem Content.placeless {scope : Scope} {tokens others : List Token} {nodes : List Node}
    (made : Content scope tokens nodes)
    (same : tokens.map Token.placeless = others.map Token.placeless) :
    Content scope others nodes := by
  induction made generalizing others with
  | nil scope =>
    obtain rfl : others = [] := by simpa using same.symm
    exact .nil scope
  | ignored _ ih =>
    obtain ⟨other, others, rfl, first, rest⟩ := List.map_eq_cons_iff.1 same.symm
    cases other with
    | ignored => exact .ignored (ih rest.symm)
    | _ => cases first
  | character c _ ih =>
    obtain ⟨other, others, rfl, first, rest⟩ := List.map_eq_cons_iff.1 same.symm
    cases other with
    | character d =>
      cases first
      exact .character c (ih rest.symm)
    | _ => cases first
  | cdata value _ ih =>
    obtain ⟨other, others, rfl, first, rest⟩ := List.map_eq_cons_iff.1 same.symm
    cases other with
    | cdata value' =>
      cases first
      exact .cdata value (ih rest.symm)
    | _ => cases first
  | empty opened _ ih =>
    obtain ⟨other, others, rfl, first, rest⟩ := List.map_eq_cons_iff.1 same.symm
    obtain ⟨raw, there, rfl, attributed⟩ := Token.placeless_startTag first.symm
    exact .empty (Frame.ofTag_placeless attributed opened there) (ih rest.symm)
  | element opened _ _ ihBody ih =>
    obtain ⟨other, others, rfl, first, rest⟩ := List.map_eq_cons_iff.1 same.symm
    obtain ⟨raw, there, rfl, attributed⟩ := Token.placeless_startTag first.symm
    rw [List.map_append, List.map_cons] at rest
    obtain ⟨body, tail, rfl, sameBody, sameTail⟩ := List.map_eq_append_iff.1 rest
    obtain ⟨last, others, rfl, ends, sameOthers⟩ := List.map_eq_cons_iff.1 sameTail
    obtain ⟨place, behind, rfl⟩ := Token.placeless_endTag ends.symm
    exact .element (Frame.ofTag_placeless attributed opened there) (ihBody sameBody.symm)
      (ih sameOthers.symm)

end DocReport.Markup

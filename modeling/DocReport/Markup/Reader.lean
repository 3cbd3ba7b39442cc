import DocReport.Markup.Namespace
import DocReport.Markup.Epilogue

/-!
Reading a fragment of documentation markup into a tree. The fragment is read as the content of an
element of its own, so it may hold any number of elements and text at the top.
-/
namespace DocReport.Markup

/-- An element whose end tag is still to come; its content so far is in reverse. -/
structure Frame where
  written : Text
  tag : Text
  attributes : List Attribute
  scope : Scope
  content : List Node := []

/-- Joins neighbouring texts and leaves out empty ones. -/
def mergeText : List Node → List Node
  | [] => []
  | .element tag attributes content :: rest => .element tag attributes content :: mergeText rest
  | .text value :: rest =>
    match value, mergeText rest with
    | [], merged => merged
    | _, .text next :: merged => .text (value ++ next) :: merged
    | _, merged => .text value :: merged

namespace Frame

/-- Puts a node behind the content so far. -/
def add (frame : Frame) (node : Node) : Frame :=
  { frame with content := node :: frame.content }

/-- The element that a frame makes when it ends. -/
def close (frame : Frame) : Node :=
  .element frame.tag frame.attributes (mergeText frame.content.reverse)

/-- The frame that a start tag opens. -/
def ofTag (scope : Scope) (name : Text) (raw : List RawAttribute) (here : Text) :
    Except Fault Frame := do
  let (inner, attributes) ← declare here [] scope raw
  let attributes ← expandNames here inner [] attributes
  let tag ← expandTag here inner name
  .ok { written := name, tag, attributes, scope := inner }

end Frame

/-- Builds the tree of the innermost open element and those around it from the tokens that follow.
The outermost element ends the document but for an epilogue. -/
def build (frame : Frame) (outer : List Frame) : List Token → Except Fault Node
  | [] => .error ⟨.noElement, []⟩
  | .broken fault :: _ => .error fault
  | .ignored :: tokens => build frame outer tokens
  | .character c :: tokens => build (frame.add (.text [c])) outer tokens
  | .cdata value :: tokens => build (frame.add (.text value)) outer tokens
  | .startTag name attributes closed here :: tokens => do
    let inner ← Frame.ofTag frame.scope name attributes here
    if closed then build (frame.add inner.close) outer tokens
    else build inner (frame :: outer) tokens
  | .endTag name here rest :: tokens =>
    if name ≠ frame.written then .error ⟨.mismatchedTag, here⟩
    else
      match outer with
      | parent :: outer => build (parent.add frame.close) outer tokens
      | [] =>
        match epilogueFault? rest with
        | some fault => .error fault
        | none => .ok frame.close

/-- The tag of the element that a fragment is read into. -/
def rootTag : Text := "root".toList

/-- A fragment between the tags of its root. -/
def wrap (fragment : Text) : Text :=
  "<root>".toList ++ fragment ++ "</root>".toList

/-- The root frame of a fragment. -/
def rootFrame : Frame :=
  { written := rootTag, tag := rootTag, attributes := [], scope := .outermost }

/-- Reads a fragment. -/
def readFragment (fragment : Text) : Except Fault Node :=
  build rootFrame [] (scan (fragment ++ "</root>".toList))

/-- Reads a fragment; faults are worded, with positions in the wrapped fragment. -/
def parseFragment (fragment : Text) : Except Text Node :=
  match readFragment fragment with
  | .ok node => .ok node
  | .error fault => .error (fault.message (wrap fragment))

end DocReport.Markup

import DocReport.Text.Basic

/-!
Trees of documentation markup: text and elements, the latter with attributes and content.
-/
namespace DocReport.Markup

/-- An attribute with its value as it reads after references are expanded. -/
structure Attribute where
  name : Text
  value : Text
  deriving DecidableEq, Repr

/-- A node of a markup tree. -/
inductive Node where
  | text (value : Text)
  | element (tag : Text) (attributes : List Attribute) (content : List Node)
  deriving Repr, Inhabited

namespace Node

/-- The content of an element; text has none. -/
def content : Node → List Node
  | .text _ => []
  | .element _ _ content => content

/-- Whether a node is an element with the given tag. -/
def hasTag (tag : Text) : Node → Bool
  | .text _ => false
  | .element own _ _ => own == tag

/-- The value of an attribute, if the node has it. -/
def attribute? (name : Text) : Node → Option Text
  | .text _ => none
  | .element _ attributes _ => (attributes.find? (·.name == name)).map (·.value)

mutual

/-- All text in a node, in document order. -/
def flatten : Node → Text
  | .text value => value
  | .element _ _ content => flattenAll content

/-- All text in a list of nodes, in document order. -/
def flattenAll : List Node → Text
  | [] => []
  | node :: rest => node.flatten ++ flattenAll rest

end

/-- The child elements with the given tag. -/
def childrenNamed (tag : Text) (node : Node) : List Node :=
  node.content.filter (·.hasTag tag)

/-- The first child element with the given tag. -/
def childNamed? (tag : Text) (node : Node) : Option Node :=
  (node.childrenNamed tag).head?

end Node

end DocReport.Markup

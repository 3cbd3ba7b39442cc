import DocReport.Text.Basic

/-!
What can be wrong with a fragment, and where. A fault keeps the text that is left from the point
where it shows, so its position can be counted in any text that ends with it.
-/
namespace DocReport.Markup

/-- Why a fragment is not well-formed. -/
inductive Reason where
  | invalidToken | mismatchedTag | undefinedEntity | invalidCharacterNumber
  | duplicateAttribute | unboundPrefix | undeclaredPrefix
  | reservedXml | reservedXmlns | reservedName | badNamespaceName
  | unclosedToken | unclosedSection | misplacedDeclaration | junkAfterRoot | noElement
  deriving DecidableEq, Repr

/-- The wording of a reason. -/
def Reason.message : Reason → String
  | .invalidToken => "not well-formed (invalid token)"
  | .mismatchedTag => "mismatched tag"
  | .undefinedEntity => "undefined entity"
  | .invalidCharacterNumber => "reference to invalid character number"
  | .duplicateAttribute => "duplicate attribute"
  | .unboundPrefix => "unbound prefix"
  | .undeclaredPrefix => "must not undeclare prefix"
  | .reservedXml =>
    "reserved prefix (xml) must not be undeclared or bound to another namespace name"
  | .reservedXmlns => "reserved prefix (xmlns) must not be declared or undeclared"
  | .reservedName => "prefix must not be bound to one of the reserved namespace names"
  | .badNamespaceName => "syntax error"
  | .unclosedToken => "unclosed token"
  | .unclosedSection => "unclosed CDATA section"
  | .misplacedDeclaration => "XML or text declaration not at start of entity"
  | .junkAfterRoot => "junk after document element"
  | .noElement => "no element found"

/-- A fault with the text that is left where it shows. -/
structure Fault where
  reason : Reason
  rest : Text
  deriving DecidableEq, Repr

/-- A place in a text: lines count from one, columns from zero. -/
structure Position where
  line : Nat := 1
  column : Nat := 0
  deriving DecidableEq, Repr

namespace Position

/-- The position behind a text that starts at `p`. A line feed, a carriage return, or both in that
order end a line. -/
def advance : Position → Text → Position
  | p, [] => p
  | p, '\r' :: '\n' :: r => advance ⟨p.line + 1, 0⟩ r
  | p, c :: r =>
    if c = '\n' ∨ c = '\r' then advance ⟨p.line + 1, 0⟩ r
    else advance ⟨p.line, p.column + 1⟩ r

/-- The position at which `rest` begins in `whole`. -/
def ofRest (whole rest : Text) : Position :=
  advance {} (whole.take (whole.length - rest.length))

end Position

/-- A fault in words, for the text in which it was found. -/
def Fault.message (whole : Text) (fault : Fault) : Text :=
  let p := Position.ofRest whole fault.rest
  fault.reason.message.toList ++ ": line ".toList ++ Text.ofNat p.line ++
    ", column ".toList ++ Text.ofNat p.column

end DocReport.Markup

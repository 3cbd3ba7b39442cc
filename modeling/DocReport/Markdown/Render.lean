import DocReport.Markdown.Paragraph
import DocReport.Markdown.Piece
import DocReport.Markup.Node
import DocReport.Symbol.Marker

/-!
Markup trees as Markdown. Code becomes inline code or a fenced block, references become inline
code, links or keywords, and any other element shows its content only, so that no text is lost.
-/
namespace DocReport.Markdown

open Markup

/-- How markup is rendered. -/
structure Options where
  codeLanguage : Text := "csharp".toList
  preserveParagraphs : Bool := false
  inlineSpacing : Bool := false
  deriving DecidableEq, Repr

/-- What an element stands for, by its tag in any case. -/
inductive Role where
  | code | inlineCode | reference | wrapper
  deriving DecidableEq, Repr

/-- The role of a tag. -/
def Role.ofTag (tag : Text) : Role :=
  let name := Text.lowerAscii tag
  if name = "code".toList then .code
  else if name = "c".toList then .inlineCode
  else if name = "see".toList then .reference
  else .wrapper

/-- Three backticks open and close a fenced block. -/
def fence : Text :=
  "```".toList

/-- Text between single backticks. -/
def quoted (t : Text) : Text :=
  ['\x60'] ++ t ++ ['\x60']

/-- One paragraph in normal form; with inline spacing one space stays at its edges. -/
def normalizeParagraph (options : Options) (t : Text) : Text :=
  if options.inlineSpacing then collapse t else Text.trim (collapse t)

/-- The text of a text node in normal form. Carriage returns vanish. -/
def normalize (options : Options) (value : Text) : Text :=
  let t := value.filter (· != '\r')
  let parts := if options.preserveParagraphs then paragraphs t else [t]
  Text.join ['\n', '\n'] (parts.map (normalizeParagraph options))

/-- The code in an element: its text with line ends unified, trimmed. -/
def codeText (content : List Node) : Text :=
  Text.trim (Text.replace ['\r', '\n'] ['\n'] (Node.flattenAll content))

/-- Code on one line stays inline, longer code is fenced. -/
def codePiece (options : Options) (content : List Node) : Piece :=
  let code := codeText content
  if '\n' ∈ code ∨ '\r' ∈ code then
    .block (fence ++ options.codeLanguage ++ ['\n'] ++ code ++ ['\n'] ++ fence)
  else .inline (quoted code)

/-- The trimmed value of an attribute, empty if it is missing. -/
def attributeText (name : Text) (attributes : List Attribute) : Text :=
  Text.trim (((attributes.find? (·.name == name)).map (·.value)).getD [])

/-- A reference to a symbol, else a link, else a keyword, else its text. -/
def referenceText (attributes : List Attribute) (content : List Node) : Text :=
  let symbol := attributeText "cref".toList attributes
  let link := attributeText "href".toList attributes
  let keyword := attributeText "langword".toList attributes
  let label := Text.trim (Node.flattenAll content)
  if !symbol.isEmpty then quoted (Symbol.withoutMarkers symbol)
  else if !link.isEmpty then ['['] ++ label ++ "](".toList ++ link ++ [')']
  else if !keyword.isEmpty then quoted keyword
  else label

/-- Content that starts or ends with a fence stands apart, other content is inline. -/
def nestedPiece (rendered : Text) : Piece :=
  if fence.isPrefixOf rendered || fence.isSuffixOf rendered then .block rendered
  else .inline rendered

mutual

/-- A node as a piece of Markdown. -/
def piece (options : Options) : Node → Piece
  | .text value => .inline (normalize options value)
  | .element tag attributes content =>
    match Role.ofTag tag with
    | .code => codePiece options content
    | .inlineCode => .inline (quoted (Text.trim (Node.flattenAll content)))
    | .reference => .inline (referenceText attributes content)
    | .wrapper => nestedPiece (assemble (pieces options content))

/-- Nodes as pieces of Markdown. -/
def pieces (options : Options) : List Node → List Piece
  | [] => []
  | node :: rest => piece options node :: pieces options rest

end

/-- The content of an element as Markdown. -/
def render (options : Options) (node : Node) : Text :=
  assemble (pieces options node.content)

end DocReport.Markdown

import DocReport.Source.Token
import DocReport.Text.Dedent

/-!
Documentation comments: line comments with three slashes and block comments with two asterisks,
cleared of their marks and of common indentation.
-/
namespace DocReport.Source

/-- Whether a text starts with another. -/
def hasStart (start t : Text) : Bool :=
  start.isPrefixOf t

/-- A line of a block comment without its leading asterisk. Only a line with one loses its
indentation. -/
def blockLine (line : Text) : Text :=
  match Text.trimStart line with
  | '*' :: r => r
  | _ => line

/-- The lines of a block comment, given without its opening. -/
def blockLines (t : Text) : List Text :=
  let inner := if "*/".toList.isSuffixOf t then t.take (t.length - 2) else t
  (Text.lines (inner.filter (· != '\r'))).map blockLine

/-- The lines of a documentation comment; none if a comment is no documentation. -/
def documentationLines? (comment : Text) : Option (List Text) :=
  let t := Text.dropTail (· == '\r') comment
  if hasStart "///".toList t && !hasStart "////".toList t then some [t.drop 3]
  else if hasStart "/**".toList t && !hasStart "/**/".toList t then some (blockLines (t.drop 3))
  else none

/-- The documentation in a run of comments, if any of them is documentation. -/
def documentation? (comments : List Text) : Option Text :=
  match comments.filterMap documentationLines? with
  | [] => none
  | parts => some (Text.trim (Text.dedent (Text.unlines parts.flatten)))

/-- The comments before a token, back to the last directive. -/
def commentsBefore (lead : List Lexeme) : List Text :=
  ((lead.reverse.takeWhile (·.form != .directive)).reverse.filter (·.form == .comment)).map (·.text)

/-- The documentation of what begins with a token. -/
def Token.documentation? (t : Token) : Option Text :=
  Source.documentation? (commentsBefore t.lead)

end DocReport.Source

import DocReport.Text.Basic

/-!
Pieces of Markdown and how they are put together: inline pieces follow one another directly, a
block stands apart from what surrounds it by an empty line.
-/
namespace DocReport.Markdown

/-- A piece of Markdown. -/
inductive Piece where
  | inline (value : Text)
  | block (value : Text)
  deriving DecidableEq, Repr

/-- Adds an inline piece; at the start of a line its leading spaces go. -/
def appendInline (out piece : Text) : Text :=
  if out.getLast? = some '\n' then out ++ piece.dropWhile (· == ' ') else out ++ piece

/-- Adds a block: trailing spaces go, and an empty line separates it from what stands before and
after. -/
def appendBlock (out block : Text) : Text :=
  let trimmed := Text.dropTail (· == ' ') out
  let before := if trimmed.isEmpty then [] else Text.dropTail (· == '\n') trimmed ++ ['\n', '\n']
  before ++ block ++ ['\n', '\n']

/-- Adds a piece. -/
def append (out : Text) : Piece → Text
  | .inline value => appendInline out value
  | .block value => appendBlock out value

/-- Puts pieces together and drops white space at both ends. -/
def assemble (pieces : List Piece) : Text :=
  Text.trim (pieces.foldl append [])

end DocReport.Markdown

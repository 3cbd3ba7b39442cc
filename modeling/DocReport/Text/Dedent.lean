import DocReport.Text.Basic

/-!
Removal of the indentation that all lines share. Only spaces and tabs indent; a line of nothing
else becomes empty and does not count for the margin.
-/
namespace DocReport.Text

/-- Spaces and tabs indent a line. -/
def isIndent (c : Char) : Bool :=
  c == ' ' || c == '\t'

/-- A line of spaces and tabs only is cleared. -/
def clearBlankLine (line : Text) : Text :=
  if line.all isIndent then [] else line

/-- The indentation of each line that has any other character. -/
def indents (lines : List Text) : List Text :=
  (lines.filter (!·.isEmpty)).map fun line => line.takeWhile isIndent

/-- The longest indentation that all lines share. -/
def margin (lines : List Text) : Text :=
  match indents lines with
  | [] => []
  | first :: rest => rest.foldl commonStart first

/-- Removes the common indentation of all lines. -/
def dedent (t : Text) : Text :=
  let cleared := (lines t).map clearBlankLine
  let width := (margin cleared).length
  unlines (cleared.map fun line => line.drop width)

end DocReport.Text

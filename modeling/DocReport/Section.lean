import DocReport.Logging.Record
import DocReport.Markdown.Render
import DocReport.Symbol.Declaration

/-!
Sections of the report: the documentation of one member as Markdown, with its summary, parameter
table and return value.
-/
namespace DocReport

/-- A row of the parameter table. -/
structure ParameterRow where
  name : Text
  description : Text
  deriving DecidableEq, Repr

/-- The documentation of one member. -/
structure Section where
  signature : Text
  summary : Option Text := none
  parameters : List ParameterRow := []
  returns : Option Text := none
  deriving DecidableEq, Repr

/-- The line that ends a section. -/
def separator : Text :=
  "---".toList

namespace Section

/-- A row in Markdown. -/
def rowLine (row : ParameterRow) : Text :=
  "| `".toList ++ row.name ++ "` | ".toList ++ row.description ++ " |".toList

/-- The parameter table, if there are rows. -/
def parameterLines (rows : List ParameterRow) : List Text :=
  if rows.isEmpty then []
  else
    ["### Parameters".toList, "| Name | Description |".toList, "|------|-------------|".toList] ++
      rows.map rowLine ++ [[]]

/-- The lines of a section. -/
def lines (s : Section) : List Text :=
  ["## `".toList ++ s.signature ++ "`".toList, []] ++
    (match s.summary with
      | some summary => [summary, []]
      | none => []) ++
    parameterLines s.parameters ++
    (match s.returns with
      | some returns => ["### Returns".toList, returns, []]
      | none => []) ++
    [separator]

/-- A section in Markdown. -/
def toMarkdown (s : Section) : Text :=
  Text.unlines s.lines ++ ['\n']

end Section

end DocReport

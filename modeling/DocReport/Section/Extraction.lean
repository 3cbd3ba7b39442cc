import DocReport.Compilation.Member
import DocReport.Markup.Reader
import DocReport.Section

/-!
Sections from members. Documentation that is no well-formed markup is reported, and gives no
section.
-/
namespace DocReport.Section

open Markup Markdown

/-- Table cells have no paragraphs. -/
def cellOptions (options : Options) : Options :=
  { options with preserveParagraphs := false }

/-- The row for a `param` element. -/
def rowOf (options : Options) (node : Node) : ParameterRow :=
  { name := ((node.attribute? "name".toList).map Text.trim).getD "N/A".toList
    description := render (cellOptions options) node }

/-- The section that a documentation tree makes under a signature. -/
def ofTree (options : Options) (signature : Text) (root : Node) : Section :=
  { signature
    summary := (root.childNamed? "summary".toList).map (render options)
    parameters := (root.childrenNamed "param".toList).map (rowOf options)
    returns := (root.childNamed? "returns".toList).map (render options) }

/-- Reports documentation that cannot be read. -/
def reportFault (member : Member) (message : Text) : Logged Unit := do
  Logged.say .warning .sections
    ("Could not parse XML documentation for member '".toList ++ member.name ++
      "'. Error: ".toList ++ message)
  Logged.say .warning .sections ("XML Content: ".toList ++ member.documentation)

/-- The section of a member, if it is documented and its documentation can be read. -/
def ofMember? (options : Options) (member : Member) : Logged (Option Section) :=
  if member.documentation.isEmpty then pure none
  else
    match parseFragment member.documentation with
    | .ok root => pure (some (ofTree options member.signature root))
    | .error message => do
      reportFault member message
      pure none

end DocReport.Section

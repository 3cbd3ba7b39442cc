import DocReport.Proofs.Report.Outline

/-!
A report written out. Below the header every file has its heading, and under it a section for each
documented declaration that declares a member and whose documentation, with its references bound, is
not empty and well formed. A section shows the signature, the summary, a table of the parameters and
the result.
-/
namespace DocReport.Report

open Files Compilation
open Markup (Node)

/-- The documentation of a declaration with its references bound. -/
def boundDocumentation (index : Index) (d : Declaration) : Text :=
  (bindFragment index d (d.documentation.getD [])).value

/-- Whether the bound documentation of a declaration is not empty and well formed. -/
def isReadable (index : Index) (d : Declaration) : Bool :=
  !(boundDocumentation index d).isEmpty && (Markup.parseFragment (boundDocumentation index d)).isOk

/-- A row of the parameter table. -/
def parameterText (options : Markdown.Options) (node : Node) : Text :=
  "| `".toList ++ ((node.attribute? "name".toList).map Text.trim).getD "N/A".toList ++
    "` | ".toList ++ Markdown.render { options with preserveParagraphs := false } node ++
    " |\n".toList

/-- The parameter table, if there are parameters. -/
def parametersText (options : Markdown.Options) : List Node → Text
  | [] => []
  | nodes =>
    "### Parameters\n| Name | Description |\n|------|-------------|\n".toList ++
      nodes.flatMap (parameterText options) ++ ['\n']

/-- What a section shows below the signature. -/
def bodyText (options : Markdown.Options) (root : Node) : Text :=
  (match root.childNamed? "summary".toList with
    | some node => Markdown.render options node ++ "\n\n".toList
    | none => []) ++
  parametersText options (root.childrenNamed "param".toList) ++
  (match root.childNamed? "returns".toList with
    | some node => "### Returns\n".toList ++ Markdown.render options node ++ "\n\n".toList
    | none => [])

/-- The section of a declaration whose documentation is readable. -/
def sectionText (options : Markdown.Options) (index : Index) (d : Declaration) : Text :=
  "## `".toList ++ Symbol.signature d ++ "`\n\n".toList ++
    (match Markup.parseFragment (boundDocumentation index d) with
      | .ok root => bodyText options root
      | .error _ => []) ++
    "---\n\n".toList

/-- A file with its heading and its sections, or the line that says that nothing in it is
documented. -/
def fileLayout (fs : FileSystem) (setup : Setup) (index : Index) (file : SourceFile) : Text :=
  "# File: `".toList ++ headingPath fs setup.root file.path ++ "`\n\n".toList ++
    if file.documented.isEmpty then "_No XML comments found in this file._\n\n---\n\n".toList
    else ((file.documented.filter (·.kind != .namespaceKind)).filter (isReadable index)).flatMap
      (sectionText setup.options index)

/-- The header of a report. -/
def headerLayout (setup : Setup) : Text :=
  "# ".toList ++ setup.title ++ "\n_Generated on ".toList ++ setup.moment.toText ++
    " UTC_\n\n".toList

theorem linesText_cons (line : Text) (lines : List Text) :
    linesText (line :: lines) = line ++ '\n' :: linesText lines :=
  List.append_assoc _ _ _

theorem headerText_eq_layout (setup : Setup) : headerText setup = headerLayout setup := by
  change _ = "# ".toList ++ setup.title ++ "\n_Generated on ".toList ++ setup.moment.toText ++
    " UTC_\n\n".toList
  simp only [headerText, headerLines, linesText_cons, List.append_assoc]
  rfl

theorem linesText_parameterLines (options : Markdown.Options) (nodes : List Node) :
    linesText (Section.parameterLines (nodes.map (Section.rowOf options))) =
      parametersText options nodes := by
  have row (node : Node) : Section.rowLine (Section.rowOf options node) ++ ['\n'] =
      parameterText options node := List.append_assoc _ _ _
  have rows : linesText ((nodes.map (Section.rowOf options)).map Section.rowLine) =
      nodes.flatMap (parameterText options) := by
    rw [linesText, List.map_map, List.flatMap_map]
    exact congrArg (nodes.flatMap ·) (funext row)
  cases nodes with
  | nil => rfl
  | cons node rest =>
    rw [Section.parameterLines, if_neg (by simp), linesText_append, linesText_append, rows]
    rfl

theorem text_member (s : Section) : Entry.text (.member s) = linesText s.lines ++ ['\n'] := by
  have some : s.lines ≠ [] := List.append_ne_nil_of_right_ne_nil _ (List.cons_ne_nil _ _)
  rw [Entry.text, Entry.lines, linesText_cons, Section.toMarkdown, unlines_append_end some]
  rfl

/-- The section of a documentation tree as it stands in the report. -/
theorem text_member_ofTree (options : Markdown.Options) (signature : Text) (root : Node) :
    Entry.text (.member (Section.ofTree options signature root)) =
      "## `".toList ++ signature ++ "`\n\n".toList ++ bodyText options root ++
        "---\n\n".toList := by
  have heading : linesText ["## `".toList ++ signature ++ "`".toList, []] =
      "## `".toList ++ signature ++ "`\n\n".toList := by
    rw [linesText_cons, List.append_assoc _ _ ('\n' :: _)]
    rfl
  have table := linesText_parameterLines options (root.childrenNamed "param".toList)
  rw [text_member, Section.lines, linesText_append, linesText_append, linesText_append,
    linesText_append, Section.ofTree]
  dsimp only
  rw [heading, table, bodyText]
  cases root.childNamed? "summary".toList <;> cases root.childNamed? "returns".toList <;>
    simp only [Option.map_none, Option.map_some, linesText_cons, List.append_assoc,
      List.cons_append] <;> rfl

/-- A member has a section exactly if its documentation is not empty and well formed. -/
theorem value_ofMember? (options : Markdown.Options) (member : Member) :
    (Section.ofMember? options member).value =
      if member.documentation.isEmpty then none
      else (Markup.parseFragment member.documentation).toOption.map
        (Section.ofTree options member.signature) := by
  unfold Section.ofMember?
  split
  · rfl
  · cases Markup.parseFragment member.documentation <;> rfl

section Layout

variable (fs : FileSystem) (setup : Setup) (index : Index)

theorem entriesText_memberEntries (d : Declaration) :
    entriesText (memberEntries index setup.options d) =
      if d.kind != .namespaceKind && isReadable index d then sectionText setup.options index d
      else [] := by
  unfold memberEntries section? isReadable sectionText
  rw [Logged.value_bind, value_member?, ← boundDocumentation]
  by_cases space : d.kind = .namespaceKind
  · simp [space, entriesText]
  · rw [if_neg space]
    dsimp only
    rw [value_ofMember?]
    dsimp only
    cases bare : (boundDocumentation index d).isEmpty with
    | true => simp [entriesText]
    | false =>
      cases Markup.parseFragment (boundDocumentation index d) with
      | error message => simp [entriesText, Except.isOk, Except.toBool, Except.toOption]
      | ok root =>
        have shown := text_member_ofTree setup.options (Symbol.signature d) root
        simp [entriesText, Except.isOk, Except.toBool, Except.toOption, space, shown]

theorem entriesText_documented (ds : List Declaration) :
    entriesText (ds.flatMap (memberEntries index setup.options)) =
      ((ds.filter (·.kind != .namespaceKind)).filter (isReadable index)).flatMap
        (sectionText setup.options index) := by
  induction ds with
  | nil => rfl
  | cons d rest ih =>
    rw [List.flatMap_cons, entriesText_append, entriesText_memberEntries, ih]
    cases member : d.kind != .namespaceKind <;> cases readable : isReadable index d <;>
      simp [member, readable]

theorem text_heading (path : Text) :
    Entry.text (.heading path) = "# File: `".toList ++ path ++ "`\n\n".toList := by
  simp only [Entry.text, Entry.lines, linesText_cons, List.append_assoc]
  rfl

theorem entriesText_fileEntries (file : SourceFile) :
    entriesText (fileEntries fs setup index file) = fileLayout fs setup index file := by
  unfold fileEntries fileLayout
  rw [entriesText, List.flatMap_cons, text_heading]
  refine congrArg _ ?_
  split
  · rfl
  · exact entriesText_documented setup index file.documented

/-- A report is its header and, behind it, its files in order. -/
theorem assemble_eq_layout (files : List SourceFile) :
    (assemble fs setup files).value =
      headerLayout setup ++ files.flatMap (fileLayout fs setup (Index.ofFiles files)) := by
  rw [assemble_value, headerText_eq_layout, outline, entriesText, List.flatMap_assoc]
  congr 2
  exact funext fun file => entriesText_fileEntries fs setup (Index.ofFiles files) file

end Layout

end DocReport.Report

import DocReport.Proofs.Markdown.OneLine
import DocReport.Proofs.Markup.Merging
import DocReport.Proofs.Text.Cut
import DocReport.Section.Extraction

/-!
The parameter table of a section. Its rows are the `param` elements in their order, and a row is one
line of the table as long as neither its name nor its description has a line break. Descriptions
are rendered without paragraphs, which keeps running text on one line, but code of several lines and
other text that is shown as written break the row.
-/
namespace DocReport.Section

open Markup Markdown

theorem parameters_ofMember? {options : Options} {member : Member} {root : Node}
    (documented : member.documentation ≠ [])
    (read : parseFragment member.documentation = .ok root) :
    (ofMember? options member).value = some (ofTree options member.signature root) := by
  unfold ofMember?
  rw [if_neg (by simpa using documented), read]
  rfl

theorem lineFeed_mem_rowLine (row : ParameterRow) :
    '\n' ∈ rowLine row ↔ '\n' ∈ row.name ∨ '\n' ∈ row.description := by
  have opening : '\n' ∉ "| `".toList := by decide
  have middle : '\n' ∉ "` | ".toList := by decide
  have closing : '\n' ∉ " |".toList := by decide
  unfold rowLine
  rw [List.mem_append, List.mem_append, List.mem_append, List.mem_append]
  constructor
  · rintro ((((mark | name) | mark) | description) | mark)
    · exact absurd mark opening
    · exact Or.inl name
    · exact absurd mark middle
    · exact Or.inr description
    · exact absurd mark closing
  · rintro (name | description)
    · exact Or.inl (Or.inl (Or.inl (Or.inr name)))
    · exact Or.inl (Or.inr description)

/-- The lines above the rows of the table. -/
def tableHead : List Text :=
  ["### Parameters".toList, "| Name | Description |".toList, "|------|-------------|".toList]

theorem parameterLines_eq {rows : List ParameterRow} (some : rows ≠ []) :
    parameterLines rows = tableHead ++ rows.map rowLine ++ [[]] := by
  rw [parameterLines, if_neg (by simpa using some), tableHead]

/-- The table has one line for each row exactly if no cell holds a line end. -/
theorem lines_parameterLines_iff {rows : List ParameterRow} (some : rows ≠ []) :
    Text.lines (Text.unlines (parameterLines rows)) = tableHead ++ rows.map rowLine ++ [[]] ↔
      ∀ row ∈ rows, '\n' ∉ row.name ∧ '\n' ∉ row.description := by
  have clear : tableHead.all (fun line => line.all (· != '\n')) = true := by decide
  have head : ∀ line ∈ tableHead, '\n' ∉ line := by
    intro line member feed
    have kept := List.all_eq_true.1 (List.all_eq_true.1 clear line member) '\n' feed
    exact absurd kept (by decide)
  rw [parameterLines_eq some,
    Text.lines_unlines_iff (List.append_ne_nil_of_right_ne_nil _ (List.cons_ne_nil _ _))]
  constructor
  · intro whole row member
    have listed : rowLine row ∈ tableHead ++ rows.map rowLine ++ [[]] :=
      List.mem_append_left _ (List.mem_append_right _ (List.mem_map_of_mem member))
    have own := whole _ listed
    rw [lineFeed_mem_rowLine, not_or] at own
    exact own
  · intro cells line listed
    rcases List.mem_append.1 listed with above | last
    · rcases List.mem_append.1 above with first | own
      · exact head line first
      · obtain ⟨row, member, rfl⟩ := List.mem_map.1 own
        rw [lineFeed_mem_rowLine, not_or]
        exact cells row member
    · rw [List.mem_singleton.1 last]
      exact List.not_mem_nil

/-- The rows of the table are the `param` elements in their order. A description has no line break
exactly if the content of its element fits on a line, and the table has one line for each element
exactly if no name and no description brings a line end with it. -/
theorem table_cells_on_one_line_iff (options : Options) (member : Member) (root : Node)
    (documented : member.documentation ≠ [])
    (read : parseFragment member.documentation = .ok root) :
    ∃ s, (ofMember? options member).value = some s ∧
      s.parameters = (root.childrenNamed "param".toList).map (rowOf options) ∧
      (∀ param ∈ root.childrenNamed "param".toList,
        onOneLine (rowOf options param).description =
          contentFitsLine (cellOptions options) param.content) ∧
      (s.parameters ≠ [] →
        (Text.lines (Text.unlines (parameterLines s.parameters)) =
            tableHead ++ s.parameters.map rowLine ++ [[]] ↔
          ∀ row ∈ s.parameters, '\n' ∉ row.name ∧ '\n' ∉ row.description)) := by
  refine ⟨ofTree options member.signature root, parameters_ofMember? documented read, rfl, ?_,
    lines_parameterLines_iff⟩
  intro param _
  exact onOneLine_render rfl param

/-- Parameters of which one is described in two paragraphs and one by two lines of code. -/
def orderedFragment : Text :=
  "<param name=\"a\">First.\n\nSecond.</param><param name=\"b\">Or <c>one\ntwo</c>.</param>".toList

def orderedMember : Member :=
  { name := "Order".toList, kind := .method, signature := "Shop.Order(int, int)".toList
    documentationId := "M:Shop.Order(System.Int32,System.Int32)".toList
    documentation := orderedFragment }

def orderedTree : Node :=
  .element rootTag []
    [.element "param".toList [⟨"name".toList, ['a']⟩] [.text "First.\n\nSecond.".toList],
     .element "param".toList [⟨"name".toList, ['b']⟩]
       [.text "Or ".toList, .element ['c'] [] [.text "one\ntwo".toList], .text ['.']]]

theorem table_cells_on_one_line_iff_paragraphs :
    ∃ s, (ofMember? { preserveParagraphs := true } orderedMember).value = some s ∧
      s.parameters = (orderedTree.childrenNamed "param".toList).map
        (rowOf { preserveParagraphs := true }) ∧
      (∀ param ∈ orderedTree.childrenNamed "param".toList,
        onOneLine (rowOf { preserveParagraphs := true } param).description =
          contentFitsLine (cellOptions { preserveParagraphs := true }) param.content) ∧
      (orderedTree.childrenNamed "param".toList).map (fun param =>
        contentFitsLine (cellOptions { preserveParagraphs := true }) param.content) =
          [true, false] := by
  obtain ⟨s, own, rows, cells, _⟩ := table_cells_on_one_line_iff { preserveParagraphs := true }
    orderedMember orderedTree (by decide) (by decide +kernel)
  exact ⟨s, own, rows, cells, by decide +kernel⟩

/-- Inline code with a line break in it breaks its row: with two parameters the table has seven
lines, not six. -/
theorem table_row_broken_by_code :
    ((ofMember? {} orderedMember).value.map fun s =>
      s.parameters.map fun row => (row.name, row.description)) =
        some [(['a'], "First. Second.".toList), (['b'], "Or`one\ntwo`.".toList)] ∧
    ((ofMember? {} orderedMember).value.map fun s =>
      (Text.lines (Text.unlines (parameterLines s.parameters))).length) = some 7 := by
  decide +kernel

end DocReport.Section

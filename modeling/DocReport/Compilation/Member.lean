import DocReport.Compilation.Fragment

/-!
Members of a compilation: declarations with their names and their documentation, in which all
references are bound.
-/
namespace DocReport

/-- A member as the report and listings show it. -/
structure Member where
  name : Text
  kind : Kind
  signature : Text
  documentationId : Text
  documentation : Text := []
  deriving DecidableEq, Repr

namespace Compilation

/-- The index of a compilation, with a note on its size. -/
def build (files : List SourceFile) : Logged Index := do
  let index := Index.ofFiles files
  Logged.say .debug .symbols
    ("Semantic model built over ".toList ++ Text.ofNat files.length ++ " files (".toList ++
      Text.ofNat index.entries.length ++ " lookup keys)".toList)
  pure index

/-- The member that a declaration declares; namespaces declare none. -/
def member? (index : Index) (d : Declaration) : Logged (Option Member) :=
  if d.kind = .namespaceKind then pure none
  else do
    let documentation ← bindFragment index d (d.documentation.getD [])
    pure (some
      { name := d.name
        kind := d.kind
        signature := Symbol.signature d
        documentationId := Symbol.documentationId d
        documentation })

theorem value_member? (index : Index) (d : Declaration) :
    (member? index d).value =
      if d.kind = .namespaceKind then none
      else some
        { name := d.name
          kind := d.kind
          signature := Symbol.signature d
          documentationId := Symbol.documentationId d
          documentation := (bindFragment index d (d.documentation.getD [])).value } := by
  unfold member?
  split <;> rfl

end Compilation

end DocReport

import DocReport.Files.FileSystem
import DocReport.Settings
import DocReport.Text.Case

/-!
Source files below a directory: those with one of some suffixes, outside of excluded directories
and not excluded themselves, in the order of their components.
-/
namespace DocReport.Files

open Yaml (Value)

/-- Which files are collected. Suffixes and names of files are in lower case. -/
structure Filter where
  suffixes : List Text
  excludedDirectories : List Text
  excludedFiles : List Text
  deriving DecidableEq, Repr

namespace Filter

/-- Whether a file is collected that has these components below the root. -/
def admits (filter : Filter) (parts : List Text) : Bool :=
  let name := parts.getLast?.getD []
  filter.suffixes.any (· == Text.lower (Path.suffixOf name)) &&
    !(parts.dropLast.any fun part => filter.excludedDirectories.any (· == part)) &&
    !filter.excludedFiles.any (· == Text.lower name)

/-- The items of a setting that has to hold several: the entries of a list, the keys of a mapping,
the characters of a text. -/
def items : Value → Except Failure (List Value)
  | .list items => .ok items
  | .map entries => .ok (entries.map (·.1))
  | .text t => .ok (t.map fun c => .text [c])
  | other => .error (.wrongType .items other.typeName)

/-- The texts among values that all have to be texts, in lower case. -/
def lowered : List Value → Except Failure (List Text)
  | [] => .ok []
  | .text t :: rest => do
    let others ← lowered rest
    .ok (Text.lower t :: others)
  | other :: _ => .error (.wrongType .lowerCase other.typeName)

/-- The texts among values that can be looked up. Values of other types are no names and match
none. -/
def names : List Value → Except Failure (List Text)
  | [] => .ok []
  | value :: rest =>
    if value.isAtomic then do
      let others ← names rest
      match value with
      | .text t => .ok (t :: others)
      | _ => .ok others
    else .error (.wrongType .membership value.typeName)

/-- The filter that settings describe. -/
def ofSelection (selection : Settings.Selection) : Except Failure Filter := do
  let suffixes ← lowered (← items selection.extensions)
  let excludedDirectories ← names (← items selection.excludedDirectories)
  let excludedFiles ← lowered (← items selection.excludedFiles)
  .ok { suffixes, excludedDirectories, excludedFiles }

end Filter

/-- The collected files below a place, by their components from there. -/
def collectBelow (fs : FileSystem) (place : List Text) (filter : Filter) : List (List Text) :=
  ((fs.filesBelow place).filter filter.admits).mergeSort fun a b => !partsBefore b a

/-- The source files of a root. A root that is a file is its only source, whatever the settings
say; a root that does not exist has none. -/
def collect (fs : FileSystem) (root : Text) (selection : Settings.Selection) :
    Except Failure (List Path) :=
  let root := Path.ofText root
  if fs.isFile root then .ok [root]
  else do
    let filter ← Filter.ofSelection selection
    match fs.place root with
    | .ok place => .ok ((collectBelow fs place filter).map fun parts => root.join ⟨[], parts⟩)
    | .error _ => .ok []

end DocReport.Files

import DocReport.Text.Basic

/-!
Paths: an anchor and components. Repeated slashes and components that stay where they are vanish;
components that go up stay.
-/
namespace DocReport.Files

/-- A path. The anchor is empty for a relative path, and one or two slashes for an absolute one. -/
structure Path where
  anchor : Text
  parts : List Text
  deriving DecidableEq, Repr, Inhabited

namespace Path

/-- Reads a path. Exactly two leading slashes are kept as two. -/
def ofText (t : Text) : Path :=
  let slashes := (t.takeWhile (· == '/')).length
  { anchor := if slashes = 0 then [] else if slashes = 2 then ['/', '/'] else ['/']
    parts := (Text.cutAll '/' t).filter fun part => part != [] && part != ['.'] }

/-- A path as text; the path that stays where it is is a dot. -/
def toText (p : Path) : Text :=
  if p.anchor = [] ∧ p.parts = [] then ['.'] else p.anchor ++ Text.join ['/'] p.parts

/-- The path without its last component. -/
def parent (p : Path) : Path :=
  { p with parts := p.parts.dropLast }

/-- The last component. -/
def name (p : Path) : Text :=
  p.parts.getLast?.getD []

/-- The last dot of a name and what follows it, unless the dot is first or last in the name. -/
def suffixOf (name : Text) : Text :=
  let extension := (name.reverse.takeWhile (· != '.')).reverse
  if extension = [] ∨ name.length ≤ extension.length + 1 then [] else '.' :: extension

/-- The suffix of the last component. -/
def suffix (p : Path) : Text :=
  suffixOf p.name

/-- One path below another; an absolute one stands for itself. -/
def join (p q : Path) : Path :=
  if q.anchor = [] then { p with parts := p.parts ++ q.parts } else q

/-- A path as seen from another that it lies below; any other path stays. -/
def relativeTo (p root : Path) : Path :=
  if p.anchor = root.anchor ∧ root.parts.isPrefixOf p.parts then
    { anchor := [], parts := p.parts.drop root.parts.length }
  else p

/-- Goes through components one by one; one that goes up takes back the one before it. -/
def normalParts (here : List Text) : List Text → List Text
  | [] => here.reverse
  | part :: rest => if part = ['.', '.'] then normalParts here.tail rest else normalParts (part :: here) rest

/-- A path without components that go up, found without looking at any files. -/
def normal (p : Path) : Path :=
  { p with parts := normalParts [] p.parts }

end Path

/-- The order of component lists, each component by code points. -/
def partsBefore : List Text → List Text → Bool
  | _, [] => false
  | [], _ :: _ => true
  | p :: ps, q :: qs => if p = q then partsBefore ps qs else Text.before p q

end DocReport.Files

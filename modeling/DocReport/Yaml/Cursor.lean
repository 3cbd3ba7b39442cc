import DocReport.Text.Basic

/-!
A place in a YAML text: the text that is left, with line and column.
-/
namespace DocReport.Yaml

/-- What is wrong with a document: its form, or a value that is written in a right form and does
not exist. -/
inductive Fault where
  | malformed
  | noSuchValue (message : Text)
  deriving DecidableEq, Repr

/-- A place in a text. -/
structure Cursor where
  rest : Text
  index : Nat := 0
  line : Nat := 0
  column : Nat := 0
  deriving DecidableEq, Repr

/-- Characters that end a line. -/
def isBreak (c : Char) : Bool :=
  c == '\n' || c == '\r' || c == '\x85' || c == '\u2028' || c == '\u2029'

/-- Whether a line ends here, or the text. -/
def endsLine (c : Option Char) : Bool :=
  c.all isBreak

/-- Whether a word ends here: at a blank, at the end of the line or of the text. -/
def endsWord (c : Option Char) : Bool :=
  c.all fun d => d == ' ' || d == '\t' || isBreak d

/-- Whether a blank that is no tab, or the end of the line or of the text is here. -/
def endsPlainly (c : Option Char) : Bool :=
  c.all fun d => d == ' ' || isBreak d

namespace Cursor

/-- The character here. -/
def peek? (c : Cursor) : Option Char :=
  c.rest.head?

/-- The character some places ahead. -/
def ahead? (c : Cursor) (n : Nat) : Option Char :=
  c.rest[n]?

/-- The next place. Carriage return and line feed end one line together. -/
def next (c : Cursor) : Cursor :=
  match c.rest with
  | [] => c
  | d :: r =>
    if isBreak d && !(d == '\r' && r.head? == some '\n') then
      ⟨r, c.index + 1, c.line + 1, 0⟩
    else ⟨r, c.index + 1, c.line, if d == '\uFEFF' then c.column else c.column + 1⟩

/-- A place further on. -/
def skip (c : Cursor) : Nat → Cursor
  | 0 => c
  | n + 1 => c.next.skip n

/-- The characters here that have a property. -/
def span (c : Cursor) (p : Char → Bool) : Text :=
  c.rest.takeWhile p

/-- The first place where a property ends. -/
def skipWhile (c : Cursor) (p : Char → Bool) : Cursor :=
  c.skip (c.span p).length

/-- Whether a mark of three characters stands here as a word of its own. -/
def atMark (c : Cursor) (mark : String) : Bool :=
  c.rest.take 3 == mark.toList && endsWord (c.ahead? 3)

/-- Whether a document begins or ends here; both need a line of their own. -/
def atDocumentMark (c : Cursor) : Bool :=
  c.atMark "---" || c.atMark "..."

/-- Reads a line end, if there is one: as a line feed, but for the two separators. -/
def lineBreak (c : Cursor) : Text × Cursor :=
  match c.rest with
  | '\r' :: '\n' :: _ => (['\n'], c.skip 2)
  | d :: _ =>
    if d == '\u2028' || d == '\u2029' then ([d], c.next)
    else if isBreak d then (['\n'], c.next)
    else ([], c)
  | [] => ([], c)

end Cursor

end DocReport.Yaml

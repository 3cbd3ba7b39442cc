import DocReport.Source.Literal

/-!
Lexemes of a C# source: white space, comments, directives, words, literals and marks. They cover
the source without gaps. Everything from `#if` to its `#endif` is one directive, whatever stands in
between.
-/
namespace DocReport.Source

/-- The kinds of lexemes. -/
inductive Form where
  | blank | comment | directive | word | literal | mark
  deriving DecidableEq, Repr

/-- A lexeme as written. -/
structure Lexeme where
  form : Form
  text : Text
  deriving DecidableEq, Repr

/-- White space, comments and directives stand between tokens. -/
def Lexeme.isTrivia (l : Lexeme) : Bool :=
  l.form == .blank || l.form == .comment || l.form == .directive

/-- Marks of two characters. -/
def isDoubleMark (c d : Char) : Bool :=
  (c == '=' && d == '>') || (c == ':' && d == ':') || (c == '-' && d == '>')

/-- The length of a directive, `#` included. A region reaches to its end, and an end to the end of
its word, so that a comment behind it is one. -/
def directiveLength (r : Text) : Nat :=
  let word := directiveWord r
  if word = "if".toList then lengthIn .region (lineLength r) r + 1
  else if word = "endif".toList then directiveWordLength r + 1
  else lineLength r + 1

/-- The form and the length of the lexeme at the front of a text. -/
def classify (c : Char) (r : Text) : Form × Nat :=
  if isWhite c then (.blank, (r.takeWhile isWhite).length + 1)
  else if c = '#' then (.directive, directiveLength r)
  else
    match opened? (c :: r) with
    | some (.lineComment, _) =>
      (.comment, (r.takeWhile fun d => d != '\n' && d != '\r').length + 1)
    | some (.blockComment, more) => (.comment, lengthIn .blockComment more r + 1)
    | some (mode, more) => (.literal, lengthIn mode more r + 1)
    | none =>
      if isWordPart c then (.word, (r.takeWhile isWordPart).length + 1)
      else if r.head?.any (isDoubleMark c) then (.mark, 2)
      else (.mark, 1)

/-- The lexemes of a source. -/
def lexemes (t : Text) : List Lexeme :=
  match t with
  | [] => []
  | c :: r =>
    let found := classify c r
    ⟨found.1, c :: r.take (found.2 - 1)⟩ :: lexemes (r.drop (found.2 - 1))
termination_by t.length
decreasing_by
  simp only [List.length_drop, List.length_cons]
  omega

end DocReport.Source

import DocReport.Source.Lexeme

/-!
Tokens: the lexemes that make up the code, each with what stands before it and with its line.
-/
namespace DocReport.Source

/-- A token with the white space, comments and directives before it, and the line it begins on. -/
structure Token where
  lead : List Lexeme
  form : Form
  text : Text
  line : Nat
  deriving DecidableEq, Repr

/-- The number of line feeds in a text. -/
def lineFeeds (t : Text) : Nat :=
  t.count '\n'

/-- The tokens among lexemes; `lead` is what was passed since the last token, `line` the line on
which the lexemes begin. -/
def tokensOf (lead : List Lexeme) (line : Nat) : List Lexeme → List Token
  | [] => []
  | l :: rest =>
    if l.isTrivia then tokensOf (lead ++ [l]) (line + lineFeeds l.text) rest
    else ⟨lead, l.form, l.text, line⟩ :: tokensOf [] (line + lineFeeds l.text) rest

/-- The tokens of a source. -/
def tokens (source : Text) : List Token :=
  tokensOf [] 1 (lexemes source)

namespace Token

/-- Whether a token is written as the given word or mark. -/
def isText (t : Token) (text : String) : Bool :=
  t.text == text.toList

/-- Whether a token is written as one of the given words or marks. -/
def isOneOf (t : Token) (texts : List String) : Bool :=
  texts.any t.isText

/-- Whether a token is an identifier, a keyword or a number. -/
def isWord (t : Token) : Bool :=
  t.form == .word

/-- The text of a token together with what stands before it. -/
def fullText (t : Token) : Text :=
  t.lead.flatMap (·.text) ++ t.text

end Token

/-- The source text from the first of some tokens to the last. -/
def slice : List Token → Text
  | [] => []
  | first :: rest => first.text ++ rest.flatMap (·.fullText)

/-- Whether the first token is written as given. -/
def startsWith (text : String) (ts : List Token) : Bool :=
  ts.head?.any (·.isText text)

/-- Whether the first token is written as one of those given. -/
def startsWithOneOf (texts : List String) (ts : List Token) : Bool :=
  ts.head?.any (·.isOneOf texts)

/-- Whether the first token is a word. -/
def startsWithWord (ts : List Token) : Bool :=
  ts.head?.any (·.isWord)

end DocReport.Source

import DocReport.Source.Extent
import DocReport.Symbol.Declaration

/-!
Parameters, type parameters and declared names, read from the tokens of a declaration.
-/
namespace DocReport.Source

/-- Parts between commas outside all groups. -/
def commaParts (ts : List Token) : List (List Token) :=
  match ts with
  | [] => []
  | t :: rest =>
    let n := attributesLength (t :: rest)
    let part := (t :: rest).take (n + expressionLength [","] ((t :: rest).drop n))
    part :: commaParts (rest.drop part.length)
termination_by ts.length
decreasing_by
  simp only [List.length_drop, List.length_cons]
  omega

/-- The name of a type parameter: attributes and variance are left out. -/
def typeParameterName (ts : List Token) : Text :=
  match (ts.drop (attributesLength ts)).dropWhile (·.isOneOf ["in", "out"]) with
  | [] => []
  | name :: _ => name.text

/-- The names in a list of type parameters at the front. -/
def typeParameters (ts : List Token) : List Text :=
  (commaParts (angleContent ts)).map typeParameterName

/-- Words that may stand before the type of a parameter. -/
def parameterWords : List String :=
  ["this", "scoped", "ref", "out", "in", "readonly", "params"]

/-- Words that say how a parameter is passed. -/
def passingWords : List String :=
  ["ref", "out", "in", "this"]

/-- The type and the name in the tokens of a parameter behind its words. A name alone has no
type. -/
def typedName (ts : List Token) : Text × Text :=
  match ts with
  | [] => ([], [])
  | [name] => ([], name.text)
  | ts =>
    let n := typeLength ts
    (slice (ts.take n), ((ts.drop n).head?.map (·.text)).getD [])

/-- Reads a parameter; a parameter array is none. The word `scoped` right before a type belongs to
the type. -/
def parameter? (ts : List Token) : Option Parameter :=
  let declared := ts.drop (attributesLength ts)
  let bare := declared.take (expressionLength ["="] declared)
  let words := bare.takeWhile (·.isOneOf parameterWords)
  if words.any (·.isText "params") then none
  else
    let kept := if words.getLast?.any (·.isText "scoped") then words.length - 1 else words.length
    let typed := typedName (bare.drop kept)
    some
      { name := typed.2
        typeText := typed.1
        modifier := (words.find? (·.isOneOf passingWords)).map (·.text) }

/-- The parameters in a group. -/
def parameters (ts : List Token) : List Parameter :=
  (commaParts (groupContent ts)).filterMap parameter?

/-- The names of the variables that a field or event declares, up to the semicolon. -/
def declarators (ts : List Token) : List Text :=
  (commaParts (ts.take (expressionLength [";"] ts))).filterMap fun part => part.head?.map (·.text)

end DocReport.Source

import DocReport.Source.Token

/-!
How many tokens the parts of a declaration take: groups in brackets, attributes, types, names and
expressions. Each function counts from the front of a list of tokens.
-/
namespace DocReport.Source

/-- Whether a token opens a group. -/
def Token.opens (t : Token) : Bool :=
  t.isOneOf ["(", "[", "\x7b"]

/-- Whether a token closes a group. -/
def Token.closes (t : Token) : Bool :=
  t.isOneOf [")", "]", "\x7d"]

/-- The tokens up to the one that closes the outermost of `depth` open groups. -/
def closing (depth : Nat) : List Token → Nat
  | [] => 0
  | t :: rest =>
    if t.opens then closing (depth + 1) rest + 1
    else if t.closes then if depth ≤ 1 then 1 else closing (depth - 1) rest + 1
    else closing depth rest + 1

/-- The length of the group that the first token opens. -/
def groupLength (ts : List Token) : Nat :=
  closing 0 ts

/-- The tokens of a group without its brackets. -/
def groupContent (ts : List Token) : List Token :=
  (ts.take (groupLength ts - 1)).drop 1

/-- The tokens up to the one that closes the outermost of `depth` open groups, angle brackets
included. -/
def closingAngle (depth : Nat) : List Token → Nat
  | [] => 0
  | t :: rest =>
    if t.opens || t.isText "<" then closingAngle (depth + 1) rest + 1
    else if t.closes || t.isText ">" then
      if depth ≤ 1 then 1 else closingAngle (depth - 1) rest + 1
    else closingAngle depth rest + 1

/-- The length of the list in angle brackets at the front; none if there is no such list. -/
def angleLength (ts : List Token) : Nat :=
  if startsWith "<" ts then closingAngle 0 ts else 0

/-- The tokens in the angle brackets at the front. -/
def angleContent (ts : List Token) : List Token :=
  (ts.take (angleLength ts - 1)).drop 1

/-- The length of the attribute lists at the front. -/
def attributesLength (ts : List Token) : Nat :=
  match ts with
  | [] => 0
  | t :: rest =>
    if t.isText "[" then
      let n := closing 1 rest
      attributesLength (rest.drop n) + n + 1
    else 0
termination_by ts.length
decreasing_by
  simp only [List.length_drop, List.length_cons]
  omega

/-- The length of a name with dots or double colons, type arguments included. -/
def nameLength (ts : List Token) : Nat :=
  match ts with
  | [] => 0
  | _ :: rest =>
    let n := angleLength rest
    if startsWithOneOf [".", "::"] (rest.drop n) then nameLength (rest.drop (n + 1)) + n + 2
    else n + 1
termination_by ts.length
decreasing_by
  simp only [List.length_drop, List.length_cons]
  omega

/-- The length of what may follow the name of a type: question marks, asterisks, array ranks. -/
def suffixLength (ts : List Token) : Nat :=
  match ts with
  | [] => 0
  | t :: rest =>
    if t.isOneOf ["?", "*"] then suffixLength rest + 1
    else if t.isText "[" then
      let n := closing 1 rest
      suffixLength (rest.drop n) + n + 1
    else 0
termination_by ts.length
decreasing_by
  all_goals
    simp only [List.length_drop, List.length_cons]
    omega

/-- The length of a function pointer type up to its signature, which is in angle brackets. -/
def functionPointerLength (ts : List Token) : Nat :=
  let head := (ts.takeWhile fun t => !t.isText "<").length
  head + angleLength (ts.drop head)

/-- The length of a type without the words before it. -/
def plainTypeLength (ts : List Token) : Nat :=
  let core :=
    if startsWith "(" ts then groupLength ts
    else if startsWith "delegate" ts then functionPointerLength ts
    else nameLength ts
  core + suffixLength (ts.drop core)

/-- The length of a type. References may be returned, also read-only ones. -/
def typeLength (ts : List Token) : Nat :=
  let words := (ts.takeWhile (·.isOneOf ["ref", "readonly", "scoped"])).length
  words + plainTypeLength (ts.drop words)

/-- Whether a token may stand in a list of type arguments. -/
def Token.inTypeArguments (t : Token) : Bool :=
  t.isWord || t.isOneOf ["<", ">", ",", ".", "::", "?", "*", "[", "]", "(", ")"]

/-- The length of a list of type arguments in an expression; none if the angle bracket at the
front compares. -/
def typeArgumentsLength (ts : List Token) : Nat :=
  let n := angleLength ts
  if (ts.take n).all (·.inTypeArguments) && (ts.take n).getLast?.any (·.isText ">") then n else 0

/-- The length of an expression up to one of `ends` outside all groups. -/
def expressionLength (ends : List String) (ts : List Token) : Nat :=
  match ts with
  | [] => 0
  | t :: rest =>
    if t.isOneOf ends then 0
    else
      let n :=
        if t.opens then closing 1 rest
        else if t.isText "<" then typeArgumentsLength (t :: rest) - 1
        else 0
      expressionLength ends (rest.drop n) + n + 1
termination_by ts.length
decreasing_by
  simp only [List.length_drop, List.length_cons]
  omega

/-- The length of the rest of a member, from its parameters or name to the end of its body. -/
def bodyLength (ts : List Token) : Nat :=
  match ts with
  | [] => 0
  | t :: rest =>
    if t.isText ";" then 1
    else if t.isText "\x7b" then closing 1 rest + 1
    else if t.isText "=>" then expressionLength [";"] rest + 2
    else
      let n := if t.opens then closing 1 rest else 0
      bodyLength (rest.drop n) + n + 1
termination_by ts.length
decreasing_by
  simp only [List.length_drop, List.length_cons]
  omega

/-- The length of the rest of a property; accessors may be followed by an initial value. -/
def propertyBodyLength (ts : List Token) : Nat :=
  let n := bodyLength ts
  if startsWith "=" (ts.drop n) then n + expressionLength [";"] (ts.drop n) + 1 else n

end DocReport.Source

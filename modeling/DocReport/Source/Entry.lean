import DocReport.Source.Comment
import DocReport.Source.Parameter

/-!
Entries of a source: the declarations at file level, in namespaces and in types, in order, and
where bodies end. Bodies of members and statements are passed over.
-/
namespace DocReport.Source

/-- What all declarations of one entry share: the line of the first token and the documentation
before it. -/
structure Heading where
  line : Nat
  documentation : Option Text
  deriving DecidableEq, Repr

/-- The heading of what begins with a token. -/
def Token.heading (t : Token) : Heading :=
  ⟨t.line, t.documentation?⟩

/-- An entry. Namespaces in blocks and types with a body stay open until the entry that closes
them. -/
inductive Entry where
  | namespaceBlock (heading : Heading) (name : Text)
  | namespaceFile (heading : Heading) (name : Text)
  | type (heading : Heading) (kind : Kind) (name : Text) (typeParameters : List Text)
      (hasBody : Bool)
  | member (heading : Heading) (kind : Kind) (name : Text) (typeParameters : List Text)
      (parameters : List Parameter) (typeText : Text)
  | close
  deriving DecidableEq, Repr

/-- The innermost open body. -/
inductive Body where
  | file | members | enumeration
  deriving DecidableEq, Repr

/-- Words before a declaration that say nothing about its kind. -/
def modifierWords : List String :=
  ["abstract", "async", "const", "extern", "file", "fixed", "internal", "new", "override",
   "partial", "private", "protected", "public", "readonly", "required", "sealed", "static",
   "unsafe", "virtual", "volatile"]

/-- The length of the modifiers at the front. A structure may be marked `ref`. -/
def modifiersLength : List Token → Nat
  | [] => 0
  | t :: rest =>
    if t.isOneOf modifierWords then modifiersLength rest + 1
    else if t.isText "ref" &&
        (startsWith "struct" rest || (startsWith "partial" rest && startsWith "struct" rest.tail)) then
      modifiersLength rest + 1
    else 0

/-- The kind of type that a keyword declares. -/
def typeKind? (t : Token) : Option Kind :=
  if t.isText "class" then some .classKind
  else if t.isText "struct" then some .structKind
  else if t.isText "interface" then some .interfaceKind
  else if t.isText "enum" then some .enumKind
  else none

/-- Reads what kind of type begins and how many words say so. A record is followed by its name or
by the word for its form. -/
def typeStart? (ts : List Token) : Option (Kind × Nat) :=
  match ts with
  | [] => none
  | t :: rest =>
    match typeKind? t with
    | some kind => some (kind, 1)
    | none =>
      if t.isText "record" then
        if startsWithOneOf ["class", "struct"] rest then some (.recordKind, 2)
        else if startsWithWord rest then some (.recordKind, 1)
        else none
      else none

/-- An entry or several that share a heading, how many tokens they take, and the body that they
leave open or end. -/
structure Reading where
  entries : List Entry
  length : Nat
  opens : Option Body := none
  closes : Bool := false

/-- Reads a type behind its keyword. -/
def readType (heading : Heading) (kind : Kind) (ts : List Token) : Reading :=
  let name := (ts.head?.map (·.text)).getD []
  let afterName := ts.drop 1
  let head := expressionLength ["\x7b", ";"] (afterName.drop (angleLength afterName))
  let length := 1 + angleLength afterName + head
  let hasBody := startsWith "\x7b" (ts.drop length)
  { entries := [.type heading kind name (typeParameters afterName) hasBody]
    length := length + 1
    opens :=
      if hasBody then some (if kind = .enumKind then .enumeration else .members) else none }

/-- Reads a namespace behind its keyword. -/
def readNamespace (heading : Heading) (ts : List Token) : Reading :=
  let n := nameLength ts
  let name := slice (ts.take n)
  if startsWith "\x7b" (ts.drop n) then
    { entries := [.namespaceBlock heading name], length := n + 1, opens := some .members }
  else { entries := [.namespaceFile heading name], length := n + 1 }

/-- Reads a delegate behind its keyword. -/
def readDelegate (heading : Heading) (ts : List Token) : Reading :=
  let n := typeLength ts
  let name := ((ts.drop n).head?.map (·.text)).getD []
  let afterName := ts.drop (n + 1)
  let list := afterName.drop (angleLength afterName)
  { entries :=
      [.member heading .delegateKind name (typeParameters afterName) (parameters list)
        (slice (ts.take n))]
    length := n + 1 + angleLength afterName + bodyLength list }

/-- The length of the part of a member's name that names an interface, its last dot included. -/
def interfaceLength (ts : List Token) : Nat :=
  match ts with
  | [] => 0
  | _ :: rest =>
    let n := angleLength rest
    if startsWithOneOf [".", "::"] (rest.drop n) then interfaceLength (rest.drop (n + 1)) + n + 2
    else 0
termination_by ts.length
decreasing_by
  simp only [List.length_drop, List.length_cons]
  omega

/-- Reads variables of a type up to their semicolon. -/
def readVariables (heading : Heading) (kind : Kind) (typeText : Text) (ts : List Token) :
    Reading :=
  { entries := (declarators ts).map fun name => .member heading kind name [] [] typeText
    length := expressionLength [";"] ts + 1 }

/-- Reads an event behind its keyword: one with accessors, or variables. -/
def readEvent (heading : Heading) (ts : List Token) : Reading :=
  let n := typeLength ts
  let typeText := slice (ts.take n)
  let named := ts.drop (n + interfaceLength (ts.drop n))
  let start := n + interfaceLength (ts.drop n)
  if startsWith "\x7b" named.tail then
    { entries := [.member heading .event ((named.head?.map (·.text)).getD []) [] [] typeText]
      length := start + 1 + bodyLength named.tail }
  else
    let reading := readVariables heading .event typeText (ts.drop n)
    { reading with length := n + reading.length }

/-- Reads a conversion behind `implicit` or `explicit`, which is its name. -/
def readConversion (heading : Heading) (name : Text) (ts : List Token) : Reading :=
  let word := (ts.takeWhile fun t => !t.isText "operator").length + 1
  let start := if startsWith "checked" (ts.drop word) then word + 1 else word
  let target := ts.drop start
  let n := typeLength target
  let list := target.drop n
  { entries := [.member heading .conversion name [] (parameters list) (slice (target.take n))]
    length := start + n + bodyLength list }

/-- Reads an operator behind that word; its name is all up to its operands. -/
def readOperator (heading : Heading) (typeText : Text) (ts : List Token) : Reading :=
  let start := if startsWith "checked" ts then 1 else 0
  let symbols := (ts.drop start).takeWhile fun t => !t.isText "("
  let list := (ts.drop start).drop symbols.length
  { entries := [.member heading .operator (slice symbols) [] (parameters list) typeText]
    length := start + symbols.length + bodyLength list }

/-- Reads a method, property or field from its own name on. -/
def readNamed (heading : Heading) (typeText : Text) (ts : List Token) : Reading :=
  let name := (ts.head?.map (·.text)).getD []
  let afterName := ts.drop 1
  if startsWithOneOf ["(", "<"] afterName then
    let list := afterName.drop (angleLength afterName)
    { entries :=
        [.member heading .method name (typeParameters afterName) (parameters list) typeText]
      length := 1 + angleLength afterName + bodyLength list }
  else if startsWithOneOf ["\x7b", "=>"] afterName then
    { entries := [.member heading .property name [] [] typeText]
      length := 1 + propertyBodyLength afterName }
  else readVariables heading .field typeText ts

/-- Reads a member that begins with its type. -/
def readTyped (heading : Heading) (ts : List Token) : Reading :=
  let n := typeLength ts
  let typeText := slice (ts.take n)
  let start := n + interfaceLength (ts.drop n)
  let named := ts.drop start
  let reading :=
    if startsWith "operator" named then
      let inner := readOperator heading typeText named.tail
      { inner with length := inner.length + 1 }
    else if startsWith "this" named then
      { entries := [.member heading .indexer "this".toList [] (parameters named.tail) typeText]
        length := 1 + propertyBodyLength named.tail }
    else readNamed heading typeText named
  { reading with length := start + reading.length }

/-- Reads a constructor or destructor from its name on. -/
def readConstructor (heading : Heading) (kind : Kind) (ts : List Token) : Reading :=
  let name := (ts.head?.map (·.text)).getD []
  { entries := [.member heading kind name [] (parameters ts.tail) []]
    length := 1 + bodyLength ts.tail }

/-- Puts tokens that were passed already in front of a reading. -/
def Reading.after (passed : Nat) (reading : Reading) : Reading :=
  { reading with length := passed + reading.length }

/-- Reads a member behind its attributes and modifiers. -/
def readMember (heading : Heading) (ts : List Token) : Reading :=
  match ts with
  | [] => { entries := [], length := 0 }
  | t :: rest =>
    if t.isText "event" then (readEvent heading rest).after 1
    else if t.isText "~" then (readConstructor heading .destructor rest).after 1
    else if t.isOneOf ["implicit", "explicit"] then (readConversion heading t.text rest).after 1
    else if t.isWord && startsWith "(" rest then readConstructor heading .constructor ts
    else readTyped heading ts

/-- Reads a namespace, type or delegate, which may stand in any body, behind attributes and
modifiers. -/
def readDeclaration? (heading : Heading) (ts : List Token) : Option Reading :=
  match ts with
  | [] => none
  | t :: rest =>
    if t.isText "namespace" then some ((readNamespace heading rest).after 1)
    else if t.isText "delegate" && !startsWith "*" rest then
      some ((readDelegate heading rest).after 1)
    else
      match typeStart? ts with
      | some (kind, words) => some ((readType heading kind (ts.drop words)).after words)
      | none => none

/-- The length of a statement: up to a semicolon or to the end of a block. -/
def statementLength (ts : List Token) : Nat :=
  let n := expressionLength [";", "\x7b", "\x7d"] ts
  if startsWith "\x7b" (ts.drop n) then n + groupLength (ts.drop n) else n + 1

/-- Whether an attribute list is one for the whole assembly or module. -/
def isGlobalAttribute (ts : List Token) : Bool :=
  startsWith "[" ts && startsWithOneOf ["assembly", "module"] ts.tail && startsWith ":" (ts.drop 2)

/-- Whether a directive for names begins: it is passed over. -/
def isNameDirective (ts : List Token) : Bool :=
  startsWith "using" ts || (startsWith "global" ts && startsWith "using" ts.tail) ||
    (startsWith "extern" ts && startsWith "alias" ts.tail)

/-- Reads one member of an enumeration, with the comma behind it. -/
def readEnumMember (heading : Heading) (ts : List Token) : Reading :=
  let start := attributesLength ts
  let name := ((ts.drop start).head?.map (·.text)).getD []
  let n := start + expressionLength [",", "\x7d"] (ts.drop start)
  { entries := [.member heading .enumMember name [] [] []]
    length := if startsWith "," (ts.drop n) then n + 1 else n }

/-- Reads the entry that begins with token `t`. -/
def readEntry (body : Body) (t : Token) (rest : List Token) : Reading :=
  let ts := t :: rest
  if t.isText "\x7d" then { entries := [.close], length := 1, closes := true }
  else if t.isText ";" then { entries := [], length := 1 }
  else if body = .enumeration then readEnumMember t.heading ts
  else if isGlobalAttribute ts then { entries := [], length := groupLength ts }
  else if isNameDirective ts then { entries := [], length := statementLength ts }
  else
    let attributes := attributesLength ts
    let start := attributes + modifiersLength (ts.drop attributes)
    match readDeclaration? t.heading (ts.drop start) with
    | some reading => reading.after start
    | none =>
      if body = .file then { entries := [], length := statementLength ts }
      else (readMember t.heading (ts.drop start)).after start

/-- The entries of a source. `bodies` are the open bodies, innermost first. -/
def entries (bodies : List Body) (ts : List Token) : List Entry :=
  match ts with
  | [] => []
  | t :: rest =>
    let reading := readEntry (bodies.head?.getD .file) t rest
    let inside :=
      match reading.opens with
      | some body => body :: bodies
      | none => if reading.closes then bodies.tail else bodies
    reading.entries ++ entries inside (rest.drop (reading.length - 1))
termination_by ts.length
decreasing_by
  simp only [List.length_drop, List.length_cons]
  omega

end DocReport.Source

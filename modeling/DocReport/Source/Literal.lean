import DocReport.Text.Basic

/-!
How far literals, block comments and conditional regions of a C# source reach. They nest: the text
of an interpolated string holds code, and that code holds literals again. What is open at a
character is a stack of modes; each character changes the stack and says how many of the next
characters belong to it.
-/
namespace DocReport.Source

/-- What is open at a character. Templates and holes know the number of dollar signs before the
opening quote, raw texts and raw templates the number of quotes. -/
inductive Mode where
  | text (verbatim : Bool)
  | character
  | raw (quotes : Nat)
  | template (verbatim : Bool)
  | rawTemplate (quotes dollars : Nat)
  | hole (depth dollars : Nat)
  | format (dollars : Nat)
  | lineComment
  | blockComment
  | region
  deriving DecidableEq, Repr

/-- White space of a source. -/
def isWhite (c : Char) : Bool :=
  Text.isBlank c || c == '﻿'

/-- Characters of words: identifiers, keywords and numbers. -/
def isWordPart (c : Char) : Bool :=
  c.isAlphanum || c == '_' || c == '@' || c == '\\' || (0x80 ≤ c.toNat && !isWhite c)

/-- How often a character stands at the front of a text. -/
def run (c : Char) (t : Text) : Nat :=
  (t.takeWhile (· == c)).length

/-- The word of a directive, read behind its `#`. -/
def directiveWord (t : Text) : Text :=
  (t.dropWhile fun c => c == ' ' || c == '\t').takeWhile Char.isAlpha

/-- The number of characters of a directive's word and the blanks before it. -/
def directiveWordLength (t : Text) : Nat :=
  (t.takeWhile fun c => c == ' ' || c == '\t').length + (directiveWord t).length

/-- The number of characters up to the end of the line. -/
def lineLength (t : Text) : Nat :=
  (t.takeWhile (· != '\n')).length

/-- What begins at a place in code: its mode, and how many characters after the first belong to
its opening. -/
def opened? (t : Text) : Option (Mode × Nat) :=
  match t with
  | '/' :: '/' :: _ => some (.lineComment, 1)
  | '/' :: '*' :: _ => some (.blockComment, 1)
  | '\'' :: _ => some (.character, 0)
  | '@' :: '"' :: _ => some (.text true, 1)
  | '@' :: '$' :: '"' :: _ => some (.template true, 2)
  | '$' :: '@' :: '"' :: _ => some (.template true, 2)
  | '"' :: _ =>
    let quotes := run '"' t
    if 3 ≤ quotes then some (.raw quotes, quotes - 1) else some (.text false, 0)
  | '$' :: _ =>
    let dollars := run '$' t
    let quotes := run '"' (t.drop dollars)
    if 3 ≤ quotes then some (.rawTemplate quotes dollars, dollars + quotes - 1)
    else if 1 ≤ quotes then some (.template false, dollars)
    else none
  | _ => none

/-- One character in a hole: code up to the closing brace, or up to the colon of a format. -/
def stepHole (depth dollars : Nat) (outer : List Mode) (c : Char) (r : Text) : List Mode × Nat :=
  match opened? (c :: r) with
  | some (mode, more) => (mode :: .hole depth dollars :: outer, more)
  | none =>
    if c = '(' ∨ c = '[' ∨ c = '\x7b' then (.hole (depth + 1) dollars :: outer, 0)
    else if c = '\x7d' ∧ depth = 0 then (outer, dollars - 1)
    else if c = ')' ∨ c = ']' ∨ c = '\x7d' then (.hole (depth - 1) dollars :: outer, 0)
    else if c = ':' ∧ depth = 0 then
      if r.head? = some ':' then (.hole depth dollars :: outer, 1) else (.format dollars :: outer, 0)
    else (.hole depth dollars :: outer, 0)

/-- One character in a conditional region: code and directives up to the end of the condition. -/
def stepRegion (outer : List Mode) (c : Char) (r : Text) : List Mode × Nat :=
  match opened? (c :: r) with
  | some (mode, more) => (mode :: .region :: outer, more)
  | none =>
    if c = '#' then
      let word := directiveWord r
      if word = "if".toList then (.region :: .region :: outer, lineLength r)
      else if word = "endif".toList then (outer, directiveWordLength r)
      else (.region :: outer, lineLength r)
    else (.region :: outer, 0)

/-- One character: the stack behind it, and how many of the next characters belong to it. -/
def step (stack : List Mode) (c : Char) (r : Text) : List Mode × Nat :=
  match stack with
  | [] => ([], 0)
  | .text false :: outer =>
    if c = '\\' then (stack, 1) else if c = '"' then (outer, 0) else (stack, 0)
  | .text true :: outer =>
    if c = '"' then if r.head? = some '"' then (stack, 1) else (outer, 0) else (stack, 0)
  | .character :: outer =>
    if c = '\\' then (stack, 1) else if c = '\'' then (outer, 0) else (stack, 0)
  | .raw quotes :: outer =>
    if c = '"' then
      let found := run '"' (c :: r)
      if quotes ≤ found then (outer, quotes - 1) else (stack, found - 1)
    else (stack, 0)
  | .template verbatim :: outer =>
    if c = '\x7b' then
      if r.head? = some '\x7b' then (stack, 1) else (.hole 0 1 :: stack, 0)
    else if c = '\\' ∧ verbatim = false then (stack, 1)
    else if c = '"' then
      if verbatim ∧ r.head? = some '"' then (stack, 1) else (outer, 0)
    else (stack, 0)
  | .rawTemplate quotes dollars :: outer =>
    if c = '"' then
      let found := run '"' (c :: r)
      if quotes ≤ found then (outer, quotes - 1) else (stack, found - 1)
    else if c = '\x7b' then
      let found := run '\x7b' (c :: r)
      if dollars ≤ found then (.hole 0 dollars :: stack, found - 1) else (stack, found - 1)
    else (stack, 0)
  | .hole depth dollars :: outer => stepHole depth dollars outer c r
  | .format dollars :: outer => if c = '\x7d' then (outer, dollars - 1) else (stack, 0)
  | .lineComment :: outer => if c = '\n' ∨ c = '\r' then (outer, 0) else (stack, 0)
  | .blockComment :: outer =>
    if c = '*' ∧ r.head? = some '/' then (outer, 1) else (stack, 0)
  | .region :: outer => stepRegion outer c r

/-- The number of characters until nothing is open any more; `skip` characters are passed over
first. -/
def reach (stack : List Mode) (skip : Nat) : Text → Nat
  | [] => 0
  | c :: r =>
    match skip, stack with
    | more + 1, _ => reach stack more r + 1
    | 0, [] => 0
    | 0, _ :: _ =>
      let next := step stack c r
      reach next.1 next.2 r + 1

/-- The length of what begins in a mode, `opening` being the length of its opening. -/
def lengthIn (mode : Mode) (opening : Nat) (t : Text) : Nat :=
  reach [mode] opening t

end DocReport.Source

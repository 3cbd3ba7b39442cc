import DocReport.Yaml.Scalar

/-!
Tokens of a YAML text. Indentation becomes tokens that begin and end collections; what a key is
shows only at its colon, so the token for it is put in front of it then.
-/
namespace DocReport.Yaml

/-- A token. The handle of a tag is missing if its name is written out. -/
inductive Token where
  | directive (name : Text) (handle value : Text)
  | documentStart | documentEnd
  | blockSequenceStart | blockMappingStart | blockEnd
  | flowSequenceStart | flowSequenceEnd | flowMappingStart | flowMappingEnd | flowEntry
  | blockEntry | key | value
  | alias (name : Text)
  | anchor (name : Text)
  | tag (handle : Option Text) (name : Text)
  | scalar (text : Text) (plain : Bool)
  deriving DecidableEq, Repr

/-- A token that may turn out to be a key: its number, whether it has to be one, and its place. -/
structure PossibleKey where
  number : Nat
  required : Bool
  index : Nat
  line : Nat
  column : Nat
  deriving DecidableEq, Repr

/-- The state of reading: the tokens so far, the flows that are open, the indentations of open
block collections, whether a key may begin here, and the possible key of each flow level. -/
structure Scan where
  cursor : Cursor
  tokens : List Token := []
  flow : Nat := 0
  indent : Int := -1
  outer : List Int := []
  keyAllowed : Bool := true
  keys : List (Nat × PossibleKey) := []

namespace Scan

/-- Puts a token at the end. -/
def emit (s : Scan) (token : Token) : Scan :=
  { s with tokens := s.tokens ++ [token] }

/-- Puts a token in front of the token with the given number. -/
def emitAt (s : Scan) (number : Nat) (token : Token) : Scan :=
  { s with tokens := s.tokens.take number ++ token :: s.tokens.drop number }

/-- Gives up the possible key of the current flow level. -/
def dropKey (s : Scan) : Except Fault Scan :=
  match s.keys.lookup s.flow with
  | none => .ok s
  | some key =>
    if key.required then .error .malformed
    else .ok { s with keys := s.keys.filter fun entry => entry.1 != s.flow }

/-- Notes that the next token may be a key. -/
def saveKey (s : Scan) : Except Fault Scan :=
  if s.keyAllowed then do
    let required := s.flow == 0 && s.indent == (s.cursor.column : Int)
    let s ← s.dropKey
    let key : PossibleKey :=
      ⟨s.tokens.length, required, s.cursor.index, s.cursor.line, s.cursor.column⟩
    .ok { s with keys := (s.flow, key) :: s.keys }
  else .ok s

/-- A key stands on one line and is not too long. -/
def isStale (s : Scan) (key : PossibleKey) : Bool :=
  key.line != s.cursor.line || 1024 < s.cursor.index - key.index

/-- Gives up possible keys that cannot be keys any more. -/
def dropStale (s : Scan) : Except Fault Scan :=
  if s.keys.any fun entry => s.isStale entry.2 && entry.2.required then .error .malformed
  else .ok { s with keys := s.keys.filter fun entry => !s.isStale entry.2 }

/-- Ends block collections that are indented beyond a column. -/
def unwindFrom (s : Scan) (column : Int) : List Int → Scan
  | [] => s
  | around :: outer =>
    if column < s.indent then
      unwindFrom { (s.emit .blockEnd) with indent := around, outer } column outer
    else s

/-- Ends block collections that are indented beyond a column; a flow has no indentation. -/
def unwind (s : Scan) (column : Int) : Scan :=
  if s.flow = 0 then s.unwindFrom column s.outer else s

/-- Opens a block collection at a column, unless one is open there. -/
def deepen (s : Scan) (column : Nat) (number : Nat) (token : Token) : Scan :=
  if s.indent < (column : Int) then
    { (s.emitAt number token) with indent := column, outer := s.indent :: s.outer }
  else s

/-- Passes over blanks, comments and line ends. -/
def skipToToken : Nat → Scan → Scan
  | 0, s => s
  | fuel + 1, s =>
    let c := s.cursor.skipWhile (· == ' ')
    let c := if c.peek? == some '#' then c.skipWhile (!isBreak ·) else c
    if c.peek?.any isBreak then
      skipToToken fuel
        { s with cursor := c.lineBreak.2, keyAllowed := s.keyAllowed || s.flow == 0 }
    else { s with cursor := c }

/-- Moves on. -/
def advance (s : Scan) (n : Nat) : Scan :=
  { s with cursor := s.cursor.skip n }

/-- A mark that begins a flow. -/
def openFlow (s : Scan) (token : Token) : Except Fault Scan := do
  let s ← s.saveKey
  .ok ({ s with flow := s.flow + 1, keyAllowed := true }.advance 1 |>.emit token)

/-- A mark that ends a flow. -/
def closeFlow (s : Scan) (token : Token) : Except Fault Scan := do
  let s ← s.dropKey
  .ok ({ s with flow := s.flow - 1, keyAllowed := false }.advance 1 |>.emit token)

/-- A comma in a flow. -/
def flowEntry (s : Scan) : Except Fault Scan := do
  let s ← s.dropKey
  .ok ({ s with keyAllowed := true }.advance 1 |>.emit .flowEntry)

/-- The hyphen of a list. -/
def blockEntry (s : Scan) : Except Fault Scan :=
  if s.flow = 0 && !s.keyAllowed then .error .malformed
  else do
    let s :=
      if s.flow = 0 then s.deepen s.cursor.column s.tokens.length .blockSequenceStart else s
    let s ← s.dropKey
    .ok ({ s with keyAllowed := true }.advance 1 |>.emit .blockEntry)

/-- The question mark of a key. -/
def keyMark (s : Scan) : Except Fault Scan :=
  if s.flow = 0 && !s.keyAllowed then .error .malformed
  else do
    let s :=
      if s.flow = 0 then s.deepen s.cursor.column s.tokens.length .blockMappingStart else s
    let s ← s.dropKey
    .ok ({ s with keyAllowed := s.flow == 0 }.advance 1 |>.emit .key)

/-- The colon of a value. If a possible key is before it, that is a key. -/
def valueMark (s : Scan) : Except Fault Scan :=
  match s.keys.lookup s.flow with
  | some key =>
    let s := { s with keys := s.keys.filter fun entry => entry.1 != s.flow }
    let s := s.emitAt key.number .key
    let s := if s.flow = 0 then s.deepen key.column key.number .blockMappingStart else s
    .ok ({ s with keyAllowed := false }.advance 1 |>.emit .value)
  | none =>
    if s.flow = 0 && !s.keyAllowed then .error .malformed
    else do
      let s :=
        if s.flow = 0 then s.deepen s.cursor.column s.tokens.length .blockMappingStart else s
      let s ← { s with keyAllowed := s.flow == 0 }.dropKey
      .ok (s.advance 1 |>.emit .value)

/-- Characters of the names of anchors, directives and handles. -/
def isNamePart (c : Char) : Bool :=
  c.isAlphanum || c == '-' || c == '_'

/-- Reads the name of an anchor or of an alias behind its mark. -/
def named (s : Scan) (make : Text → Token) : Except Fault Scan := do
  let s ← s.saveKey
  let c := s.cursor.next
  let name := c.span isNamePart
  let behind := c.skip name.length
  if name.isEmpty ||
      !(endsWord behind.peek? ||
        behind.peek?.any fun d => ['?', ':', ',', ']', '\x7d', '%', '@', '\x60'].contains d) then
    .error .malformed
  else .ok ({ s with keyAllowed := false, cursor := behind }.emit (make name))

/-- Characters of the names of tags. -/
def isTagPart (c : Char) : Bool :=
  c.isAlphanum || "-;/?:@&=+$,_.!~*'()[]".toList.contains c

/-- Reads the name of a tag, with escaped octets. -/
def tagName : Nat → Cursor → Except Fault (Text × Cursor)
  | 0, c => .ok ([], c)
  | fuel + 1, c =>
    match c.peek? with
    | none => .ok ([], c)
    | some d =>
      if d == '%' then
        match hexNumber? (c.next.rest.take 2) with
        | some n =>
          if c.next.rest.length < 2 then .error .malformed
          else do
            let (text, last) ← tagName fuel (c.skip 3)
            .ok (Char.ofNat n :: text, last)
        | none => .error .malformed
      else if isTagPart d then do
        let (text, last) ← tagName fuel c.next
        .ok (d :: text, last)
      else .ok ([], c)

/-- Reads a name of a tag that is not empty. -/
def readTagName (c : Cursor) : Except Fault (Text × Cursor) := do
  let (name, behind) ← tagName (c.rest.length + 1) c
  if name.isEmpty then .error .malformed else .ok (name, behind)

/-- Reads a tag: its handle, if there is one, and its name. -/
def readTag (c : Cursor) : Except Fault (Token × Cursor) :=
  if c.ahead? 1 == some '<' then do
    let (name, behind) ← readTagName (c.skip 2)
    if behind.peek? == some '>' then .ok (.tag none name, behind.next) else .error .malformed
  else if endsWord (c.ahead? 1) then .ok (.tag none ['!'], c.next)
  else
    let word := c.next.span fun d => !endsPlainly (some d)
    if word.any (· == '!') then
      let middle := c.next.span isNamePart
      let behind := c.skip (middle.length + 1)
      if behind.peek? == some '!' then do
        let (name, last) ← readTagName behind.next
        .ok (.tag (some ('!' :: middle ++ ['!'])) name, last)
      else .error .malformed
    else do
      let (name, last) ← readTagName c.next
      .ok (.tag (some ['!']) name, last)

/-- A tag. -/
def tag (s : Scan) : Except Fault Scan := do
  let s ← s.saveKey
  let (token, behind) ← readTag s.cursor
  if endsPlainly behind.peek? then
    .ok ({ s with keyAllowed := false, cursor := behind }.emit token)
  else .error .malformed

/-- Reads the number of a version at the front. -/
def versionPart (c : Cursor) : Except Fault (Text × Cursor) :=
  let digits := c.span Char.isDigit
  if digits.isEmpty then .error .malformed else .ok (digits, c.skip digits.length)

/-- Reads a directive behind its mark: name and values. -/
def readDirective (c : Cursor) : Except Fault (Token × Cursor) := do
  let name := c.span isNamePart
  let c := c.skip name.length
  if name.isEmpty || !endsPlainly c.peek? then .error .malformed
  else if name == "YAML".toList then do
    let (major, c) ← versionPart (c.skipWhile (· == ' '))
    if c.peek? != some '.' then .error .malformed
    else do
      let (minor, c) ← versionPart c.next
      if !endsPlainly c.peek? then .error .malformed
      else .ok (.directive name major minor, c)
  else if name == "TAG".toList then do
    let c := c.skipWhile (· == ' ')
    let handle := c.span fun d => !endsPlainly (some d)
    let middle := (handle.drop 1).dropLast
    if handle.head? != some '!' || !middle.all isNamePart || handle.getLast? != some '!' ||
        (c.skip handle.length).peek? != some ' ' then .error .malformed
    else do
      let (value, c) ← readTagName ((c.skip handle.length).skipWhile (· == ' '))
      if !endsPlainly c.peek? then .error .malformed else .ok (.directive name handle value, c)
  else .ok (.directive name [] [], c.skipWhile (!isBreak ·))

/-- A directive, on a line of its own. -/
def directive (s : Scan) : Except Fault Scan := do
  let s ← (s.unwind (-1)).dropKey
  let (token, c) ← readDirective s.cursor.next
  let c ← skipLineEnd c
  .ok ({ s with keyAllowed := false, cursor := c }.emit token)

/-- A mark that begins or ends a document. -/
def documentMark (s : Scan) (token : Token) : Except Fault Scan := do
  let s ← (s.unwind (-1)).dropKey
  .ok ({ s with keyAllowed := false }.advance 3 |>.emit token)

/-- A scalar in quotes. -/
def quoted (s : Scan) (double : Bool) : Except Fault Scan := do
  let s ← s.saveKey
  let (text, behind) ← readQuoted double (s.cursor.rest.length + 1) s.cursor.next
  .ok ({ s with keyAllowed := false, cursor := behind }.emit (.scalar text false))

/-- A scalar in a block. -/
def block (s : Scan) (folded : Bool) : Except Fault Scan := do
  let s ← { s with keyAllowed := true }.dropKey
  let (text, behind) ← readBlock folded s.indent s.cursor.next
  .ok ({ s with cursor := behind }.emit (.scalar text false))

/-- A plain scalar. A key may follow it if a line ended behind it. -/
def plain (s : Scan) : Except Fault Scan := do
  let s ← s.saveKey
  let reading :=
    readPlain (s.flow != 0) (s.indent + 1) (s.cursor.rest.length + 1) [] false s.cursor
  .ok ({ s with keyAllowed := reading.lineEnded, cursor := reading.behind }.emit
    (.scalar reading.text true))

/-- Whether a plain scalar may begin here. -/
def startsPlain (s : Scan) (c : Char) : Bool :=
  let after := s.cursor.ahead? 1
  !(endsWord (some c) || "-?:,[]\x7b\x7d#&*!|>'\"%@\x60".toList.contains c) ||
    (!endsWord after && (c == '-' || (s.flow == 0 && (c == '?' || c == ':'))))

/-- Reads the token that begins with `c`. -/
def token (s : Scan) (c : Char) : Except Fault Scan :=
  let atStart := s.cursor.column == 0
  let alone := endsWord (s.cursor.ahead? 1)
  if c == '%' && atStart then s.directive
  else if c == '-' && atStart && s.cursor.atMark "---" then s.documentMark .documentStart
  else if c == '.' && atStart && s.cursor.atMark "..." then s.documentMark .documentEnd
  else if c == '[' then s.openFlow .flowSequenceStart
  else if c == '\x7b' then s.openFlow .flowMappingStart
  else if c == ']' then s.closeFlow .flowSequenceEnd
  else if c == '\x7d' then s.closeFlow .flowMappingEnd
  else if c == ',' then s.flowEntry
  else if c == '-' && alone then s.blockEntry
  else if c == '?' && (s.flow != 0 || alone) then s.keyMark
  else if c == ':' && (s.flow != 0 || alone) then s.valueMark
  else if c == '*' then s.named .alias
  else if c == '&' then s.named .anchor
  else if c == '!' then s.tag
  else if c == '|' && s.flow == 0 then s.block false
  else if c == '>' && s.flow == 0 then s.block true
  else if c == '\'' then s.quoted false
  else if c == '"' then s.quoted true
  else if s.startsPlain c then s.plain
  else .error .malformed

/-- Reads tokens up to the end of the text. -/
def run : Nat → Scan → Except Fault (List Token)
  | 0, _ => .error .malformed
  | fuel + 1, s => do
    let s ← (skipToToken (s.cursor.rest.length + 1) s).dropStale
    let s := s.unwind s.cursor.column
    match s.cursor.peek? with
    | none => do
      let s ← (s.unwind (-1)).dropKey
      .ok s.tokens
    | some c => do
      let s ← s.token c
      run fuel s

end Scan

/-- Whether a document may hold a character. -/
def isAllowed (c : Char) : Bool :=
  c == '\t' || c == '\n' || c == '\r' || c == '\x85' || (' ' ≤ c && c ≤ '~') ||
    ('\xa0' ≤ c && c.toNat ≤ 0xFFFD) || 0x10000 ≤ c.toNat

/-- The tokens of a document. A byte order mark at the very front does not count. -/
def tokens (t : Text) : Except Fault (List Token) :=
  if t.all isAllowed then
    let start : Cursor := { rest := t }
    let start := if start.peek? == some '\uFEFF' then start.next else start
    Scan.run (t.length + 2) { cursor := start }
  else .error .malformed

end DocReport.Yaml

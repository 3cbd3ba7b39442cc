import DocReport.Yaml.Cursor

/-!
Scalars of a YAML text: plain, quoted, and in blocks. Every reader gives the text of a scalar and
the place behind it.
-/
namespace DocReport.Yaml

/-- The text between words that are on different lines: a single line end is a space, more of them
are line feeds but for the first. -/
def foldBreaks (first : Text) (others : List Text) : Text :=
  (if first != ['\n'] then first else if others.isEmpty then [' '] else []) ++ others.flatten

/-- The length of the word of a plain scalar. It ends at a blank, at a colon before a blank, and in
a flow at its marks. -/
def plainWordLength (flow : Bool) : Text → Nat
  | [] => 0
  | c :: r =>
    if endsWord (some c) then 0
    else if c == ':' &&
        (endsWord r.head? || (flow && r.head?.any fun d => [',', '[', ']', '\x7b', '\x7d'].contains d)) then 0
    else if flow && [',', '?', '[', ']', '\x7b', '\x7d'].contains c then 0
    else plainWordLength flow r + 1

/-- Reads line ends and spaces behind the first line end of a plain scalar; none if a document
begins or ends there. -/
def plainBreaks : Nat → Cursor → Option (List Text × Cursor)
  | 0, c => some ([], c)
  | fuel + 1, c =>
    match c.peek? with
    | none => some ([], c)
    | some d =>
      if d == ' ' then plainBreaks fuel c.next
      else if isBreak d then
        let found := c.lineBreak
        if found.2.atDocumentMark then none
        else (plainBreaks fuel found.2).map fun (others, last) => (found.1 :: others, last)
      else some ([], c)

/-- What stands between two words of a plain scalar: nothing if the scalar ends. Tells whether a
line ended. -/
def plainGap (c : Cursor) : Option Text × Cursor × Bool :=
  let spaces := c.span (· == ' ')
  let c := c.skip spaces.length
  if c.peek?.any isBreak then
    let found := c.lineBreak
    if found.2.atDocumentMark then (none, found.2, true)
    else
      match plainBreaks (found.2.rest.length + 1) found.2 with
      | none => (none, found.2, true)
      | some (others, last) => (some (foldBreaks found.1 others), last, true)
  else if spaces.isEmpty then (none, c, false)
  else (some spaces, c, false)

/-- A plain scalar as read: its text, the place behind it, and whether its last gap held a line
end. -/
structure PlainReading where
  text : Text
  behind : Cursor
  lineEnded : Bool

/-- Reads a plain scalar whose continuation lines are indented by at least `indent`. `gap` is what
stands before the next word. -/
def readPlain (flow : Bool) (indent : Int) : Nat → Text → Bool → Cursor → PlainReading
  | 0, _, ended, c => ⟨[], c, ended⟩
  | fuel + 1, gap, ended, c =>
    let n := plainWordLength flow c.rest
    if c.peek? == some '#' || n == 0 then ⟨[], c, ended⟩
    else
      let word := c.rest.take n
      match plainGap (c.skip n) with
      | (none, behind, lineEnded) => ⟨gap ++ word, behind, lineEnded⟩
      | (some between, behind, lineEnded) =>
        if behind.peek? == some '#' || (!flow && (behind.column : Int) < indent) then
          ⟨gap ++ word, behind, lineEnded⟩
        else
          let others := readPlain flow indent fuel between lineEnded behind
          ⟨gap ++ word ++ others.text, others.behind, others.lineEnded⟩

/-- Escapes of one character after a backslash. -/
def escapes : List (Char × Char) :=
  [('0', '\x00'), ('a', '\x07'), ('b', '\x08'), ('t', '\t'), ('\t', '\t'), ('n', '\n'),
   ('v', '\x0b'), ('f', '\x0c'), ('r', '\r'), ('e', '\x1b'), (' ', ' '), ('"', '"'),
   ('\\', '\\'), ('/', '/'), ('N', '\x85'), ('_', '\xa0'), ('L', '\u2028'), ('P', '\u2029')]

/-- The number of hexadecimal digits after an escape. -/
def escapeWidth? (c : Char) : Option Nat :=
  if c == 'x' then some 2 else if c == 'u' then some 4 else if c == 'U' then some 8 else none

/-- The value of a hexadecimal digit. -/
def hexValue? (c : Char) : Option Nat :=
  if c.isDigit then some (c.toNat - '0'.toNat)
  else if 'a' ≤ c && c ≤ 'f' then some (c.toNat - 'a'.toNat + 10)
  else if 'A' ≤ c && c ≤ 'F' then some (c.toNat - 'A'.toNat + 10)
  else none

/-- The number that hexadecimal digits write. -/
def hexNumber? (digits : Text) : Option Nat :=
  digits.foldl (fun n c => do some ((← n) * 16 + (← hexValue? c))) (some 0)

/-- Reads empty lines in a quoted scalar, where no document may begin or end. -/
def quotedBreaks : Nat → Cursor → Except Fault (List Text × Cursor)
  | 0, c => .ok ([], c)
  | fuel + 1, c =>
    if c.atDocumentMark then .error .malformed
    else
      let c := c.skipWhile fun d => d == ' ' || d == '\t'
      if c.peek?.any isBreak then do
        let found := c.lineBreak
        let (others, last) ← quotedBreaks fuel found.2
        .ok (found.1 :: others, last)
      else .ok ([], c)

/-- Reads what a backslash in double quotes begins; the place is behind the backslash. -/
def readEscape (c : Cursor) : Except Fault (Text × Cursor) :=
  match c.peek? with
  | none => .error .malformed
  | some d =>
    match escapes.lookup d, escapeWidth? d with
    | some e, _ => .ok ([e], c.next)
    | none, some width =>
      let digits := c.next.rest.take width
      match hexNumber? digits with
      | some n =>
        if digits.length < width then .error .malformed
        else if 0x110000 ≤ n then .error (.noSuchValue "chr() arg not in range(0x110000)".toList)
        else .ok ([Char.ofNat n], c.next.skip width)
      | none => .error .malformed
    | none, none =>
      if isBreak d then do
        let found := c.lineBreak
        let (others, last) ← quotedBreaks (found.2.rest.length + 1) found.2
        .ok (others.flatten, last)
      else .error .malformed

/-- Reads a quoted scalar behind its opening quote. -/
def readQuoted (double : Bool) : Nat → Cursor → Except Fault (Text × Cursor)
  | 0, _ => .error .malformed
  | fuel + 1, c =>
    match c.peek? with
    | none => .error .malformed
    | some d =>
      if d == ' ' || d == '\t' then
        let spaces := c.span fun e => e == ' ' || e == '\t'
        let behind := c.skip spaces.length
        if behind.peek?.any isBreak then readQuoted double fuel behind
        else do
          let (text, last) ← readQuoted double fuel behind
          .ok (spaces ++ text, last)
      else if isBreak d then do
        let found := c.lineBreak
        let (others, behind) ← quotedBreaks (found.2.rest.length + 1) found.2
        let (text, last) ← readQuoted double fuel behind
        .ok (foldBreaks found.1 others ++ text, last)
      else if double && d == '"' then .ok ([], c.next)
      else if double && d == '\\' then do
        let (piece, behind) ← readEscape c.next
        let (text, last) ← readQuoted double fuel behind
        .ok (piece ++ text, last)
      else if !double && d == '\'' then
        if c.ahead? 1 == some '\'' then do
          let (text, last) ← readQuoted double fuel (c.skip 2)
          .ok ('\'' :: text, last)
        else .ok ([], c.next)
      else do
        let (text, last) ← readQuoted double fuel c.next
        .ok (d :: text, last)

/-- What happens to line ends at the end of a block. -/
inductive Chomping where
  | strip | clip | keep
  deriving DecidableEq, Repr

/-- Reads the marks behind the sign of a block: how it ends, and how far it is indented. -/
def readBlockMarks (c : Cursor) : Except Fault (Chomping × Option Nat × Cursor) :=
  let chomping? := fun (c : Cursor) =>
    if c.peek? == some '+' then some Chomping.keep
    else if c.peek? == some '-' then some Chomping.strip
    else none
  let increment? := fun (c : Cursor) => c.peek?.bind fun d =>
    if d.isDigit then some (d.toNat - '0'.toNat) else none
  let found :=
    match chomping? c with
    | some chomping =>
      match increment? c.next with
      | some n => (chomping, some n, c.skip 2)
      | none => (chomping, none, c.next)
    | none =>
      match increment? c with
      | some n =>
        match chomping? c.next with
        | some chomping => (chomping, some n, c.skip 2)
        | none => (.clip, some n, c.next)
      | none => (.clip, none, c)
  if found.2.1 == some 0 || !endsPlainly found.2.2.peek? then .error .malformed else .ok found

/-- Passes over blanks and a comment up to the end of the line. -/
def skipLineEnd (c : Cursor) : Except Fault Cursor :=
  let c := c.skipWhile (· == ' ')
  let c := if c.peek? == some '#' then c.skipWhile (!isBreak ·) else c
  if endsLine c.peek? then .ok c.lineBreak.2 else .error .malformed

/-- Reads empty lines before a block whose indentation is not known; tells the widest column. -/
def blockIndentation : Nat → Nat → Cursor → List Text × Nat × Cursor
  | 0, widest, c => ([], widest, c)
  | fuel + 1, widest, c =>
    if c.peek? == some ' ' then blockIndentation fuel (max widest c.next.column) c.next
    else if c.peek?.any isBreak then
      let found := c.lineBreak
      let others := blockIndentation fuel widest found.2
      (found.1 :: others.1, others.2)
    else ([], widest, c)

/-- Passes over spaces up to a column. -/
def skipIndent (indent : Nat) (c : Cursor) : Cursor :=
  c.skip (min (indent - c.column) (c.span (· == ' ')).length)

/-- Reads empty lines in a block. -/
def blockBreaks (indent : Nat) : Nat → Cursor → List Text × Cursor
  | 0, c => ([], c)
  | fuel + 1, c =>
    let c := skipIndent indent c
    if c.peek?.any isBreak then
      let found := c.lineBreak
      let others := blockBreaks indent fuel found.2
      (found.1 :: others.1, others.2)
    else ([], c)

/-- Reads the lines of a block; `breaks` are the empty lines before the next one. -/
def blockLines (folded : Bool) (chomping : Chomping) (indent : Nat) :
    Nat → List Text → Cursor → Text × Cursor
  | 0, _, c => ([], c)
  | fuel + 1, breaks, c =>
    let line := c.span (!isBreak ·)
    let solid := !c.peek?.any fun d => d == ' ' || d == '\t'
    let ended := (c.skip line.length).lineBreak
    let others := blockBreaks indent (ended.2.rest.length + 1) ended.2
    let behind := others.2
    if behind.column == indent && behind.peek?.isSome then
      let between :=
        if folded && ended.1 == ['\n'] && solid && !behind.peek?.any (fun d => d == ' ' || d == '\t') then
          if others.1.isEmpty then [' '] else []
        else ended.1
      let following := blockLines folded chomping indent fuel others.1 behind
      (breaks.flatten ++ line ++ between ++ following.1, following.2)
    else
      let tail :=
        match chomping with
        | .strip => []
        | .clip => ended.1
        | .keep => ended.1 ++ others.1.flatten
      (breaks.flatten ++ line ++ tail, behind)

/-- Reads a block behind its sign. `outer` is the indentation around it. -/
def readBlock (folded : Bool) (outer : Int) (c : Cursor) : Except Fault (Text × Cursor) := do
  let (chomping, increment, c) ← readBlockMarks c
  let c ← skipLineEnd c
  let least := (max 1 (outer + 1)).toNat
  let fuel := c.rest.length + 1
  let (breaks, indent, c) :=
    match increment with
    | some n =>
      let found := blockBreaks (least + n - 1) fuel c
      (found.1, least + n - 1, found.2)
    | none =>
      let found := blockIndentation fuel 0 c
      (found.1, max least found.2.1, found.2.2)
  if c.column == indent && c.peek?.isSome then
    .ok (blockLines folded chomping indent (c.rest.length + 1) breaks c)
  else .ok (if chomping = .keep then breaks.flatten else [], c)

end DocReport.Yaml

import DocReport.Yaml.Token

/-!
The tree of a YAML document: scalars, sequences and mappings, read from tokens. An alias stands for
the node that its anchor names.
-/
namespace DocReport.Yaml

/-- A node with its tag, if one is written. -/
inductive Node where
  | scalar (tag : Option Text) (plain : Bool) (text : Text)
  | sequence (tag : Option Text) (items : List Node)
  | mapping (tag : Option Text) (entries : List (Node × Node))
  deriving Repr, Inhabited

/-- The node that is not written. -/
def Node.empty : Node := .scalar none true []

/-- What reading knows: which nodes have names, and what the handles of tags stand for. -/
structure Names where
  anchors : List (Text × Node) := []
  handles : List (Text × Text)

/-- A node as read, with the tokens behind it. -/
abbrev NodeReading := Except Fault (Node × List Token × Names)

/-- Properties of a node: an anchor and a tag in any order. -/
structure Properties where
  anchor : Option Text := none
  tag : Option (Option Text × Text) := none

/-- Reads the properties at the front. -/
def readProperties : List Token → Properties × List Token
  | .anchor name :: .tag handle suffix :: rest => (⟨some name, some (handle, suffix)⟩, rest)
  | .anchor name :: rest => (⟨some name, none⟩, rest)
  | .tag handle suffix :: .anchor name :: rest => (⟨some name, some (handle, suffix)⟩, rest)
  | .tag handle suffix :: rest => (⟨none, some (handle, suffix)⟩, rest)
  | rest => ({}, rest)

/-- The full name of a tag. -/
def fullTag (names : Names) : Option (Option Text × Text) → Except Fault (Option Text)
  | none => .ok none
  | some (none, suffix) => .ok (some suffix)
  | some (some handle, suffix) =>
    match names.handles.lookup handle with
    | none => .error .malformed
    | some start => .ok (some (start ++ suffix))

/-- The tag that lets a node be resolved as if it were plain. -/
def openTag : Text := ['!']

/-- A written scalar. The open tag makes it resolve like a plain one. -/
def scalarNode (tag : Option Text) (plain : Bool) (text : Text) : Node :=
  if tag = some openTag then .scalar none true text else .scalar tag plain text

/-- A tag for a collection; the open tag says nothing. -/
def collectionTag (tag : Option Text) : Option Text :=
  if tag = some openTag then none else tag

/-- Whether the first token is one of those that end a place where a node may stand. -/
def endsNode (ends : List Token) (ts : List Token) : Bool :=
  match ts with
  | [] => true
  | t :: _ => ends.contains t

mutual

/-- Reads a node. In a block collection it may be a block itself, and as a value a list without
indentation of its own. -/
def readNode : Nat → Bool → Bool → Names → List Token → NodeReading
  | 0, _, _, _, _ => .error .malformed
  | _ + 1, _, _, names, .alias name :: rest =>
    match names.anchors.lookup name with
    | some node => .ok (node, rest, names)
    | none => .error .malformed
  | fuel + 1, inBlock, indentless, names, ts => do
    let found := readProperties ts
    let tag ← fullTag names found.1.tag
    if found.1.anchor.any fun name => (names.anchors.lookup name).isSome then .error .malformed
    else do
      let (node, rest, names) ← readContent fuel inBlock indentless names tag
        (found.1.anchor.isSome || found.1.tag.isSome) found.2
      match found.1.anchor with
      | none => .ok (node, rest, names)
      | some name => .ok (node, rest, { names with anchors := (name, node) :: names.anchors })

/-- Reads a node behind its properties. -/
def readContent : Nat → Bool → Bool → Names → Option Text → Bool → List Token → NodeReading
  | 0, _, _, _, _, _, _ => .error .malformed
  | fuel + 1, inBlock, indentless, names, tag, hasProperties, ts =>
    match ts with
    | .scalar text plain :: rest =>
      .ok (scalarNode tag (plain && tag.isNone) text, rest, names)
    | .flowSequenceStart :: rest => do
      let (items, rest, names) ← readFlowItems fuel names true rest
      .ok (.sequence (collectionTag tag) items, rest, names)
    | .flowMappingStart :: rest => do
      let (entries, rest, names) ← readFlowEntries fuel names true rest
      .ok (.mapping (collectionTag tag) entries, rest, names)
    | .blockEntry :: _ =>
      if indentless then do
        let (items, rest, names) ← readBlockItems fuel names true ts
        .ok (.sequence (collectionTag tag) items, rest, names)
      else if hasProperties then .ok (scalarNode tag tag.isNone [], ts, names)
      else .error .malformed
    | .blockSequenceStart :: rest =>
      if inBlock then do
        let (items, rest, names) ← readBlockItems fuel names false rest
        .ok (.sequence (collectionTag tag) items, rest, names)
      else .error .malformed
    | .blockMappingStart :: rest =>
      if inBlock then do
        let (entries, rest, names) ← readBlockEntries fuel names rest
        .ok (.mapping (collectionTag tag) entries, rest, names)
      else .error .malformed
    | _ =>
      if hasProperties then .ok (scalarNode tag tag.isNone [], ts, names) else .error .malformed

/-- Reads a node, or the empty one if one of `ends` is here already. -/
def readNodeOr : Nat → Bool → Bool → Names → List Token → List Token → NodeReading
  | 0, _, _, _, _, _ => .error .malformed
  | fuel + 1, inBlock, indentless, names, ends, ts =>
    if endsNode ends ts then .ok (.empty, ts, names)
    else readNode fuel inBlock indentless names ts

/-- Reads the items of a block list. A list without indentation of its own ends where no item
follows. -/
def readBlockItems : Nat → Names → Bool → List Token →
    Except Fault (List Node × List Token × Names)
  | 0, _, _, _ => .error .malformed
  | fuel + 1, names, indentless, ts =>
    match ts with
    | .blockEntry :: rest => do
      let ends :=
        if indentless then [Token.blockEntry, .key, .value, .blockEnd] else [.blockEntry, .blockEnd]
      let (item, rest, names) ← readNodeOr fuel true false names ends rest
      let (others, rest, names) ← readBlockItems fuel names indentless rest
      .ok (item :: others, rest, names)
    | .blockEnd :: rest => if indentless then .ok ([], ts, names) else .ok ([], rest, names)
    | _ => if indentless then .ok ([], ts, names) else .error .malformed

/-- Reads the entries of a block mapping. -/
def readBlockEntries : Nat → Names → List Token →
    Except Fault (List (Node × Node) × List Token × Names)
  | 0, _, _ => .error .malformed
  | fuel + 1, names, ts => do
    let ends := [Token.key, .value, .blockEnd]
    match ts with
    | .blockEnd :: rest => .ok ([], rest, names)
    | .key :: rest => do
      let (key, rest, names) ← readNodeOr fuel true true names ends rest
      let (value, rest, names) ←
        match rest with
        | .value :: rest => readNodeOr fuel true true names ends rest
        | _ => .ok (Node.empty, rest, names)
      let (others, rest, names) ← readBlockEntries fuel names rest
      .ok ((key, value) :: others, rest, names)
    | _ => .error .malformed

/-- Reads the items of a flow list; an entry with a colon is a mapping of one entry. -/
def readFlowItems : Nat → Names → Bool → List Token →
    Except Fault (List Node × List Token × Names)
  | 0, _, _, _ => .error .malformed
  | fuel + 1, names, first, ts =>
    match ts with
    | .flowSequenceEnd :: rest => .ok ([], rest, names)
    | _ =>
      match (if first then some ts else if ts.head? == some .flowEntry then some ts.tail else none) with
      | none => .error .malformed
      | some (.flowSequenceEnd :: rest) => .ok ([], rest, names)
      | some (.key :: rest) => do
        let (key, rest, names) ←
          readNodeOr fuel false false names [.value, .flowEntry, .flowSequenceEnd] rest
        let (value, rest, names) ←
          match rest with
          | .value :: rest => readNodeOr fuel false false names [.flowEntry, .flowSequenceEnd] rest
          | _ => .ok (Node.empty, rest, names)
        let (others, rest, names) ← readFlowItems fuel names false rest
        .ok (.mapping none [(key, value)] :: others, rest, names)
      | some ts => do
        let (item, rest, names) ← readNode fuel false false names ts
        let (others, rest, names) ← readFlowItems fuel names false rest
        .ok (item :: others, rest, names)

/-- Reads the entries of a flow mapping; a key alone has the empty value. -/
def readFlowEntries : Nat → Names → Bool → List Token →
    Except Fault (List (Node × Node) × List Token × Names)
  | 0, _, _, _ => .error .malformed
  | fuel + 1, names, first, ts =>
    match ts with
    | .flowMappingEnd :: rest => .ok ([], rest, names)
    | _ =>
      match (if first then some ts else if ts.head? == some .flowEntry then some ts.tail else none) with
      | none => .error .malformed
      | some (.flowMappingEnd :: rest) => .ok ([], rest, names)
      | some (.key :: rest) => do
        let (key, rest, names) ←
          readNodeOr fuel false false names [.value, .flowEntry, .flowMappingEnd] rest
        let (value, rest, names) ←
          match rest with
          | .value :: rest => readNodeOr fuel false false names [.flowEntry, .flowMappingEnd] rest
          | _ => .ok (Node.empty, rest, names)
        let (others, rest, names) ← readFlowEntries fuel names false rest
        .ok ((key, value) :: others, rest, names)
      | some ts => do
        let (key, rest, names) ← readNode fuel false false names ts
        let (others, rest, names) ← readFlowEntries fuel names false rest
        .ok ((key, Node.empty) :: others, rest, names)

end

/-- The namespace of the tags of the language itself. -/
def coreTags : Text := "tag:yaml.org,2002:".toList

/-- The handles that are known without a directive. -/
def standardHandles : List (Text × Text) :=
  [(['!'], ['!']), (['!', '!'], coreTags)]

/-- Reads the directives at the front. Versions begin with one, and nothing is said twice. -/
def readDirectives (version : Bool) (handles : List (Text × Text)) :
    List Token → Except Fault (List (Text × Text) × List Token)
  | .directive name handle value :: rest =>
    if name = "YAML".toList then
      if version || handle.dropWhile (· == '0') != ['1'] then .error .malformed
      else readDirectives true handles rest
    else if name = "TAG".toList then
      if (handles.lookup handle).isSome then .error .malformed
      else readDirectives version ((handle, value) :: handles) rest
    else readDirectives version handles rest
  | rest => .ok (handles, rest)

/-- Reads the content of a document; there may be none. -/
def readDocumentContent (handles : List (Text × Text)) (ts : List Token) :
    Except Fault (Node × List Token) :=
  match ts with
  | [] | .directive .. :: _ | .documentStart :: _ | .documentEnd :: _ => .ok (.empty, ts)
  | _ => do
    let (node, rest, _) ← readNode (4 * ts.length + 8) true false { handles } ts
    .ok (node, rest)

/-- Reads the only document of a row of tokens; none if there is no document. -/
def readDocument (ts : List Token) : Except Fault (Option Node) := do
  match ts with
  | [] => .ok none
  | _ =>
    let (node, rest) ←
      match ts with
      | .directive .. :: _ | .documentStart :: _ => do
        let (handles, rest) ← readDirectives false [] ts
        match rest with
        | .documentStart :: rest => readDocumentContent (handles ++ standardHandles) rest
        | _ => .error .malformed
      | _ => do
        let (node, rest, _) ←
          readNode (4 * ts.length + 8) true false { handles := standardHandles } ts
        .ok (node, rest)
    if (rest.dropWhile (· == .documentEnd)).isEmpty then .ok (some node) else .error .malformed

end DocReport.Yaml

import DocReport.Yaml.Node
import DocReport.Yaml.Plain

/-!
The value of a YAML document. A mapping takes in the entries of those that it merges; of entries
with one key the last one counts.
-/
namespace DocReport.Yaml

/-- What the tag of a scalar is, written or not; none if it is unknown. -/
def scalarCore (tag : Option Text) (plain : Bool) (t : Text) : Option Core :=
  match tag with
  | none => some (if plain then core t else .text)
  | some name =>
    [("null", Core.null), ("bool", .bool), ("int", .int), ("float", .float),
     ("timestamp", .timestamp), ("str", .text)].findSome? fun (word, kind) =>
      if coreTags ++ word.toList == name then some kind else none

/-- Whether a collection may have a tag: none, or the one for its form. -/
def isCollectionTag (word : String) (tag : Option Text) : Bool :=
  tag.all (· == coreTags ++ word.toList)

/-- The value of a scalar. -/
def scalarValue (tag : Option Text) (plain : Bool) (t : Text) : Except Fault Value :=
  match scalarCore tag plain t with
  | none | some .merge | some .value => .error .malformed
  | some .null => .ok .null
  | some .text => .ok (.text t)
  | some .bool =>
    match boolWords.lookup (Text.lowerAscii t) with
    | some b => .ok (.bool b)
    | none => .error .malformed
  | some .int => if isInt t then .ok (.int (intValue t)) else .error .malformed
  | some .float => if isFloat t || isInt t then .ok (.float (floatValue t)) else .error .malformed
  | some .timestamp => timestampValue t

/-- Whether a key merges other mappings into its own. -/
def isMergeKey : Node → Bool
  | .scalar none true t => t == ['<', '<']
  | _ => false

/-- A key, in which the sign for a default value is text. -/
def keyNode : Node → Node
  | .scalar none true ['='] => .scalar none false ['=']
  | node => node

mutual

/-- The entries of a mapping, those that it merges first. -/
def flatten : Nat → List (Node × Node) → Except Fault (List (Node × Node))
  | 0, _ => .error .malformed
  | fuel + 1, entries => do
    let merged ← mergedEntries fuel entries
    .ok (merged ++ (entries.filter fun e => !isMergeKey e.1).map fun e => (keyNode e.1, e.2))

/-- The entries that a mapping merges. -/
def mergedEntries : Nat → List (Node × Node) → Except Fault (List (Node × Node))
  | 0, _ => .error .malformed
  | _ + 1, [] => .ok []
  | fuel + 1, (key, value) :: rest =>
    if isMergeKey key then do
      let first ← sourceEntries fuel value
      let others ← mergedEntries fuel rest
      .ok (first ++ others)
    else mergedEntries fuel rest

/-- The entries that one merged value gives; of several mappings the first one counts most. -/
def sourceEntries : Nat → Node → Except Fault (List (Node × Node))
  | 0, _ => .error .malformed
  | fuel + 1, .mapping _ entries => flatten fuel entries
  | fuel + 1, .sequence _ items => listEntries fuel items
  | _ + 1, .scalar .. => .error .malformed

/-- The entries of several mappings, the last mapping first. -/
def listEntries : Nat → List Node → Except Fault (List (Node × Node))
  | 0, _ => .error .malformed
  | _ + 1, [] => .ok []
  | fuel + 1, .mapping _ entries :: rest => do
    let first ← flatten fuel entries
    let others ← listEntries fuel rest
    .ok (others ++ first)
  | _ + 1, _ :: _ => .error .malformed

end

mutual

/-- The value of a node. -/
def nodeValue : Nat → Node → Except Fault Value
  | 0, _ => .error .malformed
  | _ + 1, .scalar tag plain t => scalarValue tag plain t
  | fuel + 1, .sequence tag items =>
    if isCollectionTag "seq" tag then do
      let values ← itemValues fuel items
      .ok (.list values)
    else .error .malformed
  | fuel + 1, .mapping tag entries =>
    if isCollectionTag "map" tag then do
      let flat ← flatten (fuel + 1) entries
      let values ← entryValues fuel [] flat
      .ok (.map values)
    else .error .malformed

/-- The values of items. -/
def itemValues : Nat → List Node → Except Fault (List Value)
  | 0, _ => .error .malformed
  | _ + 1, [] => .ok []
  | fuel + 1, item :: rest => do
    let first ← nodeValue fuel item
    let others ← itemValues fuel rest
    .ok (first :: others)

/-- The values of entries, put into those so far. -/
def entryValues : Nat → List (Value × Value) → List (Node × Node) →
    Except Fault (List (Value × Value))
  | 0, _, _ => .error .malformed
  | _ + 1, sofar, [] => .ok sofar
  | fuel + 1, sofar, (key, value) :: rest => do
    let key ← nodeValue fuel key
    if key.isAtomic then do
      let value ← nodeValue fuel value
      entryValues fuel (Value.insert key value sofar) rest
    else .error .malformed

end

/-- The value of a document; one without content is nothing. -/
def load (t : Text) : Except Fault Value := do
  let ts ← tokens t
  match ← readDocument ts with
  | none => .ok .null
  | some node => nodeValue (8 * ts.length + 8) node

end DocReport.Yaml

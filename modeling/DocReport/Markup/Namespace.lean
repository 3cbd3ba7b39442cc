import DocReport.Markup.Tag
import DocReport.Markup.Node

/-!
Names with namespaces. A tag's `xmlns` attributes say what short names stand for, in the tag itself
and in all it holds; after that every name is written with the full name of its namespace.
-/
namespace DocReport.Markup

/-- What short names stand for, innermost first. The empty short name is that of elements without
any. -/
abbrev Scope := List (Text × Text)

/-- The namespace of the short name `xml`. -/
def xmlNamespace : Text := "http://www.w3.org/XML/1998/namespace".toList

/-- The namespace of the short name `xmlns`, which nothing may be bound to. -/
def xmlnsNamespace : Text := "http://www.w3.org/2000/xmlns/".toList

/-- The scope of a document: `xml` alone is known. -/
def Scope.outermost : Scope := [("xml".toList, xmlNamespace)]

/-- A local name in a namespace. -/
def inNamespace (space name : Text) : Text :=
  '\x7b' :: space ++ '\x7d' :: name

/-- The short name that an attribute declares, if it is a declaration. -/
def declaredLabel? (name : Text) : Option Text :=
  match Text.cutFirst ':' name with
  | (head, label) => if head = "xmlns".toList then some (label.getD []) else none

/-- Why a short name cannot stand for a namespace. -/
def bindingFault? (label space : Text) : Option Reason :=
  if label ≠ [] ∧ space = [] then some .undeclaredPrefix
  else if label = "xmlns".toList then some .reservedXmlns
  else if '\x7d' ∈ space then some .badNamespaceName
  else if label = "xml".toList then
    if space = xmlNamespace then none else some .reservedXml
  else if space = xmlNamespace ∨ space = xmlnsNamespace then some .reservedName
  else none

/-- The value of an attribute of the tag at `tagHere`, with its references expanded. -/
def expandValue (tagHere : Text) : List ValuePart → Except Fault Text
  | [] => .ok []
  | .character c :: rest => do
    let value ← expandValue tagHere rest
    .ok (c :: value)
  | .reference reference here :: rest =>
    match reference.character with
    | .error .undefinedEntity => .error ⟨.undefinedEntity, tagHere⟩
    | .error reason => .error ⟨reason, here⟩
    | .ok c => do
      let value ← expandValue tagHere rest
      .ok (c :: value)

/-- Takes the declarations out of a tag's attributes and into the scope. No name is written
twice. -/
def declare (tagHere : Text) (seen : List Text) (scope : Scope) :
    List RawAttribute → Except Fault (Scope × List Attribute)
  | [] => .ok (scope, [])
  | raw :: rest =>
    if raw.name ∈ seen then .error ⟨.duplicateAttribute, raw.here⟩
    else do
      let value ← expandValue tagHere raw.value
      match declaredLabel? raw.name with
      | some label =>
        match bindingFault? label value with
        | some reason => .error ⟨reason, tagHere⟩
        | none => declare tagHere (raw.name :: seen) ((label, value) :: scope) rest
      | none => do
        let (inner, others) ← declare tagHere (raw.name :: seen) scope rest
        .ok (inner, ⟨raw.name, value⟩ :: others)

/-- Writes the names of attributes in full. A name without a short name has no namespace. -/
def expandNames (tagHere : Text) (scope : Scope) (seen : List Text) :
    List Attribute → Except Fault (List Attribute)
  | [] => .ok []
  | first :: rest =>
    match Text.cutFirst ':' first.name with
    | (_, none) => do
      let others ← expandNames tagHere scope seen rest
      .ok (first :: others)
    | (label, some part) =>
      match scope.lookup label with
      | none => .error ⟨.unboundPrefix, tagHere⟩
      | some space =>
        if inNamespace space part ∈ seen then .error ⟨.duplicateAttribute, tagHere⟩
        else do
          let others ← expandNames tagHere scope (inNamespace space part :: seen) rest
          .ok (⟨inNamespace space part, first.value⟩ :: others)

/-- Writes the name of an element in full. -/
def expandTag (tagHere : Text) (scope : Scope) (name : Text) : Except Fault Text :=
  match Text.cutFirst ':' name with
  | (_, none) =>
    match scope.lookup [] with
    | none | some [] => .ok name
    | some space => .ok (inNamespace space name)
  | (label, some part) =>
    match scope.lookup label with
    | none => .error ⟨.unboundPrefix, tagHere⟩
    | some space => .ok (inNamespace space part)

end DocReport.Markup

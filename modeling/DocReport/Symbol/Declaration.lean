import DocReport.Text.Basic

/-!
Declarations of a source file: what is declared, where, and with which documentation comment.
-/
namespace DocReport

/-- What a declaration declares. -/
inductive Kind where
  | namespaceKind | classKind | structKind | interfaceKind | recordKind | enumKind | delegateKind
  | enumMember | method | constructor | destructor | operator | conversion
  | property | indexer | event | field
  deriving DecidableEq, Repr, Inhabited

namespace Kind

/-- All kinds, in the order of the language's own grouping. -/
def all : List Kind :=
  [.namespaceKind, .classKind, .structKind, .interfaceKind, .recordKind, .enumKind, .delegateKind,
   .enumMember, .method, .constructor, .destructor, .operator, .conversion, .property, .indexer,
   .event, .field]

/-- The word for a kind in listings. -/
def word : Kind → Text
  | .namespaceKind => "namespace".toList
  | .classKind => "class".toList
  | .structKind => "struct".toList
  | .interfaceKind => "interface".toList
  | .recordKind => "record".toList
  | .enumKind => "enum".toList
  | .delegateKind => "delegate".toList
  | .enumMember => "enum_member".toList
  | .method => "method".toList
  | .constructor => "constructor".toList
  | .destructor => "destructor".toList
  | .operator => "operator".toList
  | .conversion => "conversion_operator".toList
  | .property => "property".toList
  | .indexer => "indexer".toList
  | .event => "event".toList
  | .field => "field".toList

/-- The kind with the given word. -/
def ofWord? (word : Text) : Option Kind :=
  all.find? fun kind => kind.word == word

/-- Kinds that declare a type. -/
def isType : Kind → Bool
  | .classKind | .structKind | .interfaceKind | .recordKind | .enumKind | .delegateKind => true
  | _ => false

end Kind

/-- A parameter with its type as written and how it is passed, if that is said. -/
structure Parameter where
  name : Text
  typeText : Text := []
  modifier : Option Text := none
  deriving DecidableEq, Repr, Inhabited

/-- A declaration as it stands in a source file. `containingTypes` are display names, outermost
first; `typeText` is a return, member or conversion target type as written. -/
structure Declaration where
  name : Text
  kind : Kind
  filePath : Text := "<string>".toList
  namespaceName : Text := []
  containingTypes : List Text := []
  typeParameters : List Text := []
  parameters : List Parameter := []
  typeText : Text := []
  documentation : Option Text := none
  line : Nat := 0
  deriving DecidableEq, Repr, Inhabited

/-- A source file with its declarations in order of appearance. -/
structure SourceFile where
  path : Text
  declarations : List Declaration
  deriving DecidableEq, Repr, Inhabited

/-- The declarations before which a documentation comment stands. -/
def SourceFile.documented (file : SourceFile) : List Declaration :=
  file.declarations.filter fun d => d.documentation.isSome

end DocReport

import DocReport.Symbol.Identity

/-!
The lookup index of a compilation: under which names references can find each declaration. The
first declaration with a name keeps it.
-/
namespace DocReport.Compilation

open DocReport.Symbol

/-- Lookup keys with the documentation IDs they lead to, in the order of registration. -/
structure Index where
  entries : List (Text × Text)
  deriving DecidableEq, Repr

namespace Index

def empty : Index := ⟨[]⟩

/-- The documentation ID registered under a key. -/
def find? (index : Index) (key : Text) : Option Text :=
  index.entries.lookup key

/-- Registers a key unless it is taken. -/
def register (index : Index) (key id : Text) : Index :=
  if (index.find? key).isSome then index else ⟨index.entries ++ [(key, id)]⟩

end Index

/-- The names of the scopes around a declaration: namespace parts, then containing types without
their type arguments. -/
def scopeParts (d : Declaration) : List Text :=
  namespaceParts d.namespaceName ++ d.containingTypes.map dropArguments

/-- The key that names a declaration without parameters. -/
def plainKey (d : Declaration) : Text :=
  Text.joinDots (scopeParts d ++ [d.name])

/-- Methods and constructors can be named together with their parameter types. -/
def hasSignatureKey (d : Declaration) : Bool :=
  d.kind = .method || d.kind = .constructor

/-- The key that names a method or constructor with its parameter types. -/
def signatureKey (d : Declaration) : Text :=
  plainKey d ++ ['('] ++ documentationParameters d.parameters ++ [')']

/-- All keys under which a declaration can be named; namespaces have none. -/
def keys (d : Declaration) : List Text :=
  if d.kind = .namespaceKind then []
  else if hasSignatureKey d then [plainKey d, signatureKey d]
  else [plainKey d]

/-- Registers a declaration under all its keys. -/
def Index.add (index : Index) (d : Declaration) : Index :=
  (keys d).foldl (fun index key => index.register key (documentationId d)) index

/-- All declarations of a compilation, in file order and then in source order. -/
def declarations (files : List SourceFile) : List Declaration :=
  files.flatMap (·.declarations)

/-- The index of a compilation. -/
def Index.ofFiles (files : List SourceFile) : Index :=
  (declarations files).foldl Index.add Index.empty

end DocReport.Compilation

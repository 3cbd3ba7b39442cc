import DocReport.Logging.Record
import DocReport.Source.Entry
import DocReport.Symbol.Identity

/-!
Declarations of a source file, each with the namespace and the types around it.
-/
namespace DocReport.Source

/-- What is around a declaration: a namespace, and the display names of types, outermost first. -/
structure Surroundings where
  namespaceName : Text := []
  containingTypes : List Text := []
  deriving DecidableEq, Repr

/-- The name of a namespace inside another. -/
def nestedName (outer name : Text) : Text :=
  if outer.isEmpty then name else outer ++ '.' :: name

/-- The declarations that entries make. `here` is what is around them, `outer` what was around the
bodies that are open. A namespace for the rest of the file stays until the body around it ends. -/
def declarations (path : Text) (here : Surroundings) (outer : List Surroundings) :
    List Entry → List Declaration
  | [] => []
  | entry :: rest =>
    let declaration (heading : Heading) (kind : Kind) (name : Text) : Declaration :=
      { name, kind, filePath := path, namespaceName := here.namespaceName
        containingTypes := here.containingTypes, documentation := heading.documentation
        line := heading.line }
    match entry with
    | .namespaceBlock heading name =>
      declaration heading .namespaceKind name ::
        declarations path { namespaceName := nestedName here.namespaceName name } (here :: outer)
          rest
    | .namespaceFile heading name =>
      declaration heading .namespaceKind name ::
        declarations path
          { here with namespaceName := nestedName here.namespaceName name } outer rest
    | .type heading kind name typeParameters hasBody =>
      let own := { declaration heading kind name with typeParameters }
      if hasBody then
        own ::
          declarations path
            { here with
              containingTypes := here.containingTypes ++ [Symbol.displayName name typeParameters] }
            (here :: outer) rest
      else own :: declarations path here outer rest
    | .member heading kind name typeParameters parameters typeText =>
      { declaration heading kind name with typeParameters, parameters, typeText } ::
        declarations path here outer rest
    | .close =>
      match outer with
      | [] => declarations path here [] rest
      | around :: outer => declarations path around outer rest

/-- Reads a source. -/
def read (path source : Text) : SourceFile :=
  { path, declarations := declarations path {} [] (entries [] (tokens source)) }

/-- Reads a source, with a note on what was found. -/
def readLogged (path source : Text) : Logged SourceFile := do
  let file := read path source
  Logged.say .debug .source
    ("Parsed ".toList ++ path ++ ": ".toList ++ Text.ofNat file.declarations.length ++
      " declarations, ".toList ++ Text.ofNat file.documented.length ++ " documented".toList)
  pure file

end DocReport.Source

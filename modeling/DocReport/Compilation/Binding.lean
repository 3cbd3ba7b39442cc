import DocReport.Compilation.Index
import DocReport.Logging.Record

/-!
Binding of references. A reference is looked up in the scopes around the declaration whose
documentation holds it, innermost first, and becomes the documentation ID found there; a reference
that already carries a kind marker, or that names nothing, stays as it is.
-/
namespace DocReport.Compilation

open DocReport.Symbol

/-- The scopes around a declaration, innermost first; the last one is the global scope. -/
def scopes (d : Declaration) : List Text :=
  let parts := scopeParts d ++ (if d.kind.isType then [d.name] else [])
  (List.range (parts.length + 1)).reverse.map fun n => Text.joinDots (parts.take n)

/-- Reads the escapes for angle brackets and ampersands, in that order. -/
def unescape (t : Text) : Text :=
  Text.replace "&amp;".toList ['&']
    (Text.replace "&lt;".toList ['<'] (Text.replace "&gt;".toList ['>'] t))

/-- Whether a colon is the second character: the reference says itself what it names. -/
def hasMarker (t : Text) : Bool :=
  t[1]? == some ':'

/-- The key that a reference asks for, relative to a scope. -/
def lookupName (t : Text) : Text :=
  let simple := Text.trim (dropArguments (Text.cutFirst '(' t).1)
  match (Text.cutFirst '(' t).2.getD [] with
  | [] => simple
  | written =>
    let types := splitArguments (Text.dropTail (· == ')') written)
    simple ++ ['('] ++ Text.join [','] (types.map typeName) ++ [')']

/-- A name seen from the global scope. -/
def qualify (scope name : Text) : Text :=
  if scope.isEmpty then name else scope ++ ['.'] ++ name

/-- What a reference in the documentation of `d` is bound to, if it names anything. -/
def resolve? (index : Index) (reference : Text) (d : Declaration) : Option Text :=
  let name := lookupName (Text.trim (unescape reference))
  (scopes d).findSome? fun scope => index.find? (qualify scope name)

/-- Binds a reference in the documentation of `d`. -/
def bind (index : Index) (reference : Text) (d : Declaration) : Logged Text :=
  if hasMarker (Text.trim (unescape reference)) then pure reference
  else
    match resolve? index reference d with
    | some id => pure id
    | none => do
      Logged.say .debug .symbols
        ("Unresolved cref '".toList ++ reference ++ "' in ".toList ++ d.name)
      pure reference

end DocReport.Compilation

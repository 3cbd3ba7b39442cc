import DocReport.Symbol.Declaration
import DocReport.Symbol.TypeName

/-!
The two names of a declaration: the short signature shown to readers, and the documentation ID that
references are bound to.
-/
namespace DocReport.Symbol

/-- Documentation names of operators with two operands. -/
def binaryOperators : List (Text × Text) :=
  [("+", "op_Addition"), ("-", "op_Subtraction"), ("*", "op_Multiply"), ("/", "op_Division"),
   ("%", "op_Modulus"), ("&", "op_BitwiseAnd"), ("|", "op_BitwiseOr"), ("^", "op_ExclusiveOr"),
   ("<<", "op_LeftShift"), (">>", "op_RightShift"), (">>>", "op_UnsignedRightShift"),
   ("==", "op_Equality"), ("!=", "op_Inequality"), ("<", "op_LessThan"), (">", "op_GreaterThan"),
   ("<=", "op_LessThanOrEqual"), (">=", "op_GreaterThanOrEqual")].map
    fun (token, name) => (token.toList, name.toList)

/-- Documentation names of operators with one operand. -/
def unaryOperators : List (Text × Text) :=
  [("+", "op_UnaryPlus"), ("-", "op_UnaryNegation"), ("!", "op_LogicalNot"),
   ("~", "op_OnesComplement"), ("++", "op_Increment"), ("--", "op_Decrement"),
   ("true", "op_True"), ("false", "op_False")].map
    fun (token, name) => (token.toList, name.toList)

/-- The letter that marks a kind in documentation IDs. -/
def kindLetter : Kind → Char
  | .namespaceKind => 'N'
  | .classKind | .structKind | .interfaceKind | .recordKind | .enumKind | .delegateKind => 'T'
  | .method | .constructor | .destructor | .operator | .conversion => 'M'
  | .property | .indexer => 'P'
  | .field | .enumMember => 'F'
  | .event => 'E'

/-- A name with its type parameters, as shown to readers. -/
def displayName (name : Text) (typeParameters : List Text) : Text :=
  if typeParameters.isEmpty then name
  else name ++ ['<'] ++ Text.join [',', ' '] typeParameters ++ ['>']

/-- A declaration's own part of its signature, without parameters. -/
def ownName (d : Declaration) : Text :=
  match d.kind with
  | .constructor => d.name
  | .destructor => '~' :: d.name
  | .operator => "operator ".toList ++ d.name
  | .conversion => d.name ++ " operator ".toList ++ d.typeText
  | _ => displayName d.name d.typeParameters

/-- A parameter in a signature; an extension receiver shows its type only. -/
def displayParameter (p : Parameter) : Text :=
  match p.modifier with
  | none => p.typeText
  | some modifier =>
    if modifier.isEmpty || modifier == "this".toList then p.typeText
    else modifier ++ [' '] ++ p.typeText

/-- The last part of a declaration's signature. -/
def memberSignature (d : Declaration) : Text :=
  let parameters := Text.join [',', ' '] (d.parameters.map displayParameter)
  match d.kind with
  | .classKind | .structKind | .interfaceKind | .recordKind | .enumKind | .delegateKind => ownName d
  | .indexer => "this[".toList ++ parameters ++ [']']
  | .property | .field | .event | .enumMember => ownName d
  | _ => ownName d ++ ['('] ++ parameters ++ [')']

/-- The short signature of a declaration: containing types, but no namespace and no modifiers. -/
def signature (d : Declaration) : Text :=
  Text.joinDots (d.containingTypes ++ [memberSignature d])

/-- The name of a member in documentation IDs. -/
def metadataName (d : Declaration) : Text :=
  match d.kind with
  | .constructor => "#ctor".toList
  | .destructor => "Finalize".toList
  | .indexer => "Item".toList
  | .conversion =>
    if d.name == "explicit".toList then "op_Explicit".toList else "op_Implicit".toList
  | .operator =>
    let table := if d.parameters.length == 1 then unaryOperators else binaryOperators
    (table.lookup d.name).getD ("op_".toList ++ d.name)
  | _ => d.name

/-- Parameters that are passed by reference. -/
def isByReference (p : Parameter) : Bool :=
  match p.modifier with
  | none => false
  | some modifier => ["ref".toList, "out".toList, "in".toList].contains modifier

/-- A parameter in a documentation ID. -/
def documentationParameter (p : Parameter) : Text :=
  if isByReference p then typeName p.typeText ++ ['@'] else typeName p.typeText

/-- The parameter list of a documentation ID, without parentheses. -/
def documentationParameters (parameters : List Parameter) : Text :=
  Text.join [','] (parameters.map documentationParameter)

/-- The non-empty parts of a namespace name. -/
def namespaceParts (name : Text) : List Text :=
  (Text.cutAll '.' name).filter (!·.isEmpty)

/-- A name followed by its number of type parameters, if there are any. -/
def withArity (mark name : Text) (typeParameters : List Text) : Text :=
  if typeParameters.isEmpty then name else name ++ mark ++ Text.ofNat typeParameters.length

/-- The documentation ID without its marker. -/
def qualifiedName (d : Declaration) : Text :=
  let path := namespaceParts d.namespaceName ++ d.containingTypes.map segment
  if d.kind = .namespaceKind then Text.joinDots (path ++ [d.name])
  else if d.kind.isType then
    Text.joinDots (path ++ [withArity ['\x60'] d.name d.typeParameters])
  else
    let name := metadataName d
    let member := if d.kind = .method then withArity ['\x60', '\x60'] name d.typeParameters else name
    let parameters :=
      if d.parameters.isEmpty then [] else ['('] ++ documentationParameters d.parameters ++ [')']
    let target := if d.kind = .conversion then '~' :: typeName d.typeText else []
    Text.joinDots (path ++ [member]) ++ parameters ++ target

/-- The documentation ID of a declaration. -/
def documentationId (d : Declaration) : Text :=
  kindLetter d.kind :: ':' :: qualifiedName d

end DocReport.Symbol

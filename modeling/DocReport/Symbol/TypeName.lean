import DocReport.Symbol.Nesting

/-!
Types as documentation IDs spell them: keyword types by their system names, type arguments in
braces, nullable value types as `System.Nullable`. A type display name such as `Box<T>` becomes the
ID segment with its arity.
-/
namespace DocReport.Symbol

/-- The keyword types with their system names. -/
def keywordTypes : List (Text × Text) :=
  [("bool", "System.Boolean"), ("byte", "System.Byte"), ("sbyte", "System.SByte"),
   ("char", "System.Char"), ("decimal", "System.Decimal"), ("double", "System.Double"),
   ("float", "System.Single"), ("int", "System.Int32"), ("uint", "System.UInt32"),
   ("nint", "System.IntPtr"), ("nuint", "System.UIntPtr"), ("long", "System.Int64"),
   ("ulong", "System.UInt64"), ("short", "System.Int16"), ("ushort", "System.UInt16"),
   ("object", "System.Object"), ("string", "System.String"), ("dynamic", "System.Object"),
   ("void", "System.Void")].map fun (keyword, name) => (keyword.toList, name.toList)

/-- The system name of a keyword type. -/
def systemName? (keyword : Text) : Option Text :=
  keywordTypes.lookup keyword

/-- The keyword types that are reference types, for which `?` only annotates. -/
def referenceKeywords : List Text :=
  ["object".toList, "string".toList, "dynamic".toList]

/-- Keyword types whose `?` form is a type of its own. -/
def isValueKeyword (t : Text) : Bool :=
  (systemName? t).isSome && !referenceKeywords.contains t

/-- The text before the first `<` and, without its last character, the text after it. -/
def splitGeneric (t : Text) : Text × Text :=
  ((Text.cutFirst '<' t).1, ((Text.cutFirst '<' t).2.getD []).dropLast)

theorem length_cutFirst_lt {c : Char} {t : Text} (present : c ∈ t) :
    ((Text.cutFirst c t).2.getD []).length < t.length := by
  induction t with
  | nil => simp at present
  | cons d r ih =>
    by_cases h : d = c
    · simp [Text.cutFirst, h]
    · have inRest : c ∈ r := by
        rcases List.mem_cons.1 present with same | rest
        · exact absurd same.symm h
        · exact rest
      have := ih inRest
      simp only [Text.cutFirst, h, if_false, List.length_cons]
      omega

theorem length_dropLast_trim_lt {t : Text} {c : Char} (last : (Text.trim t).getLast? = some c) :
    (Text.trim t).dropLast.length < t.length := by
  have bound := Text.length_trim_le t
  have nonempty : Text.trim t ≠ [] := by
    intro empty
    simp [empty] at last
  have positive := List.length_pos_iff.2 nonempty
  simp only [List.length_dropLast]
  omega

theorem length_cutLast_trim_lt {t : Text} {c : Char} (present : c ∈ Text.trim t) :
    (Text.cutLast c (Text.trim t)).1.length < t.length := by
  have bound := Text.length_trim_le t
  have positive := List.length_pos_of_mem present
  simp only [Text.cutLast, List.length_take]
  omega

/-- A type as written, in the spelling of documentation IDs. -/
def typeName (written : Text) : Text :=
  let t := Text.trim written
  if _annotated : t.getLast? = some '?' then
    let inner := Text.trim t.dropLast
    if isValueKeyword inner then
      "System.Nullable".toList ++ ['\x7b'] ++ typeName inner ++ ['\x7d']
    else typeName inner
  else if _array : t.getLast? = some ']' ∧ '[' ∈ t then
    typeName (Text.cutLast '[' t).1 ++ ['['] ++ (Text.cutLast '[' t).2.filter (· != ' ')
  else if _generic : t.getLast? = some '>' ∧ '<' ∈ t then
    let inner := (splitArguments (splitGeneric t).2).attach.map fun argument => typeName argument.1
    Text.trim (splitGeneric t).1 ++ ['\x7b'] ++ Text.join [','] inner ++ ['\x7d']
  else (systemName? t).getD t
termination_by written.length
decreasing_by
  · exact Nat.lt_of_le_of_lt (Text.length_trim_le _) (length_dropLast_trim_lt _annotated)
  · exact Nat.lt_of_le_of_lt (Text.length_trim_le _) (length_dropLast_trim_lt _annotated)
  · exact length_cutLast_trim_lt _array.2
  · have inside := length_le_of_mem_splitArguments argument.2
    have shorter := length_cutFirst_lt _generic.2
    have bound : t.length ≤ written.length := Text.length_trim_le written
    simp only [splitGeneric, List.length_dropLast] at inside
    omega

/-- The ID segment of a type's display name: `Box<T>` gives its name and arity. -/
def segment (display : Text) : Text :=
  if display.getLast? = some '>' ∧ '<' ∈ display then
    (splitGeneric display).1 ++ ['\x60'] ++
      Text.ofNat (splitArguments (splitGeneric display).2).length
  else display

end DocReport.Symbol

import DocReport.Proofs.Symbol.ParameterList

/-!
Documentation IDs can be read back. The dotted name ends at the first parenthesis or tilde and is
cut at its dots; each segment is a name up to its first backtick and a number behind it; what
follows is the parameter list and the target of a conversion. Two declarations with one ID agree in
all of these parts.
-/
namespace DocReport.Symbol

/-- A name with a number of type parameters behind it, if it is not zero. -/
def counted (mark name : Text) (arity : Nat) : Text :=
  if arity = 0 then name else name ++ mark ++ Text.ofNat arity

theorem withArity_eq_counted (mark name : Text) (typeParameters : List Text) :
    withArity mark name typeParameters = counted mark name typeParameters.length := by
  unfold withArity counted
  cases typeParameters with
  | nil => rfl
  | cons first rest => rfl

theorem ofNat_inj {m n : Nat} (same : Text.ofNat m = Text.ofNat n) : m = n := by
  have read := congrArg (Nat.ofDigitChars 10 · 0) same
  simpa [Text.ofNat, Nat.ofDigitChars_ten_toDigits] using read

/-- Name and number are known from a segment, as the name holds no backtick. -/
theorem counted_inj {mark a b : Text} {m n : Nat} (plain : '\x60' ∉ a) (plain' : '\x60' ∉ b)
    (same : counted ('\x60' :: mark) a m = counted ('\x60' :: mark) b n) : a = b ∧ m = n := by
  unfold counted at same
  split at same <;> split at same
  · rename_i zero zero'
    exact ⟨same, zero.trans zero'.symm⟩
  · rw [same] at plain
    simp at plain
  · rw [← same] at plain'
    simp at plain'
  · simp only [List.append_assoc, List.cons_append] at same
    obtain ⟨names, _, numbers⟩ := Text.run_inj (Text.bne_of_not_mem plain) (by simp)
      (Text.bne_of_not_mem plain') (by simp) same
    exact ⟨names, ofNat_inj (List.append_cancel_left numbers)⟩

/-- Characters of segments: those that end neither a segment nor the dotted name. -/
def isSegmentCharacter (c : Char) : Bool :=
  c != '.' && c != '(' && c != '~'

theorem isSegmentCharacter_of_isDigit {c : Char} (digit : c.isDigit = true) :
    isSegmentCharacter c = true := by
  simp only [isSegmentCharacter, Bool.and_eq_true, bne_iff_ne]
  refine ⟨⟨?_, ?_⟩, ?_⟩
  all_goals
    rintro rfl
    cases digit

theorem counted_characters {mark name : Text} {n : Nat}
    (inMark : mark.all isSegmentCharacter = true) (inName : name.all isSegmentCharacter = true) :
    (counted mark name n).all isSegmentCharacter = true := by
  have number : (Text.ofNat n).all isSegmentCharacter = true := by
    rw [List.all_eq_true]
    intro c member
    exact isSegmentCharacter_of_isDigit
      (Nat.isDigit_of_mem_toDigits (by decide) (by decide) member)
  unfold counted
  split
  · exact inName
  · rw [List.all_append, List.all_append, inName, inMark, number]
    rfl

/-- Characters of names: a backtick ends a name in its segment. -/
def isNameCharacter (c : Char) : Bool :=
  isSegmentCharacter c && c != '\x60'

theorem segment_of_name {t : Text} (plain : t.all isNameCharacter = true) :
    t.all isSegmentCharacter = true := by
  rw [List.all_eq_true] at plain ⊢
  intro c member
  exact (Bool.and_eq_true_iff.1 (plain c member)).1

theorem backtick_not_mem {t : Text} (plain : t.all isNameCharacter = true) : '\x60' ∉ t := by
  intro member
  cases List.all_eq_true.1 plain _ member

/-- What can follow a dotted name: nothing, a parameter list or the target of a conversion. -/
def EndsDotted (t : Text) : Prop :=
  ∀ c, t.head? = some c → c = '(' ∨ c = '~'

/-- A dotted name and its segments are known from a text that it begins. -/
theorem joinDots_append_inj {xs ys : List Text} {s t : Text} (filled : xs ≠ []) (filled' : ys ≠ [])
    (plain : ∀ x ∈ xs, x.all isSegmentCharacter = true)
    (plain' : ∀ y ∈ ys, y.all isSegmentCharacter = true) (stop : EndsDotted s)
    (stop' : EndsDotted t) (same : Text.joinDots xs ++ s = Text.joinDots ys ++ t) :
    xs = ys ∧ s = t := by
  let inDotted : Char → Bool := fun c => c != '(' && c != '~'
  have inside : ∀ zs : List Text, (∀ z ∈ zs, z.all isSegmentCharacter = true) →
      ∀ c ∈ Text.joinDots zs, inDotted c = true := by
    intro zs all c member
    rcases Text.mem_join member with dot | ⟨z, belongs, own⟩
    · rw [List.mem_singleton.1 dot]
      rfl
    · have own := List.all_eq_true.1 (all z belongs) c own
      simp only [isSegmentCharacter, Bool.and_eq_true] at own
      simp [inDotted, own.1.2, own.2]
  have outside : ∀ r, EndsDotted r → ∀ c, r.head? = some c → inDotted c = false := by
    intro r ends c first
    rcases ends c first with rfl | rfl <;> rfl
  have cut : ∀ zs : List Text, zs ≠ [] → (∀ z ∈ zs, z.all isSegmentCharacter = true) →
      Text.cutAll '.' (Text.joinDots zs) = zs := by
    intro zs some all
    apply Text.cutAll_join some
    intro z belongs dot
    cases List.all_eq_true.1 (all z belongs) '.' dot
  have dotted : Text.joinDots xs = Text.joinDots ys := by
    rw [← Text.takeWhile_append_stop (inside xs plain) (outside s stop), same,
      Text.takeWhile_append_stop (inside ys plain') (outside t stop')]
  refine ⟨?_, ?_⟩
  · rw [← cut xs filled plain, dotted, cut ys filled' plain']
  · rw [dotted] at same
    exact List.append_cancel_left same

/-- A type that declarations can stand in. -/
structure TypeHeader where
  name : SymbolName
  typeParameters : List SymbolName

def TypeHeader.display (header : TypeHeader) : Text :=
  displayName header.name.text (header.typeParameters.map (·.text))

/-- The parts that a declaration is written with: the names of its namespace and the headers of the
types around it. Its own name is an identifier, an operator with as many operands as there are
parameters, or the word of a conversion; its types are simple types. -/
structure Parts (d : Declaration) where
  spaces : List SymbolName
  headers : List TypeHeader
  declared : d.kind ≠ .namespaceKind
  inSpaces : d.namespaceName = Text.joinDots (spaces.map (·.text))
  inHeaders : d.containingTypes = headers.map TypeHeader.display
  operator : d.kind = .operator →
    ∃ entry ∈ (if d.parameters.length = 1 then unaryOperators else binaryOperators),
      entry.1 = d.name
  conversion : d.kind = .conversion → d.name = "implicit".toList ∨ d.name = "explicit".toList
  named : d.kind ≠ .operator → d.kind ≠ .conversion → ∃ name : SymbolName, name.text = d.name
  parameters : ∀ p ∈ d.parameters, IsWrittenType p.typeText
  target : d.kind = .conversion → IsWrittenType d.typeText

/-- The scopes around a declaration, outermost first, with their numbers of type parameters. -/
def Parts.enclosing {d : Declaration} (parts : Parts d) : List (Text × Nat) :=
  parts.spaces.map (fun name => (name.text, 0)) ++
    parts.headers.map fun header => (header.name.text, header.typeParameters.length)

/-- The number of type parameters that the ID of a member shows. -/
def methodArity (d : Declaration) : Nat :=
  if d.kind = .method then d.typeParameters.length else 0

theorem SymbolName.characters (name : SymbolName) : name.text.all isNameCharacter = true := by
  rw [List.all_eq_true]
  intro c member
  have mark := (name.named.2 c member).2
  simp only [nameMarks, List.mem_cons, not_or] at mark
  simp [isNameCharacter, isSegmentCharacter, mark]

theorem namespaceParts_joinDots (names : List SymbolName) :
    namespaceParts (Text.joinDots (names.map (·.text))) = names.map (·.text) := by
  unfold namespaceParts
  cases names with
  | nil => rfl
  | cons first rest =>
    rw [Text.joinDots, Text.cutAll_join (by simp), List.filter_eq_self]
    · intro text member
      obtain ⟨name, _, rfl⟩ := List.mem_map.1 member
      simpa using name.named.1
    · intro text member
      obtain ⟨name, _, rfl⟩ := List.mem_map.1 member
      exact name.named.2.not_mem (by decide)

/-- An operator of a table has its name there. -/
theorem lookup_characters {table : List (Text × Text)} {token : Text} (fallback : Text)
    (all : ∀ entry ∈ table, entry.2.all isNameCharacter = true)
    (listed : ∃ entry ∈ table, entry.1 = token) :
    ((table.lookup token).getD fallback).all isNameCharacter = true := by
  obtain ⟨entry, belongs, rfl⟩ := listed
  cases found : table.lookup entry.1 with
  | none =>
    have missing := List.lookup_eq_none_iff.1 found entry belongs
    simp at missing
  | some name => exact all (entry.1, name) (mem_of_lookup found)

section Parts

variable {d : Declaration} (parts : Parts d)

include parts

theorem metadataName_characters : (metadataName d).all isNameCharacter = true := by
  have tables : ∀ entry ∈ unaryOperators ++ binaryOperators,
      entry.2.all isNameCharacter = true := by
    decide +kernel
  unfold metadataName
  split
  · decide
  · decide
  · decide
  · split <;> decide
  · rename_i kind
    simp only [beq_iff_eq]
    refine lookup_characters _ (fun entry belongs => ?_) (parts.operator kind)
    split at belongs
    · exact tables entry (List.mem_append_left _ belongs)
    · exact tables entry (List.mem_append_right _ belongs)
  · rename_i noConversion noOperator
    obtain ⟨name, same⟩ := parts.named noOperator noConversion
    rw [← same]
    exact name.characters

theorem enclosingSegments_eq :
    enclosingSegments d =
      parts.enclosing.map fun scope => counted ['\x60'] scope.1 scope.2 := by
  have types : d.containingTypes.map segment = parts.headers.map fun header =>
      counted ['\x60'] header.name.text header.typeParameters.length := by
    rw [parts.inHeaders, List.map_map]
    apply List.map_congr_left
    intro header _
    have named : ∀ p ∈ header.typeParameters.map (·.text), IsName p := by
      intro p member
      obtain ⟨name, _, rfl⟩ := List.mem_map.1 member
      exact name.named
    rw [Function.comp_apply, TypeHeader.display, segment_displayName header.name.named named,
      withArity_eq_counted, List.length_map]
  rw [enclosingSegments, types, parts.inSpaces, namespaceParts_joinDots, Parts.enclosing,
    List.map_append, List.map_map, List.map_map]
  rfl

theorem enclosing_characters :
    ∀ scope ∈ parts.enclosing, scope.1.all isNameCharacter = true := by
  intro scope member
  rcases List.mem_append.1 member with space | type
  · obtain ⟨name, _, rfl⟩ := List.mem_map.1 space
    exact name.characters
  · obtain ⟨header, _, rfl⟩ := List.mem_map.1 type
    exact header.name.characters

theorem exists_name_of_type (type : d.kind.isType = true) :
    ∃ name : SymbolName, name.text = d.name := by
  refine parts.named ?_ ?_
  all_goals
    intro kind
    rw [kind] at type
    cases type

end Parts

theorem ownSegment_of_type {d : Declaration} (type : d.kind.isType = true) :
    ownSegment d = counted ['\x60'] d.name d.typeParameters.length := by
  rw [ownSegment, if_pos type, withArity_eq_counted]

theorem ownSegment_of_member {d : Declaration} (member : d.kind.isType = false) :
    ownSegment d = counted ['\x60', '\x60'] (metadataName d) (methodArity d) := by
  rw [ownSegment, member, methodArity]
  split
  · rename_i none
    cases none
  · split
    · exact withArity_eq_counted ..
    · rfl

theorem segments_characters {d : Declaration} (parts : Parts d) :
    ∀ s ∈ enclosingSegments d ++ [ownSegment d], s.all isSegmentCharacter = true := by
  intro s belongs
  rcases List.mem_append.1 belongs with outer | own
  · rw [enclosingSegments_eq parts] at outer
    obtain ⟨scope, inside, rfl⟩ := List.mem_map.1 outer
    exact counted_characters (by decide) (segment_of_name (enclosing_characters parts scope inside))
  · rw [List.mem_singleton.1 own]
    cases type : d.kind.isType with
    | true =>
      obtain ⟨name, same⟩ := exists_name_of_type parts type
      rw [ownSegment_of_type type, ← same]
      exact counted_characters (by decide) (segment_of_name name.characters)
    | false =>
      rw [ownSegment_of_member type]
      exact counted_characters (by decide) (segment_of_name (metadataName_characters parts))

theorem targetPart_cases (d : Declaration) :
    d.kind ≠ .conversion ∧ targetPart d = [] ∨
      d.kind = .conversion ∧ targetPart d = '~' :: typeName d.typeText := by
  by_cases kind : d.kind = .conversion
  · exact Or.inr ⟨kind, if_pos kind⟩
  · exact Or.inl ⟨kind, if_neg kind⟩

theorem parameterPart_cases (d : Declaration) :
    d.parameters = [] ∧ parameterPart d = [] ∨
      d.parameters ≠ [] ∧
        parameterPart d = '(' :: (documentationParameters d.parameters ++ [')']) := by
  cases ps : d.parameters with
  | nil => exact Or.inl ⟨rfl, by simp [parameterPart, ps]⟩
  | cons p rest => exact Or.inr ⟨by simp, by simp [parameterPart, ps]⟩

theorem endsDotted_trailer (d : Declaration) : EndsDotted (trailer d) := by
  intro c first
  unfold trailer at first
  split at first
  · cases first
  · rcases parameterPart_cases d with ⟨_, none⟩ | ⟨_, list⟩
    · rcases targetPart_cases d with ⟨_, bare⟩ | ⟨_, target⟩
      · simp [none, bare] at first
      · rw [none, target] at first
        exact Or.inr (Option.some.inj first).symm
    · rw [list] at first
      exact Or.inl (Option.some.inj first).symm

theorem targetPart_inj {d e : Declaration} (same : targetPart d = targetPart e) :
    (d.kind = .conversion ↔ e.kind = .conversion) ∧
      (d.kind = .conversion → typeName d.typeText = typeName e.typeText) := by
  rcases targetPart_cases d with ⟨kind, part⟩ | ⟨kind, part⟩ <;>
    rcases targetPart_cases e with ⟨kind', part'⟩ | ⟨kind', part'⟩ <;>
    rw [part, part'] at same
  · exact ⟨by simp [kind, kind'], fun conversion => absurd conversion kind⟩
  · cases same
  · cases same
  · exact ⟨by simp [kind, kind'], fun _ => (List.cons.inj same).2⟩

/-- The parameter list is known from what stands behind the dotted name, and so is the target. -/
theorem parameterPart_inj {d e : Declaration} (x : Parts d) (y : Parts e)
    (same : parameterPart d ++ targetPart d = parameterPart e ++ targetPart e) :
    d.parameters.map passing = e.parameters.map passing ∧ targetPart d = targetPart e := by
  have tilde : ∀ f : Declaration, ∀ r, targetPart f ≠ '(' :: r := by
    intro f r list
    rcases targetPart_cases f with ⟨_, part⟩ | ⟨_, part⟩ <;> rw [part] at list <;> cases list
  have closes : ∀ f : Declaration, Parts f → ')' ∉ documentationParameters f.parameters := by
    intro f z
    exact Text.not_mem_join_map (by decide) fun p listed =>
      parenthesis_not_mem_documentationParameter (z.parameters p listed)
  rcases parameterPart_cases d with ⟨none, part⟩ | ⟨filled, part⟩ <;>
    rcases parameterPart_cases e with ⟨none', part'⟩ | ⟨filled', part'⟩ <;>
    rw [part, part'] at same
  · exact ⟨by rw [none, none'], same⟩
  · exact absurd same (tilde d _)
  · exact absurd same.symm (tilde e _)
  · simp only [List.cons_append, List.append_assoc, List.nil_append, List.cons.injEq,
      true_and] at same
    obtain ⟨lists, _, targets⟩ := Text.run_inj (Text.bne_of_not_mem (closes d x)) (by simp)
      (Text.bne_of_not_mem (closes e y)) (by simp) same
    exact ⟨documentationParameters_inj filled filled' x.parameters y.parameters lists, targets⟩

theorem isType_iff_letter (kind : Kind) : kind.isType = true ↔ kindLetter kind = 'T' := by
  cases kind <;> decide

section Segments

variable {d e : Declaration} (x : Parts d) (y : Parts e)

include x y

theorem enclosing_inj (same : enclosingSegments d = enclosingSegments e) :
    x.enclosing = y.enclosing := by
  rw [enclosingSegments_eq x, enclosingSegments_eq y] at same
  have scopes := map_eq_map_of_determined (g := id) (fun a inside b inside' equal => ?_) same
  · simpa using scopes
  · obtain ⟨names, arities⟩ := counted_inj (backtick_not_mem (enclosing_characters x a inside))
      (backtick_not_mem (enclosing_characters y b inside')) equal
    exact Prod.ext names arities

theorem ownSegment_inj_of_type (type : d.kind.isType = true) (type' : e.kind.isType = true)
    (same : ownSegment d = ownSegment e) :
    d.name = e.name ∧ d.typeParameters.length = e.typeParameters.length := by
  obtain ⟨name, own⟩ := exists_name_of_type x type
  obtain ⟨name', own'⟩ := exists_name_of_type y type'
  rw [ownSegment_of_type type, ownSegment_of_type type', ← own, ← own'] at same
  rw [← own, ← own']
  exact counted_inj (backtick_not_mem name.characters) (backtick_not_mem name'.characters) same

theorem ownSegment_inj_of_member (member : d.kind.isType = false)
    (member' : e.kind.isType = false) (same : ownSegment d = ownSegment e) :
    metadataName d = metadataName e ∧ methodArity d = methodArity e := by
  rw [ownSegment_of_member member, ownSegment_of_member member'] at same
  exact counted_inj (backtick_not_mem (metadataName_characters x))
    (backtick_not_mem (metadataName_characters y)) same

end Segments

/-- Documentation IDs are uniquely decodable. Declarations with the same ID have the same kind
letter and stand in the same scopes; types have the same name and number of type parameters;
members have the same metadata name and number of type parameters, parameters of the same types
that are passed in the same way, and conversions the same target. -/
theorem documentationId_decodable (d e : Declaration) (x : Parts d) (y : Parts e)
    (same : documentationId d = documentationId e) :
    kindLetter d.kind = kindLetter e.kind ∧ x.enclosing = y.enclosing ∧
    d.kind.isType = e.kind.isType ∧
    (d.kind.isType = true →
      d.name = e.name ∧ d.typeParameters.length = e.typeParameters.length) ∧
    (d.kind.isType = false →
      metadataName d = metadataName e ∧ methodArity d = methodArity e ∧
      (d.parameters.map fun p => (typeName p.typeText, isByReference p)) =
        (e.parameters.map fun p => (typeName p.typeText, isByReference p)) ∧
      (d.kind = .conversion ↔ e.kind = .conversion) ∧
      (d.kind = .conversion → typeName d.typeText = typeName e.typeText)) := by
  obtain ⟨letter, rest⟩ := List.cons.inj same
  have names := (List.cons.inj rest).2
  rw [qualifiedName_eq x.declared, qualifiedName_eq y.declared] at names
  obtain ⟨segments, trailers⟩ := joinDots_append_inj (by simp) (by simp) (segments_characters x)
    (segments_characters y) (endsDotted_trailer d) (endsDotted_trailer e) names
  obtain ⟨outer, own⟩ := List.append_inj' segments rfl
  have own := (List.cons.inj own).1
  have types : d.kind.isType = e.kind.isType := by
    rw [Bool.eq_iff_iff, isType_iff_letter, isType_iff_letter, letter]
  refine ⟨letter, enclosing_inj x y outer, types, ?_, ?_⟩
  · intro type
    exact ownSegment_inj_of_type x y type (types ▸ type) own
  · intro member
    have member' : e.kind.isType = false := types ▸ member
    obtain ⟨name, arity⟩ := ownSegment_inj_of_member x y member member' own
    simp only [trailer, member, member', Bool.false_eq_true, if_false] at trailers
    obtain ⟨parameters, target⟩ := parameterPart_inj x y trailers
    obtain ⟨conversion, named⟩ := targetPart_inj target
    exact ⟨name, arity, parameters, conversion, named⟩

section Sum

def demoName : SymbolName :=
  ⟨"Demo".toList, by decide, by decide⟩

def vectorName : SymbolName :=
  ⟨"Vector".toList, by decide, by decide⟩

/-- The type `Vector<byte>[]`, written with a space. -/
def vectorsType : SimpleType :=
  .array (.generic ⟨"Vector".toList, by decide, by decide⟩
    [.keyword "byte".toList "System.Byte".toList (by decide)]) 0

theorem isWrittenType_vectors : IsWrittenType (vectorsType.spelling [0, 1]) := by
  refine ⟨vectorsType, ?_, Text.spaced_spread _ _⟩
  intro path member
  rw [List.mem_singleton.1 member]
  exact ⟨[vectorName], by simp, rfl⟩

def sumParameters : List Parameter :=
  [{ name := "a".toList, typeText := vectorsType.spelling [0, 1] },
   { name := "b".toList, typeText := vectorsType.spelling [0, 1], modifier := some "in".toList }]

/-- An operator of a type, and a method in a namespace with the same name as the type. -/
def sumOperator : Declaration :=
  { name := "+".toList, kind := .operator, namespaceName := "Demo".toList
    containingTypes := ["Vector".toList], parameters := sumParameters }

def sumMethod : Declaration :=
  { name := "op_Addition".toList, kind := .method, namespaceName := "Demo.Vector".toList
    parameters := sumParameters }

theorem isWrittenType_sumParameters : ∀ p ∈ sumParameters, IsWrittenType p.typeText := by
  intro p member
  rcases List.mem_cons.1 member with rfl | member
  · exact isWrittenType_vectors
  · rw [List.mem_singleton.1 member]
    exact isWrittenType_vectors

def sumOperatorParts : Parts sumOperator where
  spaces := [demoName]
  headers := [⟨vectorName, []⟩]
  declared := by decide
  inSpaces := rfl
  inHeaders := rfl
  operator := by decide
  conversion := by decide
  named := fun other => absurd rfl other
  parameters := isWrittenType_sumParameters
  target := fun other => absurd other (by decide)

def sumMethodParts : Parts sumMethod where
  spaces := [demoName, vectorName]
  headers := []
  declared := by decide
  inSpaces := rfl
  inHeaders := rfl
  operator := by decide
  conversion := by decide
  named := fun _ _ => ⟨⟨"op_Addition".toList, by decide, by decide⟩, rfl⟩
  parameters := isWrittenType_sumParameters
  target := fun other => absurd other (by decide)

/-- Equal IDs do not tell an operator from a method, or a type from a namespace around it. -/
theorem documentationId_decodable_sum :
    documentationId sumOperator =
      "M:Demo.Vector.op_Addition(Vector\x7bSystem.Byte\x7d[],Vector\x7bSystem.Byte\x7d[]@)".toList ∧
    documentationId sumOperator = documentationId sumMethod ∧
    sumOperatorParts.enclosing = sumMethodParts.enclosing ∧
    metadataName sumOperator = metadataName sumMethod ∧
    sumOperator.parameters.map (fun p => (typeName p.typeText, isByReference p)) =
      sumMethod.parameters.map (fun p => (typeName p.typeText, isByReference p)) := by
  have same : documentationId sumOperator = documentationId sumMethod := by decide +kernel
  obtain ⟨_, enclosing, _, _, members⟩ :=
    documentationId_decodable sumOperator sumMethod sumOperatorParts sumMethodParts same
  obtain ⟨name, _, parameters, _⟩ := members (by decide)
  exact ⟨by decide +kernel, same, enclosing, name, parameters⟩

end Sum

end DocReport.Symbol

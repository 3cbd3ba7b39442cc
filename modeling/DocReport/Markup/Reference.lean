import DocReport.Markup.Character
import DocReport.Markup.Fault

/-!
References in markup: numbered characters and the five named ones.
-/
namespace DocReport.Markup

/-- A reference as written between `&` and `;`. -/
inductive Reference where
  | number (value : Nat)
  | entity (name : Text)
  deriving DecidableEq, Repr

/-- The characters that have names. -/
def entities : List (Text × Char) :=
  [("lt".toList, '<'), ("gt".toList, '>'), ("amp".toList, '&'), ("quot".toList, '"'),
   ("apos".toList, '\'')]

/-- Whether a number is that of a character which XML text may hold. -/
def isCharacterNumber (n : Nat) : Bool :=
  n < 0x110000 && !(0xD800 ≤ n && n ≤ 0xDFFF) && !isForbidden (Char.ofNat n)

/-- The character that a reference stands for. -/
def Reference.character : Reference → Except Reason Char
  | .number n => if isCharacterNumber n then .ok (Char.ofNat n) else .error .invalidCharacterNumber
  | .entity name =>
    match entities.lookup name with
    | some c => .ok c
    | none => .error .undefinedEntity

/-- Reads digits and a semicolon; `here` is where the reference begins. -/
def readNumber (here : Text) (isDigit : Char → Bool) (base : Nat) (t : Text) :
    Except Fault (Reference × Text) :=
  match t.dropWhile isDigit with
  | [] => .error ⟨.unclosedToken, here⟩
  | c :: rest =>
    if c = ';' ∧ t.takeWhile isDigit ≠ [] then
      .ok (.number (digitsValue base (t.takeWhile isDigit)), rest)
    else .error ⟨.invalidToken, c :: rest⟩

/-- Reads a reference behind its `&`; `here` is where it begins. -/
def readReference (here : Text) : Text → Except Fault (Reference × Text)
  | [] => .error ⟨.unclosedToken, here⟩
  | '#' :: 'x' :: r => readNumber here isHexDigit 16 r
  | '#' :: r => readNumber here Char.isDigit 10 r
  | c :: r =>
    if isNameStart c then
      match r.dropWhile isNameCharacter with
      | [] => .error ⟨.unclosedToken, here⟩
      | d :: rest =>
        if d = ';' then .ok (.entity (c :: r.takeWhile isNameCharacter), rest)
        else .error ⟨.invalidToken, d :: rest⟩
    else .error ⟨.invalidToken, c :: r⟩

theorem length_dropWhile_le (p : Char → Bool) (t : Text) : (t.dropWhile p).length ≤ t.length :=
  (List.dropWhile_sublist p).length_le

theorem readNumber_shorter {here t rest : Text} {isDigit : Char → Bool} {base : Nat}
    {reference : Reference} (read : readNumber here isDigit base t = .ok (reference, rest)) :
    rest.length < t.length := by
  have bound := length_dropWhile_le isDigit t
  simp only [readNumber] at read
  split at read
  · cases read
  · rename_i c tail same
    split at read
    · simp only [Except.ok.injEq, Prod.mk.injEq] at read
      rw [same] at bound
      simp only [List.length_cons] at bound
      rw [← read.2]
      omega
    · cases read

theorem readReference_shorter {here t rest : Text} {reference : Reference}
    (read : readReference here t = .ok (reference, rest)) : rest.length < t.length := by
  unfold readReference at read
  split at read
  · cases read
  · have := readNumber_shorter read
    simp only [List.length_cons]
    omega
  · have := readNumber_shorter read
    simp only [List.length_cons]
    omega
  · rename_i c r _ _
    have bound := length_dropWhile_le isNameCharacter r
    split at read
    · split at read
      · cases read
      · rename_i d tail same
        split at read
        · simp only [Except.ok.injEq, Prod.mk.injEq] at read
          rw [same] at bound
          simp only [List.length_cons] at bound ⊢
          rw [← read.2]
          omega
        · cases read
    · cases read

end DocReport.Markup

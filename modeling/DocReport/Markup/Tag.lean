import DocReport.Markup.Reference

/-!
Tags as they are written: names, attributes with their raw values, and how a tag ends. Reading a
tag checks its form only; what its names and references mean is decided later.
-/
namespace DocReport.Markup

/-- A part of an attribute value: a character, or a reference with the text from its `&` on. -/
inductive ValuePart where
  | character (c : Char)
  | reference (reference : Reference) (here : Text)
  deriving DecidableEq, Repr

/-- An attribute as written, with the text from its name on. -/
structure RawAttribute where
  name : Text
  value : List ValuePart
  here : Text
  deriving DecidableEq, Repr

/-- Reads a name with at most one colon inside; `here` is where the tag begins. -/
def readQualifiedName (here : Text) : Text → Except Fault (Text × Text)
  | [] => .error ⟨.unclosedToken, here⟩
  | c :: r =>
    if isNameStart c then
      let first := c :: r.takeWhile isNameCharacter
      match r.dropWhile isNameCharacter with
      | ':' :: d :: s =>
        if isNameStart d then
          .ok (first ++ ':' :: d :: s.takeWhile isNameCharacter, s.dropWhile isNameCharacter)
        else .error ⟨.invalidToken, d :: s⟩
      | [':'] => .error ⟨.unclosedToken, here⟩
      | rest => .ok (first, rest)
    else .error ⟨.invalidToken, c :: r⟩

theorem readQualifiedName_shorter {here t name rest : Text}
    (read : readQualifiedName here t = .ok (name, rest)) : rest.length < t.length := by
  unfold readQualifiedName at read
  split at read
  · cases read
  · rename_i c r
    have bound := length_dropWhile_le isNameCharacter r
    split at read
    · simp only at read
      split at read
      · rename_i d s same
        have inner := length_dropWhile_le isNameCharacter s
        split at read
        · simp only [Except.ok.injEq, Prod.mk.injEq] at read
          rw [same] at bound
          simp only [List.length_cons] at bound ⊢
          rw [← read.2]
          omega
        · cases read
      · cases read
      · simp only [Except.ok.injEq, Prod.mk.injEq] at read
        rw [← read.2]
        simp only [List.length_cons]
        omega
    · cases read

/-- Reads the value of an attribute up to its closing quote. White space reads as single spaces;
`here` is where the tag begins. -/
def readValue (here : Text) (quote : Char) (t : Text) : Except Fault (List ValuePart × Text) :=
  match t with
  | [] => .error ⟨.unclosedToken, here⟩
  | '\r' :: '\n' :: r => do
    let (parts, rest) ← readValue here quote r
    .ok (.character ' ' :: parts, rest)
  | c :: r =>
    if c = quote then .ok ([], r)
    else if c = '&' then
      match _step : readReference here r with
      | .error fault => .error fault
      | .ok (reference, afterReference) => do
        let (parts, rest) ← readValue here quote afterReference
        .ok (.reference reference (c :: r) :: parts, rest)
    else if c = '<' ∨ isForbidden c then .error ⟨.invalidToken, c :: r⟩
    else do
      let (parts, rest) ← readValue here quote r
      .ok (.character (if isSpace c then ' ' else c) :: parts, rest)
termination_by t.length
decreasing_by
  all_goals simp only [List.length_cons]
  · omega
  · have := readReference_shorter _step
    omega
  · omega

theorem bind_ok {ε α β : Type} {step : Except ε α} {next : α → Except ε β} {value : β}
    (run : (step >>= next) = .ok value) : ∃ x, step = .ok x ∧ next x = .ok value := by
  cases step with
  | error e => cases run
  | ok x => exact ⟨x, rfl, run⟩

theorem readValue_shorter {here t rest : Text} {quote : Char} {parts : List ValuePart}
    (read : readValue here quote t = .ok (parts, rest)) : rest.length < t.length := by
  fun_induction readValue here quote t generalizing parts rest with
  | case1 => cases read
  | case2 r ih =>
    obtain ⟨⟨inner, tail⟩, step, done⟩ := bind_ok read
    have := ih step
    simp only [Except.ok.injEq, Prod.mk.injEq] at done
    simp only [List.length_cons]
    rw [← done.2]
    omega
  | case3 r =>
    simp only [Except.ok.injEq, Prod.mk.injEq] at read
    simp [← read.2]
  | case4 => cases read
  | case5 =>
    rename_i step _ _ ih
    obtain ⟨⟨inner, last⟩, inside, done⟩ := bind_ok read
    have := ih inside
    have := readReference_shorter step
    simp only [Except.ok.injEq, Prod.mk.injEq] at done
    simp only [List.length_cons]
    rw [← done.2]
    omega
  | case6 => cases read
  | case7 c r _ _ _ _ ih =>
    obtain ⟨⟨inner, tail⟩, step, done⟩ := bind_ok read
    have := ih step
    simp only [Except.ok.injEq, Prod.mk.injEq] at done
    simp only [List.length_cons]
    rw [← done.2]
    omega

/-- Reads one attribute: name, equals sign, quoted value. -/
def readAttribute (here t : Text) : Except Fault (RawAttribute × Text) := do
  let (name, afterName) ← readQualifiedName here t
  match afterName.dropWhile isSpace with
  | [] => .error ⟨.unclosedToken, here⟩
  | c :: r =>
    if c ≠ '=' then .error ⟨.invalidToken, c :: r⟩
    else
      match r.dropWhile isSpace with
      | [] => .error ⟨.unclosedToken, here⟩
      | quote :: s =>
        if quote = '"' ∨ quote = '\'' then do
          let (value, rest) ← readValue here quote s
          .ok (⟨name, value, t⟩, rest)
        else .error ⟨.invalidToken, quote :: s⟩

theorem readAttribute_shorter {here t rest : Text} {first : RawAttribute}
    (read : readAttribute here t = .ok (first, rest)) : rest.length < t.length := by
  obtain ⟨⟨name, afterName⟩, named, read⟩ := bind_ok read
  have shorter := readQualifiedName_shorter named
  have gap := length_dropWhile_le isSpace afterName
  simp only at read
  split at read
  · cases read
  · rename_i c r same
    have space := length_dropWhile_le isSpace r
    rw [same] at gap
    simp only [List.length_cons] at gap
    split at read
    · cases read
    · split at read
      · cases read
      · rename_i quote s opened
        rw [opened] at space
        simp only [List.length_cons] at space
        split at read
        · obtain ⟨⟨value, tail⟩, valued, done⟩ := bind_ok read
          have := readValue_shorter valued
          simp only [Except.ok.injEq, Prod.mk.injEq] at done
          rw [← done.2]
          omega
        · cases read

/-- Reads the end of a start tag: `>` or `/>`. Tells whether the element is closed at once. -/
def readTagEnd (here : Text) : Text → Except Fault (Bool × Text)
  | [] => .error ⟨.unclosedToken, here⟩
  | '>' :: r => .ok (false, r)
  | '/' :: '>' :: r => .ok (true, r)
  | ['/'] => .error ⟨.unclosedToken, here⟩
  | '/' :: r => .error ⟨.invalidToken, r⟩
  | t => .error ⟨.invalidToken, t⟩

/-- Reads attributes and the end of a start tag. White space stands before every attribute. -/
def readAttributes (here t : Text) : Except Fault (List RawAttribute × Bool × Text) :=
  match _gap : t.dropWhile isSpace with
  | [] => .error ⟨.unclosedToken, here⟩
  | c :: r =>
    if isNameStart c ∧ t.head?.any isSpace then
      match _step : readAttribute here (c :: r) with
      | .error fault => .error fault
      | .ok (first, afterFirst) => do
        let (others, closed, rest) ← readAttributes here afterFirst
        .ok (first :: others, closed, rest)
    else do
      let (closed, rest) ← readTagEnd here (c :: r)
      .ok ([], closed, rest)
termination_by t.length
decreasing_by
  have first := readAttribute_shorter _step
  have gap := length_dropWhile_le isSpace t
  rw [_gap] at gap
  omega

end DocReport.Markup

import DocReport.Markup.Token

/-!
What may follow the outermost element: white space, comments and instructions. Anything else is
junk if it has the form of something that a document may begin with, and no token otherwise.
-/
namespace DocReport.Markup

/-- The form of a word that is read: a name, a name with a short name before it, or neither. -/
inductive WordForm where
  | name | qualified | other
  deriving DecidableEq, Repr

/-- The form of a word after a colon, with `next` behind it. -/
def WordForm.afterColon (form : WordForm) (next : Text) : WordForm :=
  match form, next with
  | .name, c :: _ => if isNameCharacter c then .qualified else .other
  | _, _ => .other

/-- The fault in a word that begins at `here`, read up to `t`. -/
def wordFault (here : Text) (form : WordForm) : Text → Fault
  | [] => ⟨.junkAfterRoot, here⟩
  | c :: r =>
    if isNameCharacter c then wordFault here form r
    else if c = ':' then
      if form = .name ∧ r = [] then ⟨.unclosedToken, here⟩
      else wordFault here (form.afterColon r) r
    else if isSpace c ∨ c ∈ [ '>', ')', ',', '|', '[', '%'] then ⟨.junkAfterRoot, here⟩
    else if c ∈ [ '+', '*', '?'] ∧ form ≠ .other then ⟨.junkAfterRoot, here⟩
    else ⟨.invalidToken, c :: r⟩

/-- The fault in a quoted text, read behind its opening quote. -/
def literalFault (here : Text) (quote : Char) : Text → Fault
  | [] => ⟨.unclosedToken, here⟩
  | c :: r =>
    if isForbidden c then ⟨.invalidToken, c :: r⟩
    else if c = quote then
      match r with
      | [] => ⟨.junkAfterRoot, here⟩
      | d :: s =>
        if isSpace d ∨ d ∈ [ '>', '%', '['] then ⟨.junkAfterRoot, here⟩ else ⟨.invalidToken, d :: s⟩
    else literalFault here quote r

/-- The fault in a name that a mark introduces and one of `ends` ends; `unended` is what is wrong if the text ends before that. -/
def markedNameFault (here : Text) (ends : Char → Bool) (unended : Reason) : Text → Fault
  | [] => ⟨.unclosedToken, here⟩
  | c :: r =>
    if isNameStart c then
      match r.dropWhile isNameCharacter with
      | [] => ⟨unended, here⟩
      | d :: s => if ends d then ⟨.junkAfterRoot, here⟩ else ⟨.invalidToken, d :: s⟩
    else ⟨.invalidToken, c :: r⟩

/-- Whether a character may be in the word of a declaration. -/
def isDeclarationLetter (c : Char) : Bool :=
  c.isAlpha || c == '_'

/-- The fault in a declaration, read behind its `<!`. -/
def declarationFault (here : Text) : Text → Fault
  | [] => ⟨.unclosedToken, here⟩
  | c :: r =>
    if c = '[' then ⟨.junkAfterRoot, here⟩
    else if isDeclarationLetter c then
      match r.dropWhile isDeclarationLetter with
      | [] => ⟨.unclosedToken, here⟩
      | '%' :: [] => ⟨.unclosedToken, here⟩
      | '%' :: e :: s =>
        if isSpace e ∨ e = '%' then ⟨.invalidToken, '%' :: e :: s⟩ else ⟨.junkAfterRoot, here⟩
      | d :: s => if isSpace d then ⟨.junkAfterRoot, here⟩ else ⟨.invalidToken, d :: s⟩
    else ⟨.invalidToken, c :: r⟩

/-- The fault at something that is neither white space, nor a comment, nor an instruction. -/
def junkFault (c : Char) (r : Text) : Fault :=
  let here := c :: r
  match c, r with
  | '<', [] => ⟨.unclosedToken, here⟩
  | '<', '!' :: s => declarationFault here s
  | '<', d :: s =>
    if d.isAlpha ∨ d = '_' ∨ 0x80 ≤ d.toNat then ⟨.junkAfterRoot, here⟩
    else ⟨.invalidToken, d :: s⟩
  | '"', _ => literalFault here c r
  | '\'', _ => literalFault here c r
  | '%', d :: _ =>
    if isSpace d ∨ d = '%' then ⟨.junkAfterRoot, here⟩
    else markedNameFault here (· == ';') .unclosedToken r
  | '#', _ =>
    markedNameFault here (fun d => isSpace d || [ ')', '>', '%', '|'].contains d) .junkAfterRoot r
  | ']', [] => ⟨.unclosedToken, here⟩
  | ']', [']'] => ⟨.unclosedToken, here⟩
  | ')', [] => ⟨.unclosedToken, here⟩
  | ')', d :: s =>
    if isSpace d ∨ d ∈ [ '*', '?', '+', '>', ',', '|', ')'] then ⟨.junkAfterRoot, here⟩
    else ⟨.invalidToken, d :: s⟩
  | _, _ =>
    if c ∈ [ ',', '[', ']', '(', '|', '>'] then ⟨.junkAfterRoot, here⟩
    else if isNameStart c then wordFault here .name r
    else if isNameCharacter c ∨ c = ':' then wordFault here .other r
    else if c = '%' then ⟨.unclosedToken, here⟩
    else ⟨.invalidToken, here⟩

/-- Reads a comment or an instruction behind its `<`, if one begins there. -/
def readAside (t : Text) : Option (Except Fault Text) :=
  let here := '<' :: t
  match t with
  | '!' :: '-' :: r => some do
    let r ← expectWord here ['-'] r
    skipComment here r
  | '?' :: r => some do
    let (target, rest) ← readInstruction here r
    if isDeclarationTarget target then .error ⟨.junkAfterRoot, here⟩ else .ok rest
  | _ => none

theorem readAside_shorter {t rest : Text} (read : readAside t = some (.ok rest)) :
    rest.length ≤ t.length := by
  unfold readAside at read
  simp only at read
  split at read
  · obtain ⟨opened, word, read⟩ := bind_ok (Option.some.inj read)
    have := expectWord_shorter word
    have := skipComment_shorter read
    simp only [List.length_cons]
    omega
  · obtain ⟨⟨target, tail⟩, instruction, read⟩ := bind_ok (Option.some.inj read)
    have := readInstruction_shorter instruction
    simp only at read
    split at read
    · cases read
    · simp only [Except.ok.injEq] at read
      simp only [List.length_cons]
      rw [← read]
      omega
  · cases read

/-- The first fault behind the outermost element. -/
def epilogueFault? (t : Text) : Option Fault :=
  match t with
  | [] => none
  | c :: r =>
    if isSpace c then epilogueFault? r
    else if c = '<' then
      match _step : readAside r with
      | none => some (junkFault c r)
      | some (.error fault) => some fault
      | some (.ok rest) => epilogueFault? rest
    else some (junkFault c r)
termination_by t.length
decreasing_by
  · simp
  · have := readAside_shorter _step
    simp only [List.length_cons]
    omega

end DocReport.Markup

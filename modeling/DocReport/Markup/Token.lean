import DocReport.Markup.Tag

/-!
Content of an element as a row of tokens: one for each character of text, one for each tag,
section, comment or instruction. The first fault ends the row.
-/
namespace DocReport.Markup

/-- A token of content. A start tag keeps the text from its `<` on, an end tag the text from its
name on and the text behind it. -/
inductive Token where
  | character (c : Char)
  | cdata (value : Text)
  | startTag (name : Text) (attributes : List RawAttribute) (closed : Bool) (here : Text)
  | endTag (name : Text) (here : Text) (rest : Text)
  | ignored
  | broken (fault : Fault)
  deriving DecidableEq, Repr

/-- Reads up to the end of a comment. Two hyphens stand nowhere else in it. -/
def skipComment (here : Text) : Text → Except Fault Text
  | [] => .error ⟨.unclosedToken, here⟩
  | '-' :: '-' :: '>' :: r => .ok r
  | ['-', '-'] => .error ⟨.unclosedToken, here⟩
  | '-' :: '-' :: r => .error ⟨.invalidToken, r⟩
  | c :: r => if isForbidden c then .error ⟨.invalidToken, c :: r⟩ else skipComment here r

/-- Reads up to the end of an instruction. -/
def skipInstruction (here : Text) : Text → Except Fault Text
  | [] => .error ⟨.unclosedToken, here⟩
  | '?' :: '>' :: r => .ok r
  | c :: r => if isForbidden c then .error ⟨.invalidToken, c :: r⟩ else skipInstruction here r

/-- Targets that are kept for declarations, in any case. -/
def isDeclarationTarget (target : Text) : Bool :=
  Text.lowerAscii target == "xml".toList

/-- Reads an instruction behind its `<?`; tells its target. A declaration's target is written in
lower case only. -/
def readInstruction (here : Text) : Text → Except Fault (Text × Text)
  | [] => .error ⟨.unclosedToken, here⟩
  | c :: r =>
    if isNameStart c then
      let target := c :: r.takeWhile isNameCharacter
      match r.dropWhile isNameCharacter with
      | [] => .error ⟨.unclosedToken, here⟩
      | d :: s =>
        if !isSpace d && d != '?' then .error ⟨.invalidToken, d :: s⟩
        else if isDeclarationTarget target && target != "xml".toList then
          .error ⟨.invalidToken, d :: s⟩
        else if isSpace d then do
          let rest ← skipInstruction here s
          .ok (target, rest)
        else
          match s with
          | [] => .error ⟨.unclosedToken, here⟩
          | e :: rest =>
            if e = '>' then .ok (target, rest) else .error ⟨.invalidToken, e :: rest⟩
    else .error ⟨.invalidToken, c :: r⟩

/-- Reads a fixed word. -/
def expectWord (here : Text) : Text → Text → Except Fault Text
  | [], t => .ok t
  | _ :: _, [] => .error ⟨.unclosedToken, here⟩
  | w :: ws, c :: r =>
    if c = w then expectWord here ws r else .error ⟨.invalidToken, c :: r⟩

/-- Reads a section of literal text up to its end. Line ends become line feeds. -/
def readCdata : Text → Except Fault (Text × Text)
  | [] => .error ⟨.unclosedSection, []⟩
  | ']' :: ']' :: '>' :: r => .ok ([], r)
  | '\r' :: '\n' :: r => do
    let (value, rest) ← readCdata r
    .ok ('\n' :: value, rest)
  | c :: r =>
    if isForbidden c then .error ⟨.invalidToken, c :: r⟩
    else do
      let (value, rest) ← readCdata r
      .ok ((if c = '\r' then '\n' else c) :: value, rest)

/-- Reads an end tag behind its `</`. Its name may hold any number of colons; it has to equal the
name of the start tag anyway. -/
def readEndTag (here : Text) : Text → Except Fault (Text × Text)
  | [] => .error ⟨.unclosedToken, here⟩
  | c :: r =>
    if isNameStart c then
      let isPart := fun d => isNameCharacter d || d == ':'
      match (r.dropWhile isPart).dropWhile isSpace with
      | [] => .error ⟨.unclosedToken, here⟩
      | d :: rest =>
        if d = '>' then .ok (c :: r.takeWhile isPart, rest) else .error ⟨.invalidToken, d :: rest⟩
    else .error ⟨.invalidToken, c :: r⟩

/-- Reads what a `<` begins. -/
def readMarkup (t : Text) : Except Fault (Token × Text) :=
  let here := '<' :: t
  match t with
  | '!' :: '-' :: r => do
    let r ← expectWord here ['-'] r
    let rest ← skipComment here r
    .ok (.ignored, rest)
  | '!' :: '[' :: r => do
    let r ← expectWord here "CDATA[".toList r
    let (value, rest) ← readCdata r
    .ok (.cdata value, rest)
  | '!' :: c :: r => .error ⟨.invalidToken, c :: r⟩
  | '?' :: r => do
    let (target, rest) ← readInstruction here r
    if isDeclarationTarget target then .error ⟨.misplacedDeclaration, here⟩
    else .ok (.ignored, rest)
  | '/' :: r => do
    let (name, rest) ← readEndTag here r
    .ok (.endTag name r rest, rest)
  | r => do
    let (name, r) ← readQualifiedName here r
    let (attributes, closed, rest) ← readAttributes here r
    .ok (.startTag name attributes closed here, rest)

/-- Reads the token that begins with `c`. Line ends become line feeds, and `]]>` stands nowhere in
text. -/
def readToken (c : Char) (r : Text) : Except Fault (Token × Text) :=
  if c = '<' then readMarkup r
  else if c = '&' then do
    let (reference, rest) ← readReference (c :: r) r
    match reference.character with
    | .ok d => .ok (.character d, rest)
    | .error reason => .error ⟨reason, c :: r⟩
  else if c = '\r' then .ok (.character '\n', if r.head? = some '\n' then r.tail else r)
  else if c = ']' ∧ r.take 2 = [']', '>'] then .error ⟨.invalidToken, r.tail⟩
  else if isForbidden c then .error ⟨.invalidToken, c :: r⟩
  else .ok (.character c, r)

theorem skipComment_shorter {here t rest : Text} (read : skipComment here t = .ok rest) :
    rest.length ≤ t.length := by
  fun_induction skipComment here t with
  | case1 => cases read
  | case2 r =>
    simp only [Except.ok.injEq] at read
    simp only [List.length_cons, read]
    omega
  | case3 => cases read
  | case4 => cases read
  | case5 => cases read
  | case6 =>
    rename_i ih
    have := ih read
    simp only [List.length_cons]
    omega

theorem skipInstruction_shorter {here t rest : Text} (read : skipInstruction here t = .ok rest) :
    rest.length ≤ t.length := by
  fun_induction skipInstruction here t with
  | case1 => cases read
  | case2 r =>
    simp only [Except.ok.injEq] at read
    simp only [List.length_cons, read]
    omega
  | case3 => cases read
  | case4 =>
    rename_i ih
    have := ih read
    simp only [List.length_cons]
    omega

theorem readInstruction_shorter {here t target rest : Text}
    (read : readInstruction here t = .ok (target, rest)) : rest.length ≤ t.length := by
  unfold readInstruction at read
  split at read
  · cases read
  · rename_i c r
    have bound := length_dropWhile_le isNameCharacter r
    split at read
    · simp only at read
      split at read
      · cases read
      · rename_i d s same
        rw [same] at bound
        simp only [List.length_cons] at bound ⊢
        split at read
        · cases read
        · split at read
          · cases read
          · split at read
            · obtain ⟨tail, skipped, done⟩ := bind_ok read
              have := skipInstruction_shorter skipped
              simp only [Except.ok.injEq, Prod.mk.injEq] at done
              rw [← done.2]
              omega
            · split at read
              · cases read
              · split at read
                · simp only [Except.ok.injEq, Prod.mk.injEq] at read
                  simp only [List.length_cons] at bound
                  rw [← read.2]
                  omega
                · cases read
    · cases read

theorem expectWord_shorter {here word t rest : Text} (read : expectWord here word t = .ok rest) :
    rest.length ≤ t.length := by
  fun_induction expectWord here word t with
  | case1 =>
    simp only [Except.ok.injEq] at read
    simp [read]
  | case2 => cases read
  | case3 =>
    rename_i ih
    have := ih read
    simp only [List.length_cons]
    omega
  | case4 => cases read

theorem readCdata_shorter {t value rest : Text} (read : readCdata t = .ok (value, rest)) :
    rest.length ≤ t.length := by
  fun_induction readCdata t generalizing value rest with
  | case1 => cases read
  | case2 r =>
    simp only [Except.ok.injEq, Prod.mk.injEq] at read
    simp only [List.length_cons, ← read.2]
    omega
  | case3 r ih =>
    obtain ⟨⟨inner, tail⟩, step, done⟩ := bind_ok read
    have := ih step
    simp only [Except.ok.injEq, Prod.mk.injEq] at done
    simp only [List.length_cons]
    rw [← done.2]
    omega
  | case4 => cases read
  | case5 =>
    rename_i ih
    obtain ⟨⟨inner, tail⟩, step, done⟩ := bind_ok read
    have := ih step
    simp only [Except.ok.injEq, Prod.mk.injEq] at done
    simp only [List.length_cons]
    rw [← done.2]
    omega

theorem readEndTag_shorter {here t name rest : Text}
    (read : readEndTag here t = .ok (name, rest)) : rest.length ≤ t.length := by
  unfold readEndTag at read
  split at read
  · cases read
  · rename_i c r
    split at read
    · simp only at read
      split at read
      · cases read
      · rename_i d tail same
        have outer := length_dropWhile_le isSpace
          (r.dropWhile fun d => isNameCharacter d || d == ':')
        have inner := length_dropWhile_le (fun d => isNameCharacter d || d == ':') r
        rw [same] at outer
        simp only [List.length_cons] at outer ⊢
        split at read
        · simp only [Except.ok.injEq, Prod.mk.injEq] at read
          rw [← read.2]
          omega
        · cases read
    · cases read

theorem readTagEnd_shorter {here t rest : Text} {closed : Bool}
    (read : readTagEnd here t = .ok (closed, rest)) : rest.length ≤ t.length := by
  unfold readTagEnd at read
  split at read <;> simp_all
  omega

theorem readAttributes_shorter {here t rest : Text} {attributes : List RawAttribute} {closed : Bool}
    (read : readAttributes here t = .ok (attributes, closed, rest)) : rest.length ≤ t.length := by
  fun_induction readAttributes here t generalizing attributes closed rest with
  | case1 => cases read
  | case2 => cases read
  | case3 t c r gap _ first tail step ih =>
    have bound := length_dropWhile_le isSpace t
    rw [gap] at bound
    obtain ⟨⟨others, ended, last⟩, inside, done⟩ := bind_ok read
    have := ih inside
    have := readAttribute_shorter step
    simp only [Except.ok.injEq, Prod.mk.injEq] at done
    rw [← done.2.2]
    omega
  | case4 t c r gap _ =>
    have bound := length_dropWhile_le isSpace t
    rw [gap] at bound
    obtain ⟨⟨ended, last⟩, inside, done⟩ := bind_ok read
    have := readTagEnd_shorter inside
    simp only [Except.ok.injEq, Prod.mk.injEq] at done
    rw [← done.2.2]
    omega

theorem readMarkup_shorter {t rest : Text} {token : Token}
    (read : readMarkup t = .ok (token, rest)) : rest.length ≤ t.length := by
  unfold readMarkup at read
  split at read
  · obtain ⟨opened, word, read⟩ := bind_ok read
    obtain ⟨tail, skipped, done⟩ := bind_ok read
    have := expectWord_shorter word
    have := skipComment_shorter skipped
    simp only [Except.ok.injEq, Prod.mk.injEq] at done
    simp only [List.length_cons]
    rw [← done.2]
    omega
  · obtain ⟨opened, word, read⟩ := bind_ok read
    obtain ⟨⟨value, tail⟩, valued, done⟩ := bind_ok read
    have := expectWord_shorter word
    have := readCdata_shorter valued
    simp only [Except.ok.injEq, Prod.mk.injEq] at done
    simp only [List.length_cons]
    rw [← done.2]
    omega
  · cases read
  · obtain ⟨⟨target, tail⟩, instruction, read⟩ := bind_ok read
    have := readInstruction_shorter instruction
    simp only at read
    split at read
    · cases read
    · simp only [Except.ok.injEq, Prod.mk.injEq] at read
      simp only [List.length_cons]
      rw [← read.2]
      omega
  · obtain ⟨⟨name, tail⟩, ended, done⟩ := bind_ok read
    have := readEndTag_shorter ended
    simp only [Except.ok.injEq, Prod.mk.injEq] at done
    simp only [List.length_cons]
    rw [← done.2]
    omega
  · obtain ⟨⟨name, opened⟩, named, read⟩ := bind_ok read
    obtain ⟨⟨attributes, closed, tail⟩, listed, done⟩ := bind_ok read
    have := readQualifiedName_shorter named
    have := readAttributes_shorter listed
    simp only [Except.ok.injEq, Prod.mk.injEq] at done
    rw [← done.2]
    omega

theorem readToken_shorter {c : Char} {r rest : Text} {token : Token}
    (read : readToken c r = .ok (token, rest)) : rest.length ≤ r.length := by
  unfold readToken at read
  split at read
  · exact readMarkup_shorter read
  · split at read
    · obtain ⟨⟨reference, tail⟩, referred, read⟩ := bind_ok read
      have := readReference_shorter referred
      simp only at read
      split at read
      · simp only [Except.ok.injEq, Prod.mk.injEq] at read
        rw [← read.2]
        omega
      · cases read
    · split at read
      · simp only [Except.ok.injEq, Prod.mk.injEq] at read
        rw [← read.2]
        split
        · simp
        · exact Nat.le_refl _
      · split at read
        · cases read
        · split at read
          · cases read
          · simp only [Except.ok.injEq, Prod.mk.injEq] at read
            simp [read.2]

/-- The tokens of content, up to the first fault. -/
def scan (t : Text) : List Token :=
  match t with
  | [] => []
  | c :: r =>
    match _step : readToken c r with
    | .error fault => [.broken fault]
    | .ok (token, rest) => token :: scan rest
termination_by t.length
decreasing_by
  have := readToken_shorter _step
  simp only [List.length_cons]
  omega

end DocReport.Markup

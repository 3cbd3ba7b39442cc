import DocReport.Proofs.Source.ScopeChain
import DocReport.Proofs.Text.Dedent

/-!
Documentation does not depend on how it is commented. Line comments and block comments are passed
over by the lexer as wholes, and their marks are cleared in different ways; what is left differs by
indentation before every line and by blank lines around the text, and neither is seen in the end.
-/
namespace DocReport.Source

/-- Line ends of a source. -/
inductive LineEnd where
  | feed | returnFeed
  deriving DecidableEq, Repr

def LineEnd.text : LineEnd → Text
  | .feed => ['\n']
  | .returnFeed => ['\r', '\n']

/-- The two forms of documentation comments. -/
inductive CommentStyle where
  | lineComments | blockComment
  deriving DecidableEq, Repr

/-- A line comment of documentation. -/
def lineComment (indent line : Text) : Text :=
  ['/', '/', '/'] ++ indent ++ line

/-- The lines of a block comment behind its opening, each with an asterisk of its own. -/
def blockRows (ending : LineEnd) (margin indent : Text) (lines : List Text) : Text :=
  lines.flatMap fun line => margin ++ ['*'] ++ indent ++ line ++ ending.text

/-- A block comment of documentation, without its opening and its end. -/
def blockBody (ending : LineEnd) (margin indent : Text) (lines : List Text) : Text :=
  ['*'] ++ ending.text ++ blockRows ending margin indent lines ++ margin

/-- Documentation as it is written in a source. Line comments stand behind `margin`, and so do the
asterisks of a block comment; `indent` stands before each line of the documentation itself. -/
def CommentStyle.write (style : CommentStyle) (ending : LineEnd) (margin indent : Text)
    (lines : List Text) : Text :=
  match style with
  | .lineComments => lines.flatMap fun line => margin ++ lineComment indent line ++ ending.text
  | .blockComment => ['/', '*'] ++ blockBody ending margin indent lines ++ ['*', '/']

/-- The comments that documentation is written as. -/
def CommentStyle.comments (style : CommentStyle) (ending : LineEnd) (margin indent : Text)
    (lines : List Text) : List Text :=
  match style with
  | .lineComments => lines.map (lineComment indent)
  | .blockComment => [['/', '*'] ++ blockBody ending margin indent lines ++ ['*', '/']]

/-- A line that can stand in a comment of either style: on one line, without an end of a block
comment in it, and not making more of the marks before it. -/
def IsCommentable (line : Text) : Prop :=
  '\r' ∉ line ∧ '\n' ∉ line ∧ Text.contains ['*', '/'] line = false ∧ line.head? ≠ some '/'

instance (line : Text) : Decidable (IsCommentable line) :=
  inferInstanceAs (Decidable (_ ∧ _))

/-! ### Comments that the lexer passes -/

/-- The comments among lexemes. -/
def commentTexts (ls : List Lexeme) : List Text :=
  (ls.filter (·.form == .comment)).map (·.text)

/-- The lexer passes the given comments, and white space around them, to the rest of a text. -/
def Passes (s : Text) (comments : List Text) (rest : Text) : Prop :=
  ∃ lead, lexemes s = lead ++ lexemes rest ∧
    (∀ l ∈ lead, l.form = .blank ∨ l.form = .comment) ∧ commentTexts lead = comments

theorem Passes.refl (s : Text) : Passes s [] s :=
  ⟨[], rfl, by simp, rfl⟩

theorem Passes.trans {s middle rest : Text} {first second : List Text}
    (before : Passes s first middle) (behind : Passes middle second rest) :
    Passes s (first ++ second) rest := by
  obtain ⟨lead, whole, forms, rfl⟩ := before
  obtain ⟨more, whole', forms', rfl⟩ := behind
  refine ⟨lead ++ more, ?_, ?_, ?_⟩
  · rw [whole, whole', List.append_assoc]
  · intro l member
    rcases List.mem_append.1 member with own | later
    · exact forms l own
    · exact forms' l later
  · simp [commentTexts]

/-- One lexeme is passed. -/
theorem passes_lexeme {c : Char} {taken rest : Text} {form : Form}
    (found : classify c (taken ++ rest) = (form, taken.length + 1))
    (passed : form = .blank ∨ form = .comment) :
    Passes (c :: taken ++ rest) (commentTexts [⟨form, c :: taken⟩]) rest := by
  refine ⟨[⟨form, c :: taken⟩], ?_, by simpa using passed, rfl⟩
  rw [List.cons_append, lexemes, found]
  simp

theorem passes_gap {gap rest : Text} (white : ∀ c ∈ gap, isWhite c = true)
    (stops : ∀ c, rest.head? = some c → isWhite c = false) : Passes (gap ++ rest) [] rest := by
  cases gap with
  | nil => exact Passes.refl rest
  | cons c taken =>
    have run : (taken ++ rest).takeWhile isWhite = taken :=
      Text.takeWhile_append_stop (fun d member => white d (List.mem_cons_of_mem _ member)) stops
    refine @passes_lexeme c taken rest .blank ?_ (Or.inl rfl)
    rw [classify, if_pos (white c List.mem_cons_self), run]

theorem passes_lineComment {body rest : Text} (single : '\r' ∉ body ∧ '\n' ∉ body)
    (stops : ∀ c, rest.head? = some c → c = '\r' ∨ c = '\n') :
    Passes (['/', '/'] ++ body ++ rest) [['/', '/'] ++ body] rest := by
  have run : ('/' :: body ++ rest).takeWhile (fun d => d != '\n' && d != '\r') = '/' :: body := by
    refine Text.takeWhile_append_stop (fun d member => ?_) (fun d first => ?_)
    · rcases List.mem_cons.1 member with rfl | inside
      · rfl
      · have feed : d ≠ '\n' := by
          rintro rfl
          exact single.2 inside
        have back : d ≠ '\r' := by
          rintro rfl
          exact single.1 inside
        simp [feed, back]
    · rcases stops d first with rfl | rfl <;> rfl
  refine @passes_lexeme '/' ('/' :: body) rest .comment ?_ (Or.inr rfl)
  have opens : opened? ('/' :: '/' :: (body ++ rest)) = some (.lineComment, 1) := rfl
  rw [classify, if_neg (by decide), if_neg (by decide), List.cons_append, opens]
  simp only
  rw [← List.cons_append, run]

/-- A block comment reaches to its first end. -/
theorem reach_blockComment {body : Text} (unclosed : Text.contains ['*', '/'] body = false)
    (rest : Text) : reach [.blockComment] 0 (body ++ '*' :: '/' :: rest) = body.length + 2 := by
  induction body with
  | nil =>
    have closed : reach [] 0 rest = 0 := by cases rest <;> rfl
    simp [reach, step, closed]
  | cons c body ih =>
    rw [Text.contains, Bool.or_eq_false_iff] at unclosed
    have inside : ¬ (c = '*' ∧ (body ++ '*' :: '/' :: rest).head? = some '/') := by
      rintro ⟨rfl, slash⟩
      cases body with
      | nil => cases slash
      | cons d body =>
        rw [List.cons_append, List.head?_cons, Option.some_inj] at slash
        subst slash
        simp at unclosed
    rw [List.cons_append, reach]
    simp only [step]
    rw [if_neg inside, ih unclosed.2, List.length_cons]

theorem passes_blockComment {body : Text} (unclosed : Text.contains ['*', '/'] body = false)
    (rest : Text) :
    Passes (['/', '*'] ++ body ++ ['*', '/'] ++ rest) [['/', '*'] ++ body ++ ['*', '/']] rest := by
  have reached : lengthIn .blockComment 1 ('*' :: (body ++ ['*', '/']) ++ rest) =
      ('*' :: (body ++ ['*', '/'])).length := by
    have inner := reach_blockComment unclosed rest
    rw [lengthIn, List.cons_append, reach, List.append_assoc]
    simp only [List.cons_append, List.nil_append, inner, List.length_cons, List.length_append,
      List.length_nil]
  have opens : opened? ('/' :: ('*' :: (body ++ ['*', '/']) ++ rest)) = some (.blockComment, 1) :=
    rfl
  have found : classify '/' ('*' :: (body ++ ['*', '/']) ++ rest) =
      (.comment, ('*' :: (body ++ ['*', '/'])).length + 1) := by
    rw [classify, if_neg (by decide), if_neg (by decide), opens]
    simp only
    rw [reached]
  simpa [commentTexts] using passes_lexeme found (Or.inr rfl)

/-! ### Written documentation is passed -/

theorem isWhite_of_isIndent {c : Char} (indents : Text.isIndent c = true) : isWhite c = true := by
  rw [Text.isIndent, Bool.or_eq_true, beq_iff_eq, beq_iff_eq] at indents
  rcases indents with rfl | rfl <;> decide

theorem isBlank_of_isIndent {c : Char} (indents : Text.isIndent c = true) :
    Text.isBlank c = true := by
  rw [Text.isIndent, Bool.or_eq_true, beq_iff_eq, beq_iff_eq] at indents
  rcases indents with rfl | rfl <;> decide

theorem not_mem_of_indent {t : Text} {c : Char} (white : t.all Text.isIndent = true)
    (other : Text.isIndent c = false) : c ∉ t := by
  intro member
  rw [List.all_eq_true.1 white c member] at other
  cases other

theorem LineEnd.white (ending : LineEnd) : ∀ c ∈ ending.text, isWhite c = true := by
  cases ending <;> simp [LineEnd.text, isWhite, Text.isBlank]

theorem LineEnd.head (ending : LineEnd) (rest : Text) :
    ∃ c, (ending.text ++ rest).head? = some c ∧ (c = '\r' ∨ c = '\n') := by
  cases ending with
  | feed => exact ⟨'\n', rfl, Or.inr rfl⟩
  | returnFeed => exact ⟨'\r', rfl, Or.inl rfl⟩

/-- A text that a block comment can hold at any place: it has no end of the comment in it, and does
not complete one that began before it. -/
def IsOpen (t : Text) : Prop :=
  Text.contains ['*', '/'] t = false ∧ t.head? ≠ some '/'

theorem isOpen_of_not_mem {t : Text} (star : '*' ∉ t) (slash : '/' ∉ t) : IsOpen t := by
  refine ⟨?_, fun first => slash (List.mem_of_head? first)⟩
  clear slash
  induction t with
  | nil => rfl
  | cons c rest ih =>
    rw [List.mem_cons, not_or] at star
    rw [Text.contains, ih star.2]
    simp [List.isPrefixOf, star.1]

theorem contains_append {s t : Text} (first : Text.contains ['*', '/'] s = false)
    (second : IsOpen t) : Text.contains ['*', '/'] (s ++ t) = false := by
  induction s with
  | nil => exact second.1
  | cons c rest ih =>
    rw [Text.contains, Bool.or_eq_false_iff] at first
    rw [List.cons_append, Text.contains, ih first.2, Bool.or_false]
    cases rest with
    | nil =>
      cases t with
      | nil => simp [List.isPrefixOf]
      | cons d t =>
        have other : '/' ≠ d := by
          rintro rfl
          exact second.2 rfl
        simp [List.isPrefixOf, other]
    | cons d rest => simpa [List.isPrefixOf] using first.1

theorem IsOpen.append {s t : Text} (first : IsOpen s) (second : IsOpen t) : IsOpen (s ++ t) := by
  refine ⟨contains_append first.1 second, ?_⟩
  cases s with
  | nil => exact second.2
  | cons c rest => exact first.2

theorem isOpen_of_indent {t : Text} (white : t.all Text.isIndent = true) : IsOpen t :=
  isOpen_of_not_mem (not_mem_of_indent white (by decide)) (not_mem_of_indent white (by decide))

theorem isOpen_lineEnd (ending : LineEnd) : IsOpen ending.text := by
  cases ending <;> exact isOpen_of_not_mem (by decide) (by decide)

section Written

variable (ending : LineEnd) {margin indent : Text} {lines : List Text}
  (margins : margin.all Text.isIndent = true) (indents : indent.all Text.isIndent = true)
  (plain : ∀ line ∈ lines, IsCommentable line)

include margins indents plain

theorem isOpen_blockBody : IsOpen (blockBody ending margin indent lines) := by
  have star : IsOpen ['*'] := ⟨by decide, by decide⟩
  have rows : IsOpen (blockRows ending margin indent lines) := by
    induction lines with
    | nil => exact ⟨rfl, by simp [blockRows]⟩
    | cons line lines ih =>
      have own := plain line List.mem_cons_self
      have others := ih fun other member => plain other (List.mem_cons_of_mem _ member)
      have row : IsOpen (margin ++ ['*'] ++ indent ++ line ++ ending.text) :=
        ((((isOpen_of_indent margins).append star).append (isOpen_of_indent indents)).append
          own.2.2).append (isOpen_lineEnd ending)
      exact row.append others
  exact ((star.append (isOpen_lineEnd ending)).append rows).append (isOpen_of_indent margins)

/-- Line comments are passed one by one. The white space behind each goes with what stands before
the next, so what is behind the last one stays. -/
theorem passes_lineComments (gap rest : Text) (white : ∀ c ∈ gap, isWhite c = true) :
    ∃ behind, (∀ c ∈ behind, isWhite c = true) ∧
      Passes (gap ++ CommentStyle.lineComments.write ending margin indent lines ++ rest)
        (lines.map (lineComment indent)) (behind ++ rest) := by
  induction lines generalizing gap with
  | nil => exact ⟨gap, white, by simpa [CommentStyle.write] using Passes.refl (gap ++ rest)⟩
  | cons line lines ih =>
    obtain ⟨back, feed, -, -⟩ := plain line List.mem_cons_self
    have others := fun other member => plain other (List.mem_cons_of_mem _ member)
    obtain ⟨behind, white', later⟩ := ih others ending.text ending.white
    obtain ⟨c, first, ends⟩ :=
      ending.head (CommentStyle.lineComments.write ending margin indent lines ++ rest)
    have before : ∀ d ∈ gap ++ margin, isWhite d = true := by
      intro d member
      rcases List.mem_append.1 member with own | indented
      · exact white d own
      · exact isWhite_of_isIndent (List.all_eq_true.1 margins d indented)
    have single : '\r' ∉ '/' :: (indent ++ line) ∧ '\n' ∉ '/' :: (indent ++ line) := by
      have back' : '\r' ∉ indent := not_mem_of_indent indents (by decide)
      have feed' : '\n' ∉ indent := not_mem_of_indent indents (by decide)
      simp [back, feed, back', feed']
    obtain ⟨next, shape⟩ : ∃ next, next =
        ending.text ++ CommentStyle.lineComments.write ending margin indent lines ++ rest := ⟨_, rfl⟩
    rw [← shape] at later
    have stops : ∀ d, next.head? = some d → d = '\r' ∨ d = '\n' := by
      intro d head
      rw [shape, List.append_assoc, first] at head
      exact Option.some.inj head ▸ ends
    have comment := passes_lineComment single stops
    have reached : Passes (gap ++ margin ++ (['/', '/'] ++ '/' :: (indent ++ line) ++ next)) []
        (['/', '/'] ++ '/' :: (indent ++ line) ++ next) := by
      refine passes_gap before fun d head => ?_
      cases head
      rfl
    refine ⟨behind, white', ?_⟩
    have all := reached.trans (comment.trans later)
    simpa [CommentStyle.write, lineComment, shape] using all

theorem passes_write (style : CommentStyle) {gap code : Text} (white : gap.all isWhite = true)
    (stops : ∀ c, code.head? = some c → isWhite c = false) :
    Passes (style.write ending margin indent lines ++ gap ++ code)
      (style.comments ending margin indent lines) code := by
  have own := List.all_eq_true.1 white
  cases style with
  | lineComments =>
    obtain ⟨behind, white', passed⟩ :=
      passes_lineComments ending margins indents plain [] (gap ++ code) (by simp)
    have rest : Passes (behind ++ gap ++ code) [] code := by
      refine passes_gap (fun c member => ?_) stops
      rcases List.mem_append.1 member with early | late
      · exact white' c early
      · exact own c late
    have all := passed.trans (by simpa using rest)
    simpa [CommentStyle.comments] using all
  | blockComment =>
    have body := (isOpen_blockBody ending margins indents plain).1
    have passed := passes_blockComment body (gap ++ code)
    have all := passed.trans (passes_gap own stops)
    simpa [CommentStyle.write, CommentStyle.comments] using all

end Written

/-! ### Comments are cleared of their marks -/

section Clearing

variable {ending : LineEnd} {margin indent line : Text} {lines : List Text}

theorem dropTail_return {t : Text} (absent : '\r' ∉ t) : Text.dropTail (· == '\r') t = t := by
  refine Text.dropTail_eq_self fun c member => ?_
  rw [beq_eq_false_iff_ne]
  rintro rfl
  exact absent member

theorem documentationLines?_lineComment (indents : indent.all Text.isIndent = true)
    (own : IsCommentable line) :
    documentationLines? (lineComment indent line) = some [indent ++ line] := by
  have kept : Text.dropTail (· == '\r') (lineComment indent line) = lineComment indent line := by
    have before : '\r' ∉ indent := not_mem_of_indent indents (by decide)
    exact dropTail_return (by simp [lineComment, own.1, before])
  have slash : (indent ++ line).head? ≠ some '/' :=
    ((isOpen_of_indent indents).append own.2.2).2
  have four : hasStart "////".toList (lineComment indent line) = false := by
    change ['/'].isPrefixOf (indent ++ line) = false
    cases whole : indent ++ line with
    | nil => rfl
    | cons c rest =>
      rw [whole] at slash
      have other : '/' ≠ c := by
        rintro rfl
        exact slash rfl
      simp [List.isPrefixOf, other]
  have three : hasStart "///".toList (lineComment indent line) = true := rfl
  simp only [documentationLines?, kept, three, four]
  rfl

theorem lines_of_rows {rows : List Text} (single : ∀ row ∈ rows, '\n' ∉ row) {last : Text}
    (single' : '\n' ∉ last) :
    Text.lines (rows.flatMap (· ++ ['\n']) ++ last) = rows ++ [last] := by
  unfold Text.lines
  induction rows with
  | nil => exact Text.cutAll_of_not_mem single'
  | cons row rows ih =>
    have own := single row List.mem_cons_self
    have others := ih fun other member => single other (List.mem_cons_of_mem _ member)
    have shape : (row :: rows).flatMap (· ++ ['\n']) ++ last =
        row ++ '\n' :: (rows.flatMap (· ++ ['\n']) ++ last) := by
      simp
    rw [shape, Text.cutAll_append own, others]
    rfl

/-- A line of a block comment behind its asterisk. -/
theorem blockLine_row (margins : margin.all Text.isIndent = true) (content : Text) :
    blockLine (margin ++ '*' :: content) = content := by
  have gap : Text.IsGap margin := fun c member =>
    isBlank_of_isIndent (List.all_eq_true.1 margins c member)
  have front : Text.trimStart (margin ++ '*' :: content) = '*' :: content := by
    rw [Text.trimStart_gap_append gap]
    rfl
  rw [blockLine, front]
  rfl

theorem blockLine_blank (margins : margin.all Text.isIndent = true) :
    blockLine margin = margin := by
  have gap : Text.IsGap margin := fun c member =>
    isBlank_of_isIndent (List.all_eq_true.1 margins c member)
  have nothing : Text.trimStart margin = [] := by
    have whole := Text.trimStart_gap_append gap []
    rwa [List.append_nil] at whole
  rw [blockLine, nothing]

/-- Without returns, a block comment ends its lines by line feeds only. -/
theorem filter_blockRows (margins : margin.all Text.isIndent = true)
    (indents : indent.all Text.isIndent = true) (plain : ∀ line ∈ lines, IsCommentable line) :
    (ending.text ++ blockRows ending margin indent lines ++ margin).filter (· != '\r') =
      ([] :: lines.map fun line => margin ++ '*' :: (indent ++ line)).flatMap (· ++ ['\n']) ++
        margin := by
  have before : margin.filter (· != '\r') = margin :=
    List.filter_eq_self.2 (Text.bne_of_not_mem (not_mem_of_indent margins (by decide)))
  have inside : indent.filter (· != '\r') = indent :=
    List.filter_eq_self.2 (Text.bne_of_not_mem (not_mem_of_indent indents (by decide)))
  have feed : ending.text.filter (· != '\r') = ['\n'] := by cases ending <;> rfl
  have rows : (blockRows ending margin indent lines).filter (· != '\r') =
      (lines.map fun line => margin ++ '*' :: (indent ++ line)).flatMap (· ++ ['\n']) := by
    rw [blockRows, List.filter_flatMap, List.flatMap_map]
    refine List.flatMap_congr fun line member => ?_
    have own : line.filter (· != '\r') = line :=
      List.filter_eq_self.2 (Text.bne_of_not_mem (plain line member).1)
    simp only [List.filter_append, before, inside, own, feed]
    simp
  rw [List.filter_append, List.filter_append, feed, rows, before]
  rfl

theorem blockLines_rows (margins : margin.all Text.isIndent = true)
    (indents : indent.all Text.isIndent = true) (plain : ∀ line ∈ lines, IsCommentable line) :
    blockLines (ending.text ++ blockRows ending margin indent lines ++ margin ++ ['*', '/']) =
      [] :: lines.map (indent ++ ·) ++ [margin] := by
  have closed : "*/".toList.isSuffixOf
      (ending.text ++ blockRows ending margin indent lines ++ margin ++ ['*', '/']) = true :=
    List.isSuffixOf_iff_suffix.2 (List.suffix_append _ _)
  have feed : '\n' ∉ margin := not_mem_of_indent margins (by decide)
  have feed' : '\n' ∉ indent := not_mem_of_indent indents (by decide)
  have single : ∀ row ∈ [] :: lines.map (fun line => margin ++ '*' :: (indent ++ line)),
      '\n' ∉ row := by
    intro row member
    rcases List.mem_cons.1 member with rfl | written
    · exact List.not_mem_nil
    · obtain ⟨line, listed, rfl⟩ := List.mem_map.1 written
      simp [feed, feed', (plain line listed).2.1]
  have rows : (lines.map fun line => margin ++ '*' :: (indent ++ line)).map blockLine =
      lines.map (indent ++ ·) := by
    rw [List.map_map]
    exact List.map_congr_left fun line _ => blockLine_row margins (indent ++ line)
  rw [blockLines, if_pos closed]
  have inner : (ending.text ++ blockRows ending margin indent lines ++ margin ++ ['*', '/']).take
      ((ending.text ++ blockRows ending margin indent lines ++ margin ++ ['*', '/']).length - 2) =
      ending.text ++ blockRows ending margin indent lines ++ margin := by
    rw [List.length_append]
    exact List.take_left
  simp only [inner]
  rw [filter_blockRows margins indents plain, lines_of_rows single feed, List.map_append,
    List.map_cons, List.map_singleton, rows, blockLine_blank margins]
  rfl

/-- A block comment whose first line holds its opening only is documentation. -/
theorem documentationLines?_opened (ending : LineEnd) (body : Text) :
    documentationLines? (['/', '*', '*'] ++ (ending.text ++ body ++ ['*', '/'])) =
      some (blockLines (ending.text ++ body ++ ['*', '/'])) := by
  have kept : Text.dropTail (· == '\r') (['/', '*', '*'] ++ (ending.text ++ body ++ ['*', '/'])) =
      ['/', '*', '*'] ++ (ending.text ++ body ++ ['*', '/']) := by
    simp [Text.dropTail]
  have noLine : hasStart "///".toList
      (['/', '*', '*'] ++ (ending.text ++ body ++ ['*', '/'])) = false := rfl
  have opened : hasStart "/**".toList
      (['/', '*', '*'] ++ (ending.text ++ body ++ ['*', '/'])) = true := rfl
  have notEmpty : hasStart "/**/".toList
      (['/', '*', '*'] ++ (ending.text ++ body ++ ['*', '/'])) = false := by
    cases ending <;> rfl
  simp only [documentationLines?, kept, noLine, opened, notEmpty]
  rfl

/-- The lines of a block comment: an empty one behind its opening, the documentation, and what
stands before its end. -/
theorem documentationLines?_blockComment (margins : margin.all Text.isIndent = true)
    (indents : indent.all Text.isIndent = true) (plain : ∀ line ∈ lines, IsCommentable line) :
    documentationLines? (['/', '*'] ++ blockBody ending margin indent lines ++ ['*', '/']) =
      some ([] :: lines.map (indent ++ ·) ++ [margin]) := by
  have shape : ['/', '*'] ++ blockBody ending margin indent lines ++ ['*', '/'] =
      ['/', '*', '*'] ++
        (ending.text ++ (blockRows ending margin indent lines ++ margin) ++ ['*', '/']) := by
    simp [blockBody]
  rw [shape, documentationLines?_opened, ← List.append_assoc ending.text,
    blockLines_rows margins indents plain]

theorem documentation?_of_lines {comments : List Text} {parts : List (List Text)}
    (found : comments.filterMap documentationLines? = parts) (nonempty : parts ≠ []) :
    documentation? comments = some (Text.trim (Text.dedent (Text.unlines parts.flatten))) := by
  rw [documentation?, found]
  cases parts with
  | nil => exact absurd rfl nonempty
  | cons first others => rfl

theorem documentationLines?_lineComments (indents : indent.all Text.isIndent = true)
    (plain : ∀ line ∈ lines, IsCommentable line) :
    (lines.map (lineComment indent)).filterMap documentationLines? =
      lines.map fun line => [indent ++ line] := by
  induction lines with
  | nil => rfl
  | cons line lines ih =>
    have own := documentationLines?_lineComment indents (plain line List.mem_cons_self)
    have others := ih fun other member => plain other (List.mem_cons_of_mem _ member)
    rw [List.map_cons, List.filterMap_cons_some own, others, List.map_cons]

/-- Whatever the style, the comments hold the same documentation. -/
theorem documentation?_comments (style : CommentStyle) (nonempty : lines ≠ [])
    (margins : margin.all Text.isIndent = true) (indents : indent.all Text.isIndent = true)
    (plain : ∀ line ∈ lines, IsCommentable line) :
    documentation? (style.comments ending margin indent lines) =
      some (Text.trim (Text.dedent (Text.unlines lines))) := by
  have single : ∀ line ∈ lines, '\n' ∉ line := fun line member => (plain line member).2.1
  have indented : ∀ row ∈ lines.map (indent ++ ·), '\n' ∉ row := by
    have feed : '\n' ∉ indent := not_mem_of_indent indents (by decide)
    intro row member
    obtain ⟨line, listed, rfl⟩ := List.mem_map.1 member
    simp [feed, single line listed]
  have some : lines.map (indent ++ ·) ≠ [] := by simpa using nonempty
  rw [Text.dedent_unlines nonempty single, ← Text.dedentLines_indent indents lines]
  cases style with
  | lineComments =>
    have found := documentationLines?_lineComments indents plain
    have rows : (lines.map fun line => [indent ++ line]).flatten = lines.map (indent ++ ·) := by
      rw [← List.flatMap_def, ← List.map_eq_flatMap]
    rw [CommentStyle.comments, documentation?_of_lines found (by simpa using nonempty), rows,
      Text.dedent_unlines some indented]
  | blockComment =>
    have found : [['/', '*'] ++ blockBody ending margin indent lines ++ ['*', '/']].filterMap
        documentationLines? = [[] :: lines.map (indent ++ ·) ++ [margin]] :=
      List.filterMap_cons_some (documentationLines?_blockComment margins indents plain)
    have around : ∀ row ∈ [] :: lines.map (indent ++ ·) ++ [margin], '\n' ∉ row := by
      intro row member
      rw [List.mem_append, List.mem_cons, List.mem_singleton] at member
      rcases member with (rfl | inner) | rfl
      · exact List.not_mem_nil
      · exact indented row inner
      · exact not_mem_of_indent margins (by decide)
    rw [CommentStyle.comments, documentation?_of_lines found (by simp), List.flatten_singleton,
      Text.dedent_unlines (by simp) around, Text.dedentLines_between _ margins,
      Text.trim_unlines_between (Text.dedentLines_ne_nil some)]

end Clearing

/-! ### What begins behind the comments -/

theorem commentsBefore_append (lead : List Lexeme) {more : List Lexeme}
    (forms : ∀ l ∈ more, l.form = .blank ∨ l.form = .comment) :
    commentsBefore (lead ++ more) = commentsBefore lead ++ commentTexts more := by
  have kept : ∀ l ∈ more.reverse, (l.form != .directive) = true := by
    intro l member
    rcases forms l (List.mem_reverse.1 member) with form | form <;> rw [form] <;> rfl
  rw [commentsBefore, List.reverse_append, List.takeWhile_append_of_pos kept, List.reverse_append,
    List.reverse_reverse, List.filter_append, List.map_append]
  rfl

theorem tokensOf_trivia (lead more ls : List Lexeme) (line : Nat)
    (trivia : ∀ l ∈ more, l.isTrivia = true) :
    ∃ line', tokensOf lead line (more ++ ls) = tokensOf (lead ++ more) line' ls := by
  induction more generalizing lead line with
  | nil => exact ⟨line, by simp⟩
  | cons l more ih =>
    obtain ⟨line', same⟩ := ih (lead ++ [l]) (line + lineFeeds l.text)
      fun other member => trivia other (List.mem_cons_of_mem _ member)
    refine ⟨line', ?_⟩
    rw [List.cons_append, tokensOf, if_pos (trivia l List.mem_cons_self), same, List.append_assoc]
    rfl

/-- The first token behind comments has them before it. -/
theorem token_of_passes {s code : Text} {comments : List Text} {l : Lexeme} {ls : List Lexeme}
    (passed : Passes s comments code) (begins : lexemes code = l :: ls)
    (token : l.isTrivia = false) (lead : List Lexeme) (line : Nat) :
    ∃ t ts, tokensOf lead line (lexemes s) = t :: ts ∧ t.text = l.text ∧
      commentsBefore t.lead = commentsBefore lead ++ comments := by
  obtain ⟨more, whole, forms, rfl⟩ := passed
  have trivia : ∀ l ∈ more, l.isTrivia = true := by
    intro l member
    rcases forms l member with form | form <;> simp [Lexeme.isTrivia, form]
  obtain ⟨line', same⟩ := tokensOf_trivia lead more (lexemes code) line trivia
  rw [whole, same, begins, tokensOf, if_neg (by simp [token])]
  exact ⟨_, _, rfl, rfl, commentsBefore_append lead forms⟩

/-- A token does not begin with white space. -/
theorem not_white_of_token {code : Text} {l : Lexeme} {ls : List Lexeme}
    (begins : lexemes code = l :: ls) (token : l.isTrivia = false) :
    ∀ c, code.head? = some c → isWhite c = false := by
  intro c first
  cases code with
  | nil => cases first
  | cons d rest =>
    cases first
    cases white : isWhite c with
    | false => rfl
    | true =>
      rw [lexemes, classify, if_pos white] at begins
      rw [← (List.cons.inj begins).1] at token
      cases token

theorem documentation_declaration? {path : Text} {here : Surroundings} {entry : Entry}
    {d : Declaration} (made : declaration? path here entry = some d) :
    entry.heading?.map (·.documentation) = some d.documentation := by
  cases entry <;> cases made <;> rfl

/-- The documentation of what begins behind documentation comments is the text of their lines,
without the indentation that all lines share and without white space around it. It is the same for
line comments and for a block comment, for both line ends, and for any indentation of the comment
and in it. All declarations that are read there have it. -/
theorem documentation_same_in_all_styles (style : CommentStyle) (ending : LineEnd)
    (margin indent : Text) (lines : List Text) (nonempty : lines ≠ [])
    (margins : margin.all Text.isIndent = true) (indents : indent.all Text.isIndent = true)
    (plain : ∀ line ∈ lines, IsCommentable line) (lead : List Lexeme) (line : Nat)
    (fresh : commentsBefore lead = []) (gap code : Text) (white : gap.all isWhite = true)
    (l : Lexeme) (ls : List Lexeme) (begins : lexemes code = l :: ls)
    (token : l.isTrivia = false) :
    ∃ t ts,
      tokensOf lead line (lexemes (style.write ending margin indent lines ++ gap ++ code)) =
        t :: ts ∧
      t.text = l.text ∧
      t.documentation? = some (Text.trim (Text.dedent (Text.unlines lines))) ∧
      ∀ body, ∀ entry ∈ (readEntry body t ts).entries, ∀ path here d,
        declaration? path here entry = some d →
        d.documentation = some (Text.trim (Text.dedent (Text.unlines lines))) := by
  have passed := passes_write ending margins indents plain style white
    (not_white_of_token begins token)
  obtain ⟨t, ts, found, same, comments⟩ := token_of_passes passed begins token lead line
  rw [fresh, List.nil_append] at comments
  have documented : t.documentation? = some (Text.trim (Text.dedent (Text.unlines lines))) := by
    rw [Token.documentation?, comments,
      documentation?_comments style nonempty margins indents plain]
  refine ⟨t, ts, found, same, documented, ?_⟩
  intro body entry member path here d made
  have own := documentation_declaration? made
  obtain ⟨heading, under, text⟩ := Option.map_eq_some_iff.1 own
  rw [← text, (standsUnder_readEntry body t ts entry member).2 heading under]
  exact documented

/-- A blank line of other white space than the lines around it, and a line with marks in it. -/
def summaryLines : List Text :=
  ["  <summary>".toList, "\t ".toList, "    a * b /".toList]

theorem documentation_same_in_all_styles_block :
    CommentStyle.blockComment.write .returnFeed "\t ".toList " ".toList summaryLines =
      "/**\r\n\t *   <summary>\r\n\t * \t \r\n\t *     a * b /\r\n\t */".toList ∧
    (tokens ("/**\r\n\t *   <summary>\r\n\t * \t \r\n\t *     a * b /\r\n\t */".toList ++
      ['\r', '\n'] ++ "int a;".toList)).head?.bind Token.documentation? =
      some "<summary>\n\n  a * b /".toList := by
  have text : CommentStyle.blockComment.write .returnFeed "\t ".toList " ".toList summaryLines =
      "/**\r\n\t *   <summary>\r\n\t * \t \r\n\t *     a * b /\r\n\t */".toList := by
    decide +kernel
  refine ⟨text, ?_⟩
  rw [← text]
  obtain ⟨t, ts, found, -, documented, -⟩ := documentation_same_in_all_styles .blockComment
    .returnFeed "\t ".toList " ".toList summaryLines (by decide) (by decide) (by decide)
    (by decide +kernel) [] 1 rfl ['\r', '\n'] "int a;".toList (by decide)
    ⟨.word, "int".toList⟩ [⟨.blank, [' ']⟩, ⟨.word, ['a']⟩, ⟨.mark, [';']⟩] (by decide +kernel) rfl
  rw [tokens, found, List.head?_cons, Option.bind_some, documented]
  decide +kernel

end DocReport.Source

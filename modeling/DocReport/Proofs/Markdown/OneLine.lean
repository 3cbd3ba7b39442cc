import DocReport.Proofs.Markdown.Pieces

/-!
When a rendering without paragraphs has no line break. Running text never brings one, since its
white space is collapsed. Code, links and keywords are shown as they are written, line breaks
included, and content that is taken for a block stands apart from what is beside it. Nothing else
breaks a line: a line break that is between visible characters stays for good, and white space at
the edges is trimmed away.
-/
namespace DocReport.Markdown

open Markup
open Text (isBlank solid solid_append solid_cons solid_nil)

/-- Line feeds and carriage returns end a line. -/
def isLineBreak (c : Char) : Bool :=
  c == '\n' || c == '\r'

/-- Whether a text has no line break. -/
def onOneLine (t : Text) : Bool :=
  t.all fun c => !isLineBreak c

theorem isBlank_of_isLineBreak {c : Char} (ends : isLineBreak c = true) : isBlank c = true := by
  simp only [isLineBreak, Bool.or_eq_true, beq_iff_eq] at ends
  rcases ends with rfl | rfl
  · decide
  · decide

@[simp] theorem onOneLine_append (s t : Text) :
    onOneLine (s ++ t) = (onOneLine s && onOneLine t) :=
  List.all_append

theorem onOneLine_of_sublist {s t : Text} (part : s.Sublist t) (whole : onOneLine t = true) :
    onOneLine s = true :=
  List.all_eq_true.2 fun c member => List.all_eq_true.1 whole c (part.subset member)

theorem onOneLine_iff {t : Text} : onOneLine t = true ↔ '\n' ∉ t ∧ '\r' ∉ t := by
  unfold onOneLine
  rw [List.all_eq_true]
  constructor
  · intro kept
    exact ⟨fun member => Bool.false_ne_true (kept '\n' member),
      fun member => Bool.false_ne_true (kept '\r' member)⟩
  · rintro ⟨feed, carriage⟩ c member
    have notFeed : c ≠ '\n' := fun same => feed (same ▸ member)
    have notReturn : c ≠ '\r' := fun same => carriage (same ▸ member)
    simp [isLineBreak, notFeed, notReturn]

theorem onOneLine_eq_false_iff {t : Text} :
    onOneLine t = false ↔ ∃ front c rest, t = front ++ c :: rest ∧ isLineBreak c = true := by
  unfold onOneLine
  rw [List.all_eq_false]
  constructor
  · rintro ⟨c, member, ends⟩
    obtain ⟨front, rest, whole⟩ := List.append_of_mem member
    exact ⟨front, c, rest, whole, by simpa using ends⟩
  · rintro ⟨front, c, rest, rfl, ends⟩
    exact ⟨c, by simp, by simp [ends]⟩

/-! ### Line breaks that stay -/

/-- A line break with visible characters on both sides. -/
def BrokenInside (t : Text) : Prop :=
  ∃ front c rest, t = front ++ c :: rest ∧ isLineBreak c = true ∧ solid front ≠ [] ∧
    solid rest ≠ []

section BrokenInside

variable {s t out value : Text}

theorem BrokenInside.onOneLine (broken : BrokenInside t) : onOneLine t = false := by
  obtain ⟨front, c, rest, whole, ends, _, _⟩ := broken
  exact onOneLine_eq_false_iff.2 ⟨front, c, rest, whole, ends⟩

theorem BrokenInside.append_right (broken : BrokenInside s) (t : Text) :
    BrokenInside (s ++ t) := by
  obtain ⟨front, c, rest, rfl, ends, before, behind⟩ := broken
  refine ⟨front, c, rest ++ t, by simp, ends, before, ?_⟩
  simp [behind]

theorem BrokenInside.append_left (broken : BrokenInside t) (s : Text) :
    BrokenInside (s ++ t) := by
  obtain ⟨front, c, rest, rfl, ends, before, behind⟩ := broken
  refine ⟨s ++ front, c, rest, by simp, ends, ?_, behind⟩
  simp [before]

section Trims

variable {p : Char → Bool} (white : ∀ c, p c = true → isBlank c = true)

include white

theorem BrokenInside.dropWhile (broken : BrokenInside t) : BrokenInside (t.dropWhile p) := by
  obtain ⟨front, c, rest, rfl, ends, before, behind⟩ := broken
  refine ⟨front.dropWhile p, c, rest, Text.dropWhile_append_of_visible white before _, ends, ?_,
    behind⟩
  rwa [Text.solid_dropWhile white]

theorem BrokenInside.dropTail (broken : BrokenInside t) : BrokenInside (Text.dropTail p t) := by
  obtain ⟨front, c, rest, rfl, ends, before, behind⟩ := broken
  refine ⟨front, c, Text.dropTail p rest, ?_, ends, before, ?_⟩
  · have whole := Text.dropTail_append_of_visible white behind (front ++ [c])
    simpa using whole
  · rwa [Text.solid_dropTail white]

end Trims

theorem BrokenInside.trim (broken : BrokenInside t) : BrokenInside (Text.trim t) :=
  (broken.dropWhile fun _ => id).dropTail fun _ => id

/-- A line break in a trimmed text is between visible characters: if all on one side of it were
white, trimming would make the text shorter. -/
theorem brokenInside_of_trimmed (trimmed : Text.trim t = t) (broken : onOneLine t = false) :
    BrokenInside t := by
  obtain ⟨front, c, rest, rfl, ends⟩ := onOneLine_eq_false_iff.1 broken
  have blank : solid [c] = [] := Text.solid_singleton_of_blank (isBlank_of_isLineBreak ends)
  refine ⟨front, c, rest, rfl, ends, ?_, ?_⟩
  · intro empty
    have gap : Text.IsGap (front ++ [c]) := by
      apply Text.isGap_of_solid_eq_nil
      rw [solid_append, empty, blank, List.append_nil]
    have shorter := Text.trim_gap_append gap rest
    rw [List.append_assoc, List.singleton_append, trimmed] at shorter
    have bound := Text.length_trim_le rest
    rw [← shorter, List.length_append, List.length_cons] at bound
    omega
  · intro empty
    have gap : Text.IsGap (c :: rest) := by
      apply Text.isGap_of_solid_eq_nil
      rw [solid_cons, blank, empty, List.append_nil]
    have shorter := Text.trim_append_gap gap front
    rw [trimmed] at shorter
    have bound := Text.length_trim_le front
    rw [← shorter, List.length_append, List.length_cons] at bound
    omega

end BrokenInside

/-! ### Pieces that share a line -/

/-- Whether something of a piece can be seen. -/
def Piece.isVisible (p : Piece) : Bool :=
  !(solid p.value).isEmpty

/-- Whether a piece stands apart from what is beside it. -/
def Piece.isBlock : Piece → Bool
  | .inline _ => false
  | .block _ => true

/-- Whether a block is among pieces of which more than one can be seen. -/
def crowded (ps : List Piece) : Bool :=
  ps.any Piece.isBlock && decide (1 < (ps.filter Piece.isVisible).length)

theorem Piece.isVisible_iff {p : Piece} : p.isVisible = true ↔ solid p.value ≠ [] := by
  simp [Piece.isVisible]

theorem Piece.isVisible_eq_false_iff {p : Piece} : p.isVisible = false ↔ solid p.value = [] := by
  simp [Piece.isVisible]

section Assembly

variable {out value : Text} {ps : List Piece} {p : Piece}

theorem BrokenInside.visible (broken : BrokenInside out) : solid out ≠ [] := by
  obtain ⟨front, c, rest, rfl, _, before, _⟩ := broken
  simp [before]

/-- A block takes no line break away that is there for good. -/
theorem BrokenInside.appendBlock (broken : BrokenInside out) (value : Text) :
    BrokenInside (appendBlock out value) := by
  rw [appendBlock_eq, beforeBlock_of_visible broken.visible, List.append_assoc, List.append_assoc]
  exact ((broken.dropTail space_is_blank).dropTail lineFeed_is_blank).append_right _

theorem BrokenInside.append (broken : BrokenInside out) (p : Piece) :
    BrokenInside (append out p) := by
  cases p with
  | inline value =>
    obtain ⟨dropped, white, same⟩ := exists_appendInline out value
    rw [same]
    exact broken.append_right _
  | block value => exact broken.appendBlock value

theorem BrokenInside.foldl (broken : BrokenInside out) (ps : List Piece) :
    BrokenInside (ps.foldl Markdown.append out) := by
  induction ps generalizing out with
  | nil => exact broken
  | cons p rest ih => exact ih (broken.append p)

theorem BrokenInside.of_piece (broken : BrokenInside p.value) (out : Text) :
    BrokenInside (Markdown.append out p) := by
  cases p with
  | inline value =>
    obtain ⟨dropped, white, same⟩ := exists_appendInline out value
    rw [same]
    exact (broken.dropWhile white).append_left out
  | block value => exact (broken.append_left _).append_right _

/-- A line break behind visible characters: whatever is seen next makes it stay. -/
def BrokenBehind (t : Text) : Prop :=
  ∃ front c rest, t = front ++ c :: rest ∧ isLineBreak c = true ∧ solid front ≠ []

/-- A block behind something visible breaks the line before it. -/
theorem appendBlock_of_visible (visible : solid out ≠ []) (value : Text) :
    ∃ front, appendBlock out value = front ++ '\n' :: '\n' :: (value ++ Text.emptyLine) ∧
      solid front ≠ [] := by
  refine ⟨Text.dropTail (· == '\n') (Text.dropTail (· == ' ') out), ?_, ?_⟩
  · rw [appendBlock_eq, beforeBlock_of_visible visible]
    simp [Text.emptyLine]
  · rwa [Text.solid_dropTail lineFeed_is_blank, Text.solid_dropTail space_is_blank]

theorem brokenInside_appendBlock (visible : solid out ≠ []) (shown : solid value ≠ []) :
    BrokenInside (appendBlock out value) := by
  obtain ⟨front, whole, before⟩ := appendBlock_of_visible visible value
  refine ⟨front, '\n', _, whole, rfl, before, ?_⟩
  rw [solid_cons, solid_append]
  simp [shown]

theorem brokenBehind_appendBlock (shown : solid value ≠ []) (out : Text) :
    BrokenBehind (appendBlock out value) := by
  refine ⟨_, '\n', ['\n'], by rw [appendBlock], rfl, ?_⟩
  simp [shown]

theorem BrokenBehind.visible (broken : BrokenBehind out) : solid out ≠ [] := by
  obtain ⟨front, c, rest, rfl, _, before⟩ := broken
  simp [before]

/-- What is seen behind a line break makes it stay. -/
theorem BrokenBehind.append_visible (broken : BrokenBehind out) (shown : solid p.value ≠ []) :
    BrokenInside (append out p) := by
  cases p with
  | inline value =>
    obtain ⟨front, c, rest, rfl, ends, before⟩ := broken
    obtain ⟨dropped, white, same⟩ := exists_appendInline (front ++ c :: rest) value
    rw [same, List.append_assoc, List.cons_append]
    refine ⟨front, c, rest ++ value.dropWhile dropped, rfl, ends, before, ?_⟩
    rw [solid_append, Text.solid_dropWhile white]
    exact List.append_ne_nil_of_right_ne_nil _ shown
  | block value => exact brokenInside_appendBlock broken.visible shown

theorem BrokenBehind.append (broken : BrokenBehind out) (p : Piece) :
    BrokenBehind (Markdown.append out p) := by
  cases p with
  | inline value =>
    obtain ⟨front, c, rest, rfl, ends, before⟩ := broken
    obtain ⟨dropped, white, same⟩ := exists_appendInline (front ++ c :: rest) value
    rw [same, List.append_assoc, List.cons_append]
    exact ⟨front, c, rest ++ value.dropWhile dropped, rfl, ends, before⟩
  | block value =>
    obtain ⟨front, whole, before⟩ := appendBlock_of_visible broken.visible value
    exact ⟨front, '\n', _, whole, rfl, before⟩

theorem BrokenBehind.foldl (broken : BrokenBehind out)
    (seen : ∃ p ∈ ps, p.isVisible = true) : BrokenInside (ps.foldl Markdown.append out) := by
  induction ps generalizing out with
  | nil => simp at seen
  | cons p rest ih =>
    by_cases own : p.isVisible = true
    · exact (broken.append_visible (Piece.isVisible_iff.1 own)).foldl rest
    · apply ih (broken.append p)
      simpa [own] using seen

theorem visible_foldl (seen : ∃ p ∈ ps, p.isVisible = true) (out : Text) :
    solid (ps.foldl append out) ≠ [] := by
  obtain ⟨p, member, shown⟩ := seen
  intro empty
  rw [solid_foldl_append, List.append_eq_nil_iff, List.flatMap_eq_nil_iff] at empty
  exact Piece.isVisible_iff.1 shown (empty.2 p member)

/-- A block beside something visible breaks the line, whichever comes first. -/
theorem brokenInside_of_crowded (shown : ∀ p ∈ ps, p.isBlock = true → p.isVisible = true)
    (crowd : crowded ps = true) : BrokenInside (ps.foldl append []) := by
  simp only [crowded, Bool.and_eq_true, List.any_eq_true, decide_eq_true_eq] at crowd
  obtain ⟨⟨block, member, stands⟩, several⟩ := crowd
  have own : block.isVisible = true := shown block member stands
  obtain ⟨before, behind, rfl⟩ := List.append_of_mem member
  rw [List.foldl_append, List.foldl_cons]
  cases block with
  | inline value => cases stands
  | block value =>
    by_cases early : ∃ p ∈ before, p.isVisible = true
    · exact (brokenInside_appendBlock (visible_foldl early []) (Piece.isVisible_iff.1 own)).foldl _
    · have late : ∃ p ∈ behind, p.isVisible = true := by
        have none : before.filter Piece.isVisible = [] := by
          rw [List.filter_eq_nil_iff]
          exact fun p inside seen => early ⟨p, inside, seen⟩
        rw [List.filter_append, none, List.nil_append, List.filter_cons_of_pos own,
          List.length_cons] at several
        obtain ⟨p, seen⟩ := List.exists_mem_of_length_pos (Nat.lt_of_succ_lt_succ several)
        exact ⟨p, List.mem_filter.1 seen⟩
      exact (brokenBehind_appendBlock (Piece.isVisible_iff.1 own) _).foldl late

/-- A piece of which nothing can be seen leaves white space at the end at most. -/
theorem trim_append_hidden (hidden : solid p.value = []) (out : Text) :
    Text.trim (append out p) = Text.trim out := by
  have gap : Text.IsGap p.value := Text.isGap_of_solid_eq_nil hidden
  cases p with
  | inline value =>
    obtain ⟨dropped, white, same⟩ := exists_appendInline out value
    rw [same]
    apply Text.trim_append_gap
    exact fun c member => gap c ((List.dropWhile_sublist _).subset member)
  | block value =>
    have own : Text.IsGap value := gap
    change Text.trim (appendBlock out value) = _
    rw [appendBlock_eq, Text.trim_append_gap Text.emptyLine_is_gap, Text.trim_append_gap own,
      trim_beforeBlock]

/-- A piece behind white space. -/
theorem trim_append_to_gap (hidden : solid out = []) (p : Piece) :
    Text.trim (append out p) = Text.trim p.value := by
  have gap : Text.IsGap out := Text.isGap_of_solid_eq_nil hidden
  cases p with
  | inline value =>
    obtain ⟨dropped, white, same⟩ := exists_appendInline out value
    rw [same, Text.trim_gap_append gap, Text.trim_dropWhile white]
    rfl
  | block value =>
    have before : Text.IsGap (beforeBlock out) := by
      apply Text.isGap_of_solid_eq_nil
      rw [solid_beforeBlock, hidden]
    change Text.trim (appendBlock out value) = Text.trim value
    rw [appendBlock_eq, Text.trim_append_gap Text.emptyLine_is_gap, Text.trim_gap_append before]

theorem trim_foldl_hidden (hidden : ∀ p ∈ ps, solid p.value = []) (out : Text) :
    Text.trim (ps.foldl append out) = Text.trim out := by
  induction ps generalizing out with
  | nil => rfl
  | cons p rest ih =>
    rw [List.foldl_cons, ih fun q member => hidden q (List.mem_cons_of_mem _ member),
      trim_append_hidden (hidden p List.mem_cons_self)]

/-- Where only one piece can be seen, it is all that is left. -/
theorem trim_foldl_single (gap : solid out = []) (only : ps.filter Piece.isVisible = [p]) :
    Text.trim (ps.foldl append out) = Text.trim p.value := by
  induction ps generalizing out with
  | nil => cases only
  | cons first rest ih =>
    rw [List.foldl_cons]
    by_cases own : first.isVisible = true
    · rw [List.filter_cons_of_pos own, List.cons.injEq, List.filter_eq_nil_iff] at only
      obtain ⟨rfl, others⟩ := only
      have hidden : ∀ q ∈ rest, solid q.value = [] := fun q member =>
        Piece.isVisible_eq_false_iff.1 (Bool.eq_false_iff.2 (others q member))
      rw [trim_foldl_hidden hidden, trim_append_to_gap gap]
    · have hidden : solid first.value = [] :=
        Piece.isVisible_eq_false_iff.1 (Bool.eq_false_iff.2 own)
      rw [List.filter_cons_of_neg own] at only
      apply ih _ only
      rw [solid_append_piece, gap, hidden, List.append_nil]

theorem onOneLine_trim {t : Text} (whole : onOneLine t = true) :
    onOneLine (Text.trim t) = true := by
  have start : (Text.trimStart t).Sublist t := List.dropWhile_sublist _
  obtain ⟨gap, _, same⟩ := Text.exists_append_trimEnd (Text.trimStart t)
  have stop : (Text.trim t).Sublist (Text.trimStart t) := by
    rw [same]
    exact List.sublist_append_left _ _
  exact onOneLine_of_sublist (stop.trans start) whole

/-- Inline pieces on one line each stay on one line together. -/
theorem onOneLine_foldl_inline (inline : ps.any Piece.isBlock = false)
    (lines : ∀ p ∈ ps, onOneLine p.value = true) (before : onOneLine out = true) :
    onOneLine (ps.foldl append out) = true := by
  induction ps generalizing out with
  | nil => exact before
  | cons p rest ih =>
    rw [List.any_cons, Bool.or_eq_false_iff] at inline
    apply ih inline.2 fun q member => lines q (List.mem_cons_of_mem _ member)
    cases p with
    | inline value =>
      have own : onOneLine value = true := lines _ List.mem_cons_self
      obtain ⟨dropped, white, same⟩ := exists_appendInline out value
      rw [same, onOneLine_append, before, onOneLine_of_sublist (List.dropWhile_sublist _) own]
      rfl
    | block value => cases inline.1

/-- Pieces are on one line together exactly if each is on one and no block is beside something
else that can be seen. -/
theorem onOneLine_assemble
    (edges : ∀ p ∈ ps, onOneLine p.value = true ∨ Text.trim p.value = p.value)
    (shown : ∀ p ∈ ps, p.isBlock = true → p.isVisible = true) :
    onOneLine (assemble ps) = (ps.all (fun p => onOneLine p.value) && !crowded ps) := by
  unfold assemble
  by_cases lines : ∀ p ∈ ps, onOneLine p.value = true
  · have all : (ps.all fun p => onOneLine p.value) = true := List.all_eq_true.2 lines
    rw [all, Bool.true_and]
    by_cases crowd : crowded ps = true
    · rw [crowd, (brokenInside_of_crowded shown crowd).trim.onOneLine]
      rfl
    · have free := Bool.eq_false_iff.2 crowd
      rw [free]
      rw [crowded, Bool.and_eq_false_iff, decide_eq_false_iff_not] at free
      rcases free with inline | few
      · exact onOneLine_trim (onOneLine_foldl_inline inline lines rfl)
      · cases seen : ps.filter Piece.isVisible with
        | nil =>
          have hidden : ∀ p ∈ ps, solid p.value = [] := fun p member =>
            Piece.isVisible_eq_false_iff.1
              (Bool.eq_false_iff.2 (List.filter_eq_nil_iff.1 seen p member))
          rw [trim_foldl_hidden hidden]
          rfl
        | cons p others =>
          rw [seen, List.length_cons] at few
          have none : others = [] := List.length_eq_zero_iff.1 (by omega)
          rw [none] at seen
          have member : p ∈ ps := (List.mem_filter.1 (seen ▸ List.mem_cons_self)).1
          rw [trim_foldl_single rfl seen, onOneLine_trim (lines p member)]
          rfl
  · have some : ∃ p ∈ ps, onOneLine p.value = false := by simpa using lines
    obtain ⟨p, member, broken⟩ := some
    have all : (ps.all fun p => onOneLine p.value) = false :=
      List.all_eq_false.2 ⟨p, member, by simp [broken]⟩
    have trimmed : Text.trim p.value = p.value :=
      (edges p member).resolve_left (by simp [broken])
    obtain ⟨before, behind, rfl⟩ := List.append_of_mem member
    rw [all, Bool.false_and, List.foldl_append, List.foldl_cons]
    exact ((brokenInside_of_trimmed trimmed broken).of_piece _ |>.foldl behind).trim.onOneLine

end Assembly

/-! ### Nodes that fit on a line -/

mutual

/-- Whether a node is shown without a line break. Code, links and keywords are shown as they are
written; other elements show their content. -/
def fitsLine (options : Options) : Node → Bool
  | .text _ => true
  | .element tag attributes content =>
    if Text.lower tag = "code".toList then
      onOneLine (Text.trim (Text.replace ['\r', '\n'] ['\n'] (Node.flattenAll content)))
    else if Text.lower tag = "c".toList then onOneLine (Text.trim (Node.flattenAll content))
    else if Text.lower tag = "see".toList then onOneLine (referenceText attributes content)
    else allFitLine options content && !crowded (pieces options content)

/-- Whether each of some nodes is shown without a line break. -/
def allFitLine (options : Options) : List Node → Bool
  | [] => true
  | node :: rest => fitsLine options node && allFitLine options rest

end

/-- Whether content is shown without a line break: all of it is, and no block is beside something
else. -/
def contentFitsLine (options : Options) (content : List Node) : Bool :=
  allFitLine options content && !crowded (pieces options content)

theorem mem_collapseFrom {afterBlank : Bool} {t : Text} {c : Char}
    (member : c ∈ collapseFrom afterBlank t) : c = ' ' ∨ isBlank c = false := by
  fun_induction collapseFrom afterBlank t with
  | case1 => cases member
  | case2 d r blank ih => exact ih member
  | case3 afterBlank d r blank _ ih =>
    rcases List.mem_cons.1 member with own | later
    · exact Or.inl own
    · exact ih later
  | case4 afterBlank d r visible ih =>
    rcases List.mem_cons.1 member with rfl | later
    · exact Or.inr (by simpa using visible)
    · exact ih later

theorem onOneLine_collapse (t : Text) : onOneLine (collapse t) = true := by
  unfold onOneLine
  rw [List.all_eq_true]
  intro c member
  rcases mem_collapseFrom member with rfl | visible
  · decide
  · cases ends : isLineBreak c with
    | false => rfl
    | true => simp [isBlank_of_isLineBreak ends] at visible

/-- Without paragraphs running text never breaks a line. -/
theorem onOneLine_normalize {options : Options} (flat : options.preserveParagraphs = false)
    (value : Text) : onOneLine (normalize options value) = true := by
  unfold normalize
  dsimp only
  rw [flat, if_neg Bool.false_ne_true]
  change onOneLine (normalizeParagraph options (value.filter (· != '\r'))) = true
  unfold normalizeParagraph
  split
  · exact onOneLine_collapse _
  · exact onOneLine_trim (onOneLine_collapse _)

theorem onOneLine_quoted (t : Text) : onOneLine (quoted t) = onOneLine t := by
  have tick : onOneLine ['\x60'] = true := by decide
  rw [quoted, onOneLine_append, onOneLine_append, tick, Bool.true_and, Bool.and_true]

theorem trim_quoted (t : Text) : Text.trim (quoted t) = quoted t :=
  Text.trim_between (by decide) (by decide) t

theorem trim_referenceText (attributes : List Attribute) (content : List Node) :
    Text.trim (referenceText attributes content) = referenceText attributes content := by
  unfold referenceText
  dsimp only
  split
  · exact trim_quoted _
  · split
    · exact Text.trim_between (by decide) (by decide) _
    · split
      · exact trim_quoted _
      · exact Text.trim_trim _

theorem onOneLine_codePiece (options : Options) (content : List Node) :
    onOneLine (codePiece options content).value = onOneLine (codeText content) := by
  unfold codePiece
  dsimp only
  split
  · rename_i several
    have broken : onOneLine (codeText content) = false := by
      rw [Bool.eq_false_iff, ne_eq, onOneLine_iff, ← not_or]
      exact fun none => none several
    simp only [Piece.value_block, onOneLine_append, broken, Bool.and_false, Bool.false_and]
  · rw [Piece.value_inline, onOneLine_quoted]

theorem trim_codePiece (options : Options) (content : List Node) :
    Text.trim (codePiece options content).value = (codePiece options content).value := by
  unfold codePiece
  dsimp only
  split
  · have edges : ∀ t : Text, fence ++ t ++ fence =
        '\x60' :: ("``".toList ++ t ++ "``".toList) ++ ['\x60'] := by
      simp [fence]
    have whole : fence ++ options.codeLanguage ++ ['\n'] ++ codeText content ++ ['\n'] ++ fence =
        fence ++ (options.codeLanguage ++ ['\n'] ++ codeText content ++ ['\n']) ++ fence := by
      simp
    rw [Piece.value_block, whole, edges]
    exact Text.trim_between (by decide) (by decide) _
  · exact trim_quoted _

/-- What an element shows has no white space at its ends. -/
theorem trim_piece_element (options : Options) (tag : Text) (attributes : List Attribute)
    (content : List Node) :
    Text.trim (piece options (.element tag attributes content)).value =
      (piece options (.element tag attributes content)).value := by
  rw [piece]
  split
  · exact trim_codePiece options content
  · exact trim_quoted _
  · exact trim_referenceText attributes content
  · rw [value_nestedPiece]
    exact Text.trim_trim _

/-- Line breaks of a piece that is not running text are between visible characters. -/
theorem piece_edges {options : Options} (flat : options.preserveParagraphs = false) (node : Node) :
    onOneLine (piece options node).value = true ∨
      Text.trim (piece options node).value = (piece options node).value := by
  cases node with
  | text value => exact Or.inl (onOneLine_normalize flat value)
  | element tag attributes content =>
    exact Or.inr (trim_piece_element options tag attributes content)

theorem visible_codePiece {options : Options} {content : List Node}
    (stands : (codePiece options content).isBlock = true) :
    solid (codePiece options content).value ≠ [] := by
  unfold codePiece at stands ⊢
  dsimp only at stands ⊢
  split at stands
  · rename_i several
    rw [if_pos several]
    exact visible_of_fence (Or.inr (List.suffix_append _ _))
  · cases stands

theorem visible_nestedPiece {t : Text} (stands : (nestedPiece t).isBlock = true) :
    solid (nestedPiece t).value ≠ [] := by
  rw [value_nestedPiece]
  unfold nestedPiece at stands
  split at stands
  · rename_i edges
    rw [Bool.or_eq_true, List.isPrefixOf_iff_prefix, List.isSuffixOf_iff_suffix] at edges
    exact visible_of_fence edges
  · cases stands

/-- A block holds a fence, so it can be seen. -/
theorem piece_shown {options : Options} {node : Node}
    (stands : (piece options node).isBlock = true) : (piece options node).isVisible = true := by
  rw [Piece.isVisible_iff]
  cases node with
  | text value => cases stands
  | element tag attributes content =>
    rw [piece] at stands ⊢
    cases role : Role.ofTag tag with
    | code =>
      rw [role] at stands
      exact visible_codePiece stands
    | inlineCode =>
      rw [role] at stands
      cases stands
    | reference =>
      rw [role] at stands
      cases stands
    | wrapper =>
      rw [role] at stands
      exact visible_nestedPiece stands

theorem onOneLine_assemble_pieces {options : Options}
    (flat : options.preserveParagraphs = false) {content : List Node}
    (each : ((pieces options content).all fun p => onOneLine p.value) =
      allFitLine options content) :
    onOneLine (assemble (pieces options content)) = contentFitsLine options content := by
  rw [onOneLine_assemble, each, contentFitsLine]
  · intro p member
    rw [pieces_eq_map] at member
    obtain ⟨node, _, rfl⟩ := List.mem_map.1 member
    exact piece_edges flat node
  · intro p member
    rw [pieces_eq_map] at member
    obtain ⟨node, _, rfl⟩ := List.mem_map.1 member
    exact piece_shown

mutual

theorem onOneLine_piece {options : Options} (flat : options.preserveParagraphs = false) :
    ∀ node : Node, onOneLine (piece options node).value = fitsLine options node
  | .text value => onOneLine_normalize flat value
  | .element tag attributes content => by
    have nested := onOneLine_assemble_pieces flat (onOneLine_pieces flat content)
    rw [piece, Role.ofTag_eq, fitsLine]
    by_cases code : Text.lower tag = "code".toList
    · rw [if_pos code, if_pos code]
      exact onOneLine_codePiece options content
    · rw [if_neg code, if_neg code]
      by_cases inlineCode : Text.lower tag = "c".toList
      · rw [if_pos inlineCode, if_pos inlineCode]
        exact onOneLine_quoted _
      · rw [if_neg inlineCode, if_neg inlineCode]
        by_cases reference : Text.lower tag = "see".toList
        · rw [if_pos reference, if_pos reference]
          rfl
        · rw [if_neg reference, if_neg reference]
          dsimp only
          rw [value_nestedPiece]
          exact nested

theorem onOneLine_pieces {options : Options} (flat : options.preserveParagraphs = false) :
    ∀ nodes : List Node,
      ((pieces options nodes).all fun p => onOneLine p.value) = allFitLine options nodes
  | [] => rfl
  | node :: rest => by
    rw [pieces, List.all_cons, onOneLine_piece flat node, onOneLine_pieces flat rest, allFitLine]

end

/-- Without paragraphs a rendering has no line break exactly if its content fits on a line. -/
theorem onOneLine_render {options : Options} (flat : options.preserveParagraphs = false)
    (node : Node) : onOneLine (render options node) = contentFitsLine options node.content :=
  onOneLine_assemble_pieces flat (onOneLine_pieces flat node.content)

end DocReport.Markdown

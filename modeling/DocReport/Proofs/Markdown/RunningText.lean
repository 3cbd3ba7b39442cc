import DocReport.Proofs.Markdown.Pieces
import DocReport.Proofs.Text.Phrase

/-!
What becomes of running text. Carriage returns vanish, words stay, and a gap between two words
becomes an empty line if paragraphs are kept and it holds one, else a space. At the ends of a text
node a gap becomes an empty line in the same way, and else a space if inline spacing is on; a
rendering drops both. So the options that are left do not reach a rendering of text alone, and a
rendering is in normal form already.
-/
namespace DocReport.Markdown

open Markup
open Text (isBlank IsGap IsWord IsSpace Phrase runs emptyLine)

/-- A run of characters in normal form. Words stay as they are. -/
def setRun (paragraphs : Bool) (run : Text) : Text :=
  if run.all isBlank then
    if paragraphs && decide (2 ≤ run.count '\n') then emptyLine else [' ']
  else run

/-- Text in normal form: run by run, without carriage returns and white space at its ends. -/
def setText (paragraphs : Bool) (t : Text) : Text :=
  (runs (Text.trim (t.filter (· != '\r')))).flatMap (setRun paragraphs)

theorem setRun_word {word : Text} (own : IsWord word) (paragraphs : Bool) :
    setRun paragraphs word = word := by
  obtain ⟨c, r, rfl, visible⟩ := own.head
  simp [setRun, visible]

theorem setRun_space {gap : Text} (space : IsSpace gap) (paragraphs : Bool) :
    setRun paragraphs gap = if paragraphs && isParagraphGap gap then emptyLine else [' '] := by
  rw [setRun, if_pos (List.all_eq_true.2 space.white)]
  rfl

theorem isSpace_setRun {gap : Text} (space : IsSpace gap) (paragraphs : Bool) :
    IsSpace (setRun paragraphs gap) := by
  rw [setRun_space space]
  split
  · exact ⟨by decide, Text.emptyLine_is_gap⟩
  · exact ⟨by decide, by simp [IsGap]; decide⟩

/-- What is set stays as it is. -/
theorem setRun_setRun {gap : Text} (space : IsSpace gap) (paragraphs : Bool) :
    setRun paragraphs (setRun paragraphs gap) = setRun paragraphs gap := by
  rw [setRun_space space]
  split
  · rename_i wide
    rw [Bool.and_eq_true] at wide
    rw [wide.1]
    decide
  · cases paragraphs <;> decide

/-! ### Paragraphs -/

/-- The paragraphs of a text, or all of it where paragraphs do not count. White space read before it
is given reversed. -/
def sections (paragraphs : Bool) (gap t : Text) : List Text :=
  if paragraphs then cutParagraphs gap t else [gap.reverse ++ t]

theorem sections_ne_nil (paragraphs : Bool) (gap t : Text) : sections paragraphs gap t ≠ [] := by
  cases paragraphs with
  | false => exact List.cons_ne_nil _ _
  | true => exact cutParagraphs_ne_nil gap t

theorem cutParagraphs_visible {c : Char} (visible : isBlank c = false) (gap r : Text) :
    cutParagraphs gap (c :: r) =
      if isParagraphGap gap then [] :: (cutParagraphs [] r).modifyHead (c :: ·)
      else (cutParagraphs [] r).modifyHead (gap.reverse ++ c :: ·) := by
  obtain ⟨part, parts, cut⟩ := List.exists_cons_of_ne_nil (cutParagraphs_ne_nil [] r)
  rw [cutParagraphs, visible, if_neg Bool.false_ne_true, cut]
  rfl

section Sections

variable {paragraphs : Bool} {c : Char}

theorem sections_gap {own : Text} (white : IsGap own) (gap t : Text) :
    sections paragraphs gap (own ++ t) = sections paragraphs (own.reverse ++ gap) t := by
  cases paragraphs with
  | false => simp [sections]
  | true =>
    change cutParagraphs gap (own ++ t) = cutParagraphs (own.reverse ++ gap) t
    induction own generalizing gap with
    | nil => rfl
    | cons d r ih =>
      have first : isBlank d = true := white d List.mem_cons_self
      rw [List.cons_append, cutParagraphs, first, if_pos rfl,
        ih fun e member => white e (List.mem_cons_of_mem _ member)]
      simp

/-- Where a word begins, the gap before it is settled. -/
theorem sections_visible (visible : isBlank c = false) (gap r : Text) :
    sections paragraphs gap (c :: r) =
      if paragraphs && isParagraphGap gap then [] :: sections paragraphs [] (c :: r)
      else (sections paragraphs [] (c :: r)).modifyHead (gap.reverse ++ ·) := by
  cases paragraphs with
  | false => rfl
  | true =>
    obtain ⟨part, parts, cut⟩ := List.exists_cons_of_ne_nil (cutParagraphs_ne_nil [] r)
    change cutParagraphs gap (c :: r) = if isParagraphGap gap then [] :: cutParagraphs [] (c :: r)
      else (cutParagraphs [] (c :: r)).modifyHead (gap.reverse ++ ·)
    have none : isParagraphGap [] = false := by decide
    rw [cutParagraphs_visible visible, cutParagraphs_visible visible, none, cut]
    rfl

theorem sections_word {word : Text} (visible : ∀ d ∈ word, isBlank d = false) (t : Text) :
    sections paragraphs [] (word ++ t) = (sections paragraphs [] t).modifyHead (word ++ ·) := by
  cases paragraphs with
  | false => rfl
  | true =>
    change cutParagraphs [] (word ++ t) = (cutParagraphs [] t).modifyHead (word ++ ·)
    obtain ⟨part, parts, cut⟩ := List.exists_cons_of_ne_nil (cutParagraphs_ne_nil [] t)
    have none : isParagraphGap [] = false := by decide
    induction word with
    | nil => rw [List.nil_append, cut]; rfl
    | cons d r ih =>
      rw [List.cons_append, cutParagraphs_visible (visible d List.mem_cons_self), none,
        ih fun e member => visible e (List.mem_cons_of_mem _ member), cut]
      rfl

/-- A text that begins visibly begins its first paragraph. -/
theorem exists_sections (visible : isBlank c = false) (r : Text) :
    ∃ part parts, sections paragraphs [] (c :: r) = (c :: part) :: parts := by
  have first := @sections_word paragraphs [c] (by simpa using visible) r
  obtain ⟨part, parts, cut⟩ := List.exists_cons_of_ne_nil (sections_ne_nil paragraphs [] r)
  rw [cut] at first
  exact ⟨part, parts, first⟩

end Sections

/-! ### One paragraph -/

/-- A space for a gap, if there is one. -/
def oneSpace (gap : Text) : Text :=
  if gap.isEmpty then [] else [' ']

theorem oneSpace_is_gap (gap : Text) : IsGap (oneSpace gap) := by
  cases gap with
  | nil => simp [oneSpace, IsGap]
  | cons c r =>
    intro d member
    rw [List.mem_singleton.1 member]
    decide

section Collapse

variable {gap : Text} {c : Char}

theorem collapseFrom_word {word : Text} (own : IsWord word) (afterBlank : Bool) (r : Text) :
    collapseFrom afterBlank (word ++ r) = word ++ collapse r := by
  have inside : ∀ w : Text, (∀ d ∈ w, isBlank d = false) →
      collapseFrom false (w ++ r) = w ++ collapse r := by
    intro w visible
    induction w with
    | nil => rfl
    | cons d w ih =>
      rw [List.cons_append, collapseFrom, visible d List.mem_cons_self, if_neg Bool.false_ne_true,
        ih fun e member => visible e (List.mem_cons_of_mem _ member)]
      rfl
  obtain ⟨d, w, rfl, visible⟩ := own.head
  rw [List.cons_append, collapseFrom, visible, if_neg Bool.false_ne_true,
    inside w fun e member => own.visible e (List.mem_cons_of_mem _ member)]
  rfl

/-- A gap before a word or at the end of a text. -/
theorem collapse_gap (white : IsGap gap) {r : Text}
    (visible : ∀ d, r.head? = some d → isBlank d = false) :
    collapse (gap ++ r) = oneSpace gap ++ collapse r := by
  have behind : ∀ g : Text, IsGap g → collapseFrom true (g ++ r) = collapse r := by
    intro g white
    induction g with
    | nil =>
      cases r with
      | nil => rfl
      | cons d r =>
        rw [List.nil_append, collapse, collapseFrom, collapseFrom, visible d rfl,
          if_neg Bool.false_ne_true, if_neg Bool.false_ne_true]
    | cons d g ih =>
      rw [List.cons_append, collapseFrom, white d List.mem_cons_self, if_pos rfl, if_pos rfl,
        ih fun e member => white e (List.mem_cons_of_mem _ member)]
  cases gap with
  | nil => rfl
  | cons d g =>
    rw [List.cons_append, collapse, collapseFrom, white d List.mem_cons_self, if_pos rfl,
      if_neg Bool.false_ne_true, behind g fun e member => white e (List.mem_cons_of_mem _ member)]
    rfl

theorem collapse_gap_visible (white : IsGap gap) (visible : isBlank c = false) (r : Text) :
    collapse (gap ++ c :: r) = oneSpace gap ++ collapse (c :: r) :=
  collapse_gap white fun _ first => Option.some.inj first ▸ visible

theorem collapse_visible (visible : isBlank c = false) (r : Text) :
    collapse (c :: r) = c :: collapse r :=
  @collapseFrom_word [c] ⟨by simp, by simpa using visible⟩ false r

end Collapse

/-- White space at an end of a paragraph: a space is kept with inline spacing. -/
def edgeSpace (options : Options) (gap : Text) : Text :=
  if options.inlineSpacing then oneSpace gap else []

section Paragraph

variable {options : Options} {gap word : Text} {c : Char}

theorem normalizeParagraph_nil : normalizeParagraph options [] = [] := by
  unfold normalizeParagraph
  split <;> rfl

theorem normalizeParagraph_gap_append (white : IsGap gap) (visible : isBlank c = false) (r : Text) :
    normalizeParagraph options (gap ++ c :: r) =
      edgeSpace options gap ++ normalizeParagraph options (c :: r) := by
  unfold normalizeParagraph edgeSpace
  rw [collapse_gap_visible white visible]
  split
  · rfl
  · exact Text.trim_gap_append (oneSpace_is_gap gap) _

theorem normalizeParagraph_word_append (own : IsWord word) (space : IsSpace gap)
    (visible : isBlank c = false) (r : Text) :
    normalizeParagraph options (word ++ (gap ++ c :: r)) =
      word ++ ' ' :: normalizeParagraph options (c :: r) := by
  have one : oneSpace gap = [' '] := if_neg (by simpa using space.nonempty)
  have collapsed : collapse (word ++ (gap ++ c :: r)) = word ++ ' ' :: collapse (c :: r) := by
    rw [collapse, collapseFrom_word own, collapse_gap_visible space.white visible, one]
    rfl
  unfold normalizeParagraph
  rw [collapsed]
  split
  · rfl
  · obtain ⟨d, w, rfl, first⟩ := own.head
    rw [collapse_visible visible]
    simpa using Text.trim_append_visible first visible (w ++ [' ']) (collapse r)

theorem normalizeParagraph_word_gap (own : IsWord word) (white : IsGap gap) :
    normalizeParagraph options (word ++ gap) = word ++ edgeSpace options gap := by
  have collapsed : collapse (word ++ gap) = word ++ oneSpace gap := by
    have alone := collapse_gap white (r := []) (by simp)
    rw [List.append_nil] at alone
    rw [collapse, collapseFrom_word own, alone]
    exact congrArg (word ++ ·) (List.append_nil _)
  unfold normalizeParagraph edgeSpace
  rw [collapsed]
  split
  · rfl
  · rw [Text.trim_append_gap (oneSpace_is_gap gap), Text.trim_eq_self own.visible, List.append_nil]

theorem normalizeParagraph_word (own : IsWord word) : normalizeParagraph options word = word := by
  have alone : edgeSpace options [] = [] := by
    unfold edgeSpace
    split <;> rfl
  simpa [alone] using @normalizeParagraph_word_gap options [] word own Text.isGap_nil

end Paragraph

/-! ### Paragraphs one after the other -/

/-- White space at an end of a text node. -/
def setEdge (options : Options) (gap : Text) : Text :=
  if options.preserveParagraphs && isParagraphGap gap then emptyLine else edgeSpace options gap

/-- Paragraphs in normal form, with empty lines between them. -/
def joinParagraphs (options : Options) (parts : List Text) : Text :=
  Text.join emptyLine (parts.map (normalizeParagraph options))

theorem normalize_eq (options : Options) (value : Text) :
    normalize options value = joinParagraphs options
      (sections options.preserveParagraphs [] (value.filter (· != '\r'))) := by
  unfold normalize
  dsimp only
  cases options.preserveParagraphs <;> rfl

section Join

variable {options : Options} {gap word : Text} {c : Char} {parts : List Text}

theorem joinParagraphs_cons (some : parts ≠ []) (first : Text) :
    joinParagraphs options (first :: parts) =
      normalizeParagraph options first ++ emptyLine ++ joinParagraphs options parts := by
  obtain ⟨second, rest, rfl⟩ := List.exists_cons_of_ne_nil some
  rfl

/-- What stands before the first paragraph in normal form stands before all of them. -/
theorem joinParagraphs_front {first longer front : Text}
    (same : normalizeParagraph options longer = front ++ normalizeParagraph options first)
    (parts : List Text) :
    joinParagraphs options (longer :: parts) =
      front ++ joinParagraphs options (first :: parts) := by
  cases parts with
  | nil => exact same
  | cons second rest =>
    have some : second :: rest ≠ [] := List.cons_ne_nil _ _
    rw [joinParagraphs_cons some longer, joinParagraphs_cons some first, same]
    simp only [List.append_assoc]

theorem isParagraphGap_reverse (gap : Text) : isParagraphGap gap.reverse = isParagraphGap gap := by
  rw [isParagraphGap, List.count_reverse, isParagraphGap]

/-- The gap before the first word. -/
theorem joinParagraphs_gap (white : IsGap gap) (visible : isBlank c = false) (r : Text) :
    joinParagraphs options (sections options.preserveParagraphs [] (gap ++ c :: r)) =
      setEdge options gap ++
        joinParagraphs options (sections options.preserveParagraphs [] (c :: r)) := by
  obtain ⟨part, parts, cut⟩ := @exists_sections options.preserveParagraphs c visible r
  rw [sections_gap white, List.append_nil, sections_visible visible, isParagraphGap_reverse,
    setEdge, cut]
  split
  · rw [joinParagraphs_cons (List.cons_ne_nil _ _), normalizeParagraph_nil, List.nil_append]
  · rw [List.modifyHead_cons, List.reverse_reverse]
    exact joinParagraphs_front (normalizeParagraph_gap_append white visible part) parts

/-- A word, the gap behind it and the next word. -/
theorem joinParagraphs_word_append (own : IsWord word) (space : IsSpace gap)
    (visible : isBlank c = false) (r : Text) :
    joinParagraphs options (sections options.preserveParagraphs [] (word ++ (gap ++ c :: r))) =
      word ++ setRun options.preserveParagraphs gap ++
        joinParagraphs options (sections options.preserveParagraphs [] (c :: r)) := by
  obtain ⟨part, parts, cut⟩ := @exists_sections options.preserveParagraphs c visible r
  rw [sections_word own.visible, sections_gap space.white, List.append_nil,
    sections_visible visible, isParagraphGap_reverse, setRun_space space, cut]
  split
  · rw [List.modifyHead_cons, List.append_nil, joinParagraphs_cons (List.cons_ne_nil _ _),
      normalizeParagraph_word own]
  · have spaced : normalizeParagraph options (word ++ (gap ++ c :: part)) =
        (word ++ [' ']) ++ normalizeParagraph options (c :: part) := by
      rw [normalizeParagraph_word_append own space visible]
      simp
    rw [List.modifyHead_cons, List.modifyHead_cons, List.reverse_reverse]
    exact joinParagraphs_front spaced parts

/-- The last word and the gap behind it. -/
theorem joinParagraphs_word_gap (own : IsWord word) (white : IsGap gap) :
    joinParagraphs options (sections options.preserveParagraphs [] (word ++ gap)) =
      word ++ setEdge options gap := by
  have ends : sections options.preserveParagraphs [] gap =
      if options.preserveParagraphs && isParagraphGap gap then [[], []] else [gap] := by
    have read := @sections_gap options.preserveParagraphs gap white [] []
    rw [List.append_nil, List.append_nil] at read
    rw [read, ← isParagraphGap_reverse]
    unfold sections
    cases options.preserveParagraphs with
    | true => rw [if_pos rfl, cutParagraphs, List.reverse_reverse]; rfl
    | false => simp
  rw [sections_word own.visible, ends, setEdge]
  split
  · have last : joinParagraphs options [[]] = [] := normalizeParagraph_nil
    rw [List.modifyHead_cons, List.append_nil, joinParagraphs_cons (List.cons_ne_nil _ _),
      normalizeParagraph_word own, last, List.append_nil]
  · exact normalizeParagraph_word_gap own white

theorem joinParagraphs_phrase {phrase : List Text} (own : Phrase phrase) (white : IsGap gap) :
    joinParagraphs options (sections options.preserveParagraphs [] (phrase.flatten ++ gap)) =
      phrase.flatMap (setRun options.preserveParagraphs) ++ setEdge options gap := by
  induction own with
  | @word word own =>
    rw [List.flatten_singleton, joinParagraphs_word_gap own white, List.flatMap_singleton,
      setRun_word own]
  | @more word space rest own isSpace behind ih =>
    obtain ⟨c, r, front, visible⟩ := behind.head
    rw [front, List.cons_append] at ih
    rw [List.flatten_cons, List.flatten_cons, front, List.append_assoc, List.append_assoc,
      List.cons_append, joinParagraphs_word_append own isSpace visible, ih, List.flatMap_cons,
      List.flatMap_cons, setRun_word own]
    simp only [List.append_assoc]

end Join

/-- The text of a text node: its words, its gaps, and what is kept of the space at its ends. -/
theorem normalize_phrase (options : Options) {value start stop : Text} {phrase : List Text}
    (before : IsGap start) (own : Phrase phrase) (after : IsGap stop)
    (whole : value.filter (· != '\r') = start ++ phrase.flatten ++ stop) :
    normalize options value = setEdge options start ++
      phrase.flatMap (setRun options.preserveParagraphs) ++ setEdge options stop := by
  obtain ⟨c, r, front, visible⟩ := own.head
  have inner := @joinParagraphs_phrase options stop phrase own after
  rw [front, List.cons_append] at inner
  rw [normalize_eq, whole, front, List.append_assoc, List.cons_append,
    joinParagraphs_gap before visible, inner, List.append_assoc]

/-! ### Text alone -/

theorem setEdge_is_gap (options : Options) (gap : Text) : IsGap (setEdge options gap) := by
  unfold setEdge edgeSpace
  split
  · exact Text.emptyLine_is_gap
  · split
    · exact oneSpace_is_gap gap
    · exact Text.isGap_nil

theorem render_text (options : Options) (tag : Text) (attributes : List Attribute) (value : Text) :
    render options (.element tag attributes [.text value]) = Text.trim (normalize options value) :=
  rfl

/-- A phrase that is set is a phrase. -/
theorem phrase_set {phrase : List Text} (own : Phrase phrase) (paragraphs : Bool) :
    Phrase (phrase.map (setRun paragraphs)) := by
  induction own with
  | @word word own =>
    rw [List.map_singleton, setRun_word own]
    exact .word own
  | @more word gap rest own space _ ih =>
    rw [List.map_cons, List.map_cons, setRun_word own]
    exact .more own (isSpace_setRun space paragraphs) ih

/-- Words and gaps that are set stay as they are. -/
theorem phrase_set_set {phrase : List Text} (own : Phrase phrase) (paragraphs : Bool) :
    (phrase.map (setRun paragraphs)).map (setRun paragraphs) = phrase.map (setRun paragraphs) := by
  induction own with
  | @word word own => rw [List.map_singleton, List.map_singleton, setRun_word own, setRun_word own]
  | @more word gap rest own space _ ih =>
    rw [List.map_cons, List.map_cons, List.map_cons, List.map_cons, ih, setRun_word own,
      setRun_word own, setRun_setRun space]

theorem return_not_mem_set {phrase : List Text} (own : Phrase phrase) (paragraphs : Bool) :
    '\r' ∉ (phrase.map (setRun paragraphs)).flatten := by
  have word_keeps : ∀ {word : Text}, IsWord word → '\r' ∉ word := fun own member =>
    absurd (own.visible _ member) (by decide)
  have set_keeps : ∀ {gap : Text}, IsSpace gap → '\r' ∉ setRun paragraphs gap := by
    intro gap space
    rw [setRun_space space]
    split <;> decide
  induction own with
  | @word word own =>
    rw [List.map_singleton, setRun_word own, List.flatten_singleton]
    exact word_keeps own
  | @more word gap rest own space _ ih =>
    rw [List.map_cons, List.map_cons, setRun_word own, List.flatten_cons, List.flatten_cons,
      List.mem_append, List.mem_append, not_or, not_or]
    exact ⟨word_keeps own, set_keeps space, ih⟩

theorem setText_of_phrase (paragraphs : Bool) {value start stop : Text} {phrase : List Text}
    (before : IsGap start) (own : Phrase phrase) (after : IsGap stop)
    (whole : value.filter (· != '\r') = start ++ phrase.flatten ++ stop) :
    setText paragraphs value = (phrase.map (setRun paragraphs)).flatten := by
  rw [setText, whole, Text.trim_append_gap after, Text.trim_gap_append before, own.trim_flatten,
    own.runs_flatten, List.flatMap_def]

theorem setText_of_white (paragraphs : Bool) {value : Text}
    (white : IsGap (value.filter (· != '\r'))) : setText paragraphs value = [] := by
  rw [setText, Text.trim_gap white]
  rfl

/-- A text node alone is shown in normal form. -/
theorem trim_normalize (options : Options) (value : Text) :
    Text.trim (normalize options value) = setText options.preserveParagraphs value := by
  rcases Text.exists_phrase (value.filter (· != '\r')) with white |
    ⟨start, phrase, stop, before, own, after, whole⟩
  · have nothing : IsGap (normalize options value) := by
      apply Text.isGap_of_solid_eq_nil
      rw [solid_normalize, ← solid_without_returns, Text.solid_eq_nil_of_isGap white]
    rw [setText_of_white _ white, Text.trim_gap nothing]
  · rw [setText_of_phrase _ before own after whole, normalize_phrase options before own after whole,
      Text.trim_append_gap (setEdge_is_gap options stop),
      Text.trim_gap_append (setEdge_is_gap options start), List.flatMap_def,
      (phrase_set own _).trim_flatten]

/-- Text in normal form is its own normal form: what is set is a phrase without carriage returns,
and its words and gaps are set already. -/
theorem setText_setText (paragraphs : Bool) (value : Text) :
    setText paragraphs (setText paragraphs value) = setText paragraphs value := by
  rcases Text.exists_phrase (value.filter (· != '\r')) with white |
    ⟨start, phrase, stop, before, own, after, whole⟩
  · rw [setText_of_white paragraphs white]
    rfl
  · have again : (phrase.map (setRun paragraphs)).flatten.filter (· != '\r') =
        [] ++ (phrase.map (setRun paragraphs)).flatten ++ [] := by
      rw [List.filter_eq_self.2 (Text.bne_of_not_mem (return_not_mem_set own paragraphs))]
      simp
    rw [setText_of_phrase _ before own after whole,
      setText_of_phrase _ Text.isGap_nil (phrase_set own paragraphs) Text.isGap_nil again,
      phrase_set_set own paragraphs]

/-- Text alone is shown word by word, with one space or one empty line between two words; an empty
line stands where paragraphs are kept and the white space held two line feeds. Neither inline
spacing nor the code language reaches it, and shown again as text it stays as it is. -/
theorem text_alone_in_normal_form (options : Options) (tag : Text) (attributes : List Attribute)
    (value : Text) :
    let shown := render options (.element tag attributes [.text value])
    shown = setText options.preserveParagraphs value ∧
      (∀ (codeLanguage : Text) (inlineSpacing : Bool),
        render { options with codeLanguage, inlineSpacing }
          (.element tag attributes [.text value]) = shown) ∧
      render options (.element tag attributes [.text shown]) = shown := by
  intro shown
  have normal : shown = setText options.preserveParagraphs value := trim_normalize options value
  refine ⟨normal, fun codeLanguage inlineSpacing => ?_, ?_⟩
  · rw [normal, render_text, trim_normalize]
  · rw [render_text, trim_normalize, normal, setText_setText]

end DocReport.Markdown

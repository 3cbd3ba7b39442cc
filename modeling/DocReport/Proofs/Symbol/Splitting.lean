import DocReport.Proofs.Symbol.Cuts
import DocReport.Proofs.Text.Solid

/-!
Splitting and joining lists of types. What a text is split into, joined again, is the text up to
white space, whatever the separator; and items that close their brackets and hold no comma outside
of them come back from their joined text, however much white space stands around them.
-/
namespace DocReport.Symbol

open Text (IsGap)

/-- The brackets that are open behind a text: those that it opens less those that it closes. -/
def openBrackets (t : Text) : Int :=
  t.countP (['<', '\x7b', '[', '('].contains ·) - t.countP (['>', '\x7d', ']', ')'].contains ·)

/-- No bracket both opens and closes, so the two counts differ by the nesting of each character. -/
theorem openBrackets_cons (c : Char) (t : Text) :
    openBrackets (c :: t) = nesting c + openBrackets t := by
  have apart : c ∈ ['<', '\x7b', '[', '('] → c ∉ ['>', '\x7d', ']', ')'] := by
    simp only [List.mem_cons, List.not_mem_nil, or_false]
    rintro (rfl | rfl | rfl | rfl) <;> decide
  simp only [openBrackets, nesting, List.countP_cons, List.contains_iff_mem]
  by_cases opens : c ∈ ['<', '\x7b', '[', '(']
  · simp only [opens, apart opens, if_true, if_false]
    omega
  · by_cases closes : c ∈ ['>', '\x7d', ']', ')']
    · simp only [opens, closes, if_true, if_false]
      omega
    · simp only [opens, closes, if_false]
      omega

theorem depthAfter_eq (depth : Int) (t : Text) :
    depthAfter depth t = depth + openBrackets t := by
  induction t generalizing depth with
  | nil => exact (Int.add_zero depth).symm
  | cons c r ih => rw [depthAfter, ih, openBrackets_cons, Int.add_assoc]

/-- There are cuts exactly if some comma stands at depth zero. -/
theorem cuts_eq_zero_iff {depth : Int} {t : Text} :
    cuts depth t = 0 ↔ ∀ front back, t = front ++ ',' :: back → depthAfter depth front ≠ 0 := by
  induction t generalizing depth with
  | nil => simp [cuts]
  | cons c r ih =>
    have step : cuts depth (c :: r) = 0 ↔
        ¬ (c = ',' ∧ depth + nesting c = 0) ∧ cuts (depth + nesting c) r = 0 := by
      simp [cuts]
    have flat : nesting ',' = 0 := by decide
    rw [step, ih]
    constructor
    · rintro ⟨first, later⟩ front back split
      cases front with
      | nil =>
        obtain ⟨rfl, -⟩ := List.cons.inj split
        exact fun zero => first ⟨rfl, by rw [flat, Int.add_zero]; exact zero⟩
      | cons d front =>
        obtain ⟨rfl, behind⟩ := List.cons.inj split
        exact later front back behind
    · refine fun none => ⟨?_, fun front back behind => ?_⟩
      · rintro ⟨rfl, zero⟩
        rw [flat, Int.add_zero] at zero
        exact none [] r rfl zero
      · exact none (c :: front) back (by rw [behind, List.cons_append])

/-! ### Items of a list -/

/-- What can be an item of a list: a trimmed text that ends outside of brackets and has no comma
there. Brackets may be closed before they are opened. -/
structure IsItem (t : Text) : Prop where
  trimmed : Text.trim t = t
  closed : openBrackets t = 0
  whole : ∀ front back, t = front ++ ',' :: back → openBrackets front ≠ 0

theorem isItem_iff {t : Text} :
    IsItem t ↔ Text.trim t = t ∧ openBrackets t = 0 ∧ cuts 0 t = 0 := by
  have same : cuts 0 t = 0 ↔ ∀ front back, t = front ++ ',' :: back → openBrackets front ≠ 0 := by
    simp only [cuts_eq_zero_iff, depthAfter_eq, Int.zero_add]
  exact ⟨fun own => ⟨own.trimmed, own.closed, same.2 own.whole⟩,
    fun ⟨trimmed, closed, uncut⟩ => ⟨trimmed, closed, same.1 uncut⟩⟩

instance (t : Text) : Decidable (IsItem t) :=
  decidable_of_iff' _ isItem_iff

/-- An item with white space around it. -/
structure Surrounded where
  left : Text
  item : Text
  right : Text
  blankLeft : IsGap left
  blankRight : IsGap right

namespace Surrounded

/-- The item as it is written. -/
def text (s : Surrounded) : Text :=
  s.left ++ s.item ++ s.right

theorem trim_text (s : Surrounded) : Text.trim s.text = Text.trim s.item := by
  rw [text, Text.trim_append_gap s.blankRight, Text.trim_gap_append s.blankLeft]

/-- White space is nothing to a cut. -/
theorem sameCuts_text (s : Surrounded) : SameCuts s.text s.item := by
  have left := (SameCuts.of_gap s.blankLeft).append (SameCuts.refl s.item)
  simpa [text] using left.append (SameCuts.of_gap s.blankRight)

theorem uncut_text {s : Surrounded} (own : IsItem s.item) :
    depthAfter 0 s.text = 0 ∧ cutAtDepth (· == ',') 0 s.text = [s.text] := by
  obtain ⟨depth, count⟩ := s.sameCuts_text 0
  obtain ⟨-, closed, uncut⟩ := isItem_iff.1 own
  refine ⟨?_, cutAtDepth_of_uncut (count.trans uncut)⟩
  rw [depth, depthAfter_eq, closed, Int.zero_add]

/-- White space before a list belongs to its first item. -/
theorem exists_gap_append {lead : Text} (blank : IsGap lead) {list : List Surrounded}
    (nonempty : list ≠ []) : ∃ wider : List Surrounded, wider.map item = list.map item ∧
      Text.join [','] (wider.map text) = lead ++ Text.join [','] (list.map text) := by
  obtain ⟨first, rest, rfl⟩ := List.exists_cons_of_ne_nil nonempty
  have blankLeft : IsGap (lead ++ first.left) := fun c member =>
    (List.mem_append.1 member).elim (blank c) (first.blankLeft c)
  refine ⟨⟨lead ++ first.left, first.item, first.right, blankLeft, first.blankRight⟩ :: rest,
    rfl, ?_⟩
  cases rest with
  | nil => simp [text, Text.join]
  | cons second rest => simp [text, Text.join_cons_cons]

/-- White space behind a list belongs to its last item. -/
theorem exists_append_gap {trail : Text} (blank : IsGap trail) {list : List Surrounded}
    (nonempty : list ≠ []) : ∃ wider : List Surrounded, wider.map item = list.map item ∧
      Text.join [','] (wider.map text) = Text.join [','] (list.map text) ++ trail := by
  induction list with
  | nil => exact absurd rfl nonempty
  | cons first rest ih =>
    cases rest with
    | nil =>
      have blankRight : IsGap (first.right ++ trail) := fun c member =>
        (List.mem_append.1 member).elim (first.blankRight c) (blank c)
      refine ⟨[⟨first.left, first.item, first.right ++ trail, first.blankLeft, blankRight⟩],
        rfl, ?_⟩
      simp [text, Text.join]
    | cons second rest =>
      obtain ⟨wider, items, joined⟩ := ih (List.cons_ne_nil _ _)
      obtain ⟨next, others, rfl⟩ : ∃ next others, wider = next :: others := by
        cases wider with
        | nil => cases items
        | cons next others => exact ⟨next, others, rfl⟩
      refine ⟨first :: next :: others, congrArg (first.item :: ·) items, ?_⟩
      simp only [List.map_cons, Text.join_cons_cons] at joined ⊢
      rw [joined]
      simp only [List.append_assoc]

end Surrounded

/-- White space has no parts. -/
theorem splitArguments_gap {gap : Text} (blank : IsGap gap) : splitArguments gap = [] := by
  have uncut : cutAtDepth (· == ',') 0 gap = [gap] :=
    cutAtDepth_of_uncut (SameCuts.of_gap blank 0).2
  simp [splitArguments, splitTopLevel, uncut, Text.trim_gap blank]

theorem splitArguments_surrounded {list : List Surrounded}
    (items : ∀ item ∈ list.map (·.item), IsItem item) (solid : list.map (·.item) ≠ [[]]) :
    splitArguments (Text.join [','] (list.map (·.text))) = list.map (·.item) := by
  have own : ∀ s ∈ list, IsItem s.item := fun s member => items _ (List.mem_map_of_mem member)
  have trimmed : (list.map (·.text)).map Text.trim = list.map (·.item) := by
    rw [List.map_map]
    exact List.map_congr_left fun s member => s.trim_text.trans (own s member).trimmed
  have whole : ∀ part ∈ list.map (·.text),
      depthAfter 0 part = 0 ∧ cutAtDepth (· == ',') 0 part = [part] := by
    intro part member
    obtain ⟨s, inside, rfl⟩ := List.mem_map.1 member
    exact Surrounded.uncut_text (own s inside)
  rw [splitArguments_join whole (trimmed ▸ solid), trimmed]

/-! ### Parts of a text -/

theorem solid_join_map_trim (separator : Text) (parts : List Text) :
    Text.solid (Text.join separator (parts.map Text.trim)) =
      Text.solid (Text.join separator parts) := by
  induction parts with
  | nil => rfl
  | cons first rest ih =>
    cases rest with
    | nil => exact Text.solid_trim first
    | cons second rest =>
      simp only [List.map_cons, Text.join_cons_cons, Text.solid_append, Text.solid_trim] at ih ⊢
      rw [ih]

/-- The parts are what stands between the cuts, trimmed; a single part that is blank is left out,
which joining does not show. -/
theorem join_splitTopLevel (isSeparator : Char → Bool) (separator t : Text) :
    Text.join separator (splitTopLevel isSeparator t) =
      Text.join separator ((cutAtDepth isSeparator 0 t).map Text.trim) := by
  rw [splitTopLevel]
  split
  · rename_i blank
    rw [blank]
    rfl
  · rfl

/-- Splitting loses nothing but white space, whatever the separator is; and from a list of items,
joined by commas and with any white space around each of them and around the whole, it gives just
these items, unless there is only one and it is empty. -/
theorem splitTopLevel_keeps_text_and_inverts_join :
    (∀ (separator : Char) (t : Text),
      Text.solid (Text.join [separator] (splitTopLevel (· == separator) t)) = Text.solid t) ∧
    ∀ (list : List Surrounded) (lead trail : Text), IsGap lead → IsGap trail →
      (∀ s ∈ list, IsItem s.item) → list.map (·.item) ≠ [[]] →
        splitTopLevel (· == ',') (lead ++ Text.join [','] (list.map (·.text)) ++ trail) =
          list.map (·.item) := by
  refine ⟨fun separator t => ?_, fun list lead trail blankLead blankTrail own solid => ?_⟩
  · rw [join_splitTopLevel, solid_join_map_trim, join_cutAtDepth]
  · by_cases nonempty : list = []
    · subst nonempty
      have blank : IsGap (lead ++ [] ++ trail) := by
        rw [List.append_nil]
        exact fun c member => (List.mem_append.1 member).elim (blankLead c) (blankTrail c)
      exact splitArguments_gap blank
    · obtain ⟨led, ledItems, ledText⟩ := Surrounded.exists_gap_append blankLead nonempty
      have some : led ≠ [] := by
        rintro rfl
        exact nonempty (List.map_eq_nil_iff.1 ledItems.symm)
      obtain ⟨wider, items, text⟩ := Surrounded.exists_append_gap blankTrail some
      have same : wider.map (·.item) = list.map (·.item) := items.trans ledItems
      have each : ∀ item ∈ wider.map (·.item), IsItem item := by
        rw [same]
        exact List.forall_mem_map.2 own
      rw [← ledText, ← text, ← same]
      exact splitArguments_surrounded each (same ▸ solid)

/-- Two generic types, nothing, and a text that closes a bracket before it opens one. -/
def itemsInSpace : List Surrounded :=
  [⟨[' '], "Map\x7bK, V\x7d".toList, ['\t'], by simp [IsGap]; decide, by simp [IsGap]; decide⟩,
   ⟨[], "List<(A, B)>".toList, ['\n'], by simp [IsGap], by simp [IsGap]; decide⟩,
   ⟨[' '], [], [], by simp [IsGap]; decide, by simp [IsGap]⟩,
   ⟨[], ">,<".toList, [' '], by simp [IsGap], by simp [IsGap]; decide⟩]

theorem splitTopLevel_inverts_join_in_space :
    (∀ s ∈ itemsInSpace, IsItem s.item) ∧
    splitTopLevel (· == ',') "\n Map\x7bK, V\x7d\t,List<(A, B)>\n, ,>,<  ".toList =
      ["Map\x7bK, V\x7d".toList, "List<(A, B)>".toList, [], ">,<".toList] := by
  have items : ∀ s ∈ itemsInSpace, IsItem s.item := by
    simp only [itemsInSpace, List.forall_mem_cons]
    decide
  exact ⟨items, splitTopLevel_keeps_text_and_inverts_join.2 itemsInSpace ['\n'] [' ']
    (by simp [IsGap]; decide) (by simp [IsGap]; decide) items (by simp [itemsInSpace])⟩

end DocReport.Symbol

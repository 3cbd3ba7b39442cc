import DocReport.Compilation.Member
import DocReport.Proofs.Markup.Exchange
import DocReport.Proofs.Text.Cut

/-!
What binding references does to markup. References are found in the text of a fragment and
documentation IDs are written into it as they are. A fragment whose rewritten references stand in
tags keeps its tree up to their values exactly if each ID can be read between its quotes; an ID
with a `<` in it takes the whole fragment with it.
-/
namespace DocReport.Compilation

open DocReport.Symbol DocReport.Markup

/-! ### Parts of a fragment -/

namespace FragmentPart

/-- A reference as it is found: its name, an equals sign between blanks, and a value without its
quote. -/
def Shaped : FragmentPart → Prop
  | .plain _ => True
  | .reference opening quote target => isQuote quote = true ∧ quote ∉ target ∧
    ∃ gap after, opening = referenceName ++ (gap ++ '=' :: after) ∧ '=' ∉ gap ∧
      ∀ c ∈ after, isQuote c = false

/-- A part with its reference, if it is one, bound by `b`. -/
def rewrite (b : Text → Text) : FragmentPart → FragmentPart
  | .plain c => .plain c
  | .reference opening quote target => .reference opening quote (b target)

/-- Parts as they are written. -/
def written (parts : List FragmentPart) : Text :=
  parts.flatMap text

theorem written_cons (part : FragmentPart) (rest : List FragmentPart) :
    written (part :: rest) = part.text ++ written rest :=
  List.flatMap_cons

end FragmentPart

theorem dropWord?_used {word t rest : Text} (read : dropWord? word t = some rest) :
    t = word ++ rest := by
  fun_induction dropWord? word t with
  | case1 t =>
    cases read
    rfl
  | case2 => cases read
  | case3 w ws r ih => rw [ih read, List.cons_append]
  | case4 => cases read

theorem dropWord?_append (word t : Text) : dropWord? word (word ++ t) = some t := by
  induction word with
  | nil => rfl
  | cons c word ih => rw [List.cons_append, dropWord?, if_pos rfl, ih]

theorem visible_of_isQuote {quote : Char} (isMark : isQuote quote = true) :
    Text.isBlank quote = false := by
  cases blank : Text.isBlank quote with
  | false => rfl
  | true =>
    have unmarked := not_quote_of_class (by decide) (by decide) blank
    simp [isMark] at unmarked

/-- A reference attribute that is written can be read, whatever stands behind it. -/
theorem readReferencePart?_written {gap after target : Text} {quote : Char}
    (blanks : ∀ c ∈ gap, Text.isBlank c = true) (others : ∀ c ∈ after, Text.isBlank c = true)
    (isMark : isQuote quote = true) (absent : quote ∉ target) (rest : Text) :
    readReferencePart? ((FragmentPart.reference (referenceName ++ (gap ++ '=' :: after)) quote
        target).text ++ rest) =
      some (.reference (referenceName ++ (gap ++ '=' :: after)) quote target, rest) := by
  have sign : Text.isBlank '=' = false := by decide
  have visible := visible_of_isQuote isMark
  have mark : quote = '"' ∨ quote = '\'' := by simpa [isQuote] using isMark
  have whole : (FragmentPart.reference (referenceName ++ (gap ++ '=' :: after)) quote target).text
      ++ rest = referenceName ++ (gap ++ '=' :: (after ++ quote :: (target ++ quote :: rest))) := by
    simp [FragmentPart.text]
  rw [whole, readReferencePart?, dropWord?_append]
  simp only [Text.dropWhile_run blanks sign, Text.takeWhile_run blanks sign,
    Text.dropWhile_run others visible, Text.takeWhile_run others visible, if_pos mark,
    Text.cutFirst_append absent, List.append_assoc]

/-- A reference attribute is read exactly where one is written: the name, an equals sign between
blanks, and a value that ends at the next quote of its kind. -/
theorem readReferencePart?_eq_some_iff {t rest : Text} {part : FragmentPart} :
    readReferencePart? t = some (part, rest) ↔
      ∃ gap after quote target, (∀ c ∈ gap, Text.isBlank c = true) ∧
        (∀ c ∈ after, Text.isBlank c = true) ∧ isQuote quote = true ∧ quote ∉ target ∧
        part = .reference (referenceName ++ (gap ++ '=' :: after)) quote target ∧
        t = part.text ++ rest := by
  constructor
  · intro read
    unfold readReferencePart? at read
    split at read
    · cases read
    · rename_i r word
      split at read
      · rename_i s sign
        split at read
        · rename_i quote v opened
          split at read
          · rename_i isMark
            split at read
            · cases read
            · rename_i target tail cut
              cases read
              obtain ⟨value, absent⟩ := Text.cutFirst_some cut
              refine ⟨r.takeWhile Text.isBlank, s.takeWhile Text.isBlank, quote, target,
                fun _ => Text.mem_takeWhile, fun _ => Text.mem_takeWhile,
                by simpa [isQuote] using isMark, absent, by simp, ?_⟩
              rw [dropWord?_used word, FragmentPart.text]
              simp only [List.append_assoc, List.cons_append, List.nil_append]
              rw [← value, ← (Text.run_of_dropWhile opened).1, ← (Text.run_of_dropWhile sign).1]
          · cases read
        · cases read
      · cases read
  · rintro ⟨gap, after, quote, target, blanks, others, isMark, absent, rfl, rfl⟩
    exact readReferencePart?_written blanks others isMark absent rest

theorem readReferencePart?_used {t rest : Text} {part : FragmentPart}
    (read : readReferencePart? t = some (part, rest)) : t = part.text ++ rest ∧ part.Shaped := by
  obtain ⟨gap, after, quote, target, blanks, others, isMark, absent, rfl, whole⟩ :=
    readReferencePart?_eq_some_iff.1 read
  refine ⟨whole, isMark, absent, gap, after, rfl, ?_, fun c member => ?_⟩
  · exact fun member => Text.ne_of_class (blanks _ member) (by decide) rfl
  · exact not_quote_of_class (by decide) (by decide) (others c member)

/-- The parts make up the fragment. -/
theorem written_fragmentParts (before : Option Char) (t : Text) :
    FragmentPart.written (fragmentParts before t) = t := by
  fun_induction fragmentParts before t with
  | case1 => rfl
  | case2 before c r _ ih =>
    rw [FragmentPart.written_cons, ih]
    rfl
  | case3 before c r _ _ ih =>
    rw [FragmentPart.written_cons, ih]
    rfl
  | case4 before c r _ part rest step ih =>
    rw [FragmentPart.written_cons, ih]
    exact (readReferencePart?_used step).1.symm

theorem shaped_fragmentParts (before : Option Char) (t : Text) :
    ∀ part ∈ fragmentParts before t, part.Shaped := by
  fun_induction fragmentParts before t with
  | case1 => simp
  | case2 before c r _ ih => exact List.forall_mem_cons.2 ⟨trivial, ih⟩
  | case3 before c r _ _ ih => exact List.forall_mem_cons.2 ⟨trivial, ih⟩
  | case4 before c r _ part rest step ih =>
    exact List.forall_mem_cons.2 ⟨(readReferencePart?_used step).2, ih⟩

theorem bindParts_value (index : Index) (d : Declaration) (parts : List FragmentPart) :
    (bindParts index d parts).value =
      FragmentPart.written (parts.map (·.rewrite fun target => (bind index target d).value)) := by
  induction parts with
  | nil => rfl
  | cons part rest ih =>
    rw [bindParts, Logged.value_bind, Logged.value_bind, ih]
    cases part <;> rfl

/-! ### Rewritten references -/

/-- A reference that is rewritten: the text of the fragment from there on, the quote around the
value, and the ID that becomes the value. -/
structure Rewriting where
  place : Text
  quote : Char
  id : Text
  deriving DecidableEq, Repr

/-- The references among the parts of a fragment that `b` rewrites. -/
def rewritings (b : Text → Text) : List FragmentPart → List Rewriting
  | [] => []
  | .plain _ :: rest => rewritings b rest
  | .reference opening quote target :: rest =>
    if b target = target then rewritings b rest
    else ⟨FragmentPart.written (.reference opening quote target :: rest), quote, b target⟩ ::
      rewritings b rest

/-- The texts from each reference attribute of a tag on to the end of the fragment. -/
def referencePlaces (fragment : Text) : List Text :=
  (scan (fragment ++ rootEnd)).flatMap (Token.places referenceName)

section Rewritings

variable {b : Text → Text}

/-- What stands behind `p`, if its first part is a reference with the value `value`. -/
theorem append_written_reference (p gap after : Text) (quote : Char) (value : Text)
    (rest : List FragmentPart) :
    p ++ FragmentPart.written
        (.reference (referenceName ++ (gap ++ '=' :: after)) quote value :: rest) =
      withValue p referenceName gap after quote value (FragmentPart.written rest) := by
  simp [FragmentPart.written, FragmentPart.text, withValue, attributeStart]

theorem isSpot_of_reference {whole p gap after target : Text} {quote : Char}
    {rest : List FragmentPart}
    (inTag : FragmentPart.written
        (.reference (referenceName ++ (gap ++ '=' :: after)) quote target :: rest) ++ rootEnd ∈
      referencePlaces whole)
    (split : whole = p ++ FragmentPart.written
      (.reference (referenceName ++ (gap ++ '=' :: after)) quote target :: rest))
    (sign : '=' ∉ gap) (marks : ∀ c ∈ after, isQuote c = false) (isMark : isQuote quote = true) :
    IsSpot p referenceName gap after quote := by
  obtain ⟨token, member, place⟩ := List.mem_flatMap.1 inTag
  have here : FragmentPart.written
        (.reference (referenceName ++ (gap ++ '=' :: after)) quote target :: rest) ++ rootEnd =
      attributeStart referenceName gap after quote
        (target ++ quote :: (FragmentPart.written rest ++ rootEnd)) := by
    simp [FragmentPart.written, FragmentPart.text, attributeStart]
  rw [split, List.append_assoc, here] at member
  rw [here] at place
  exact isSpot_of_place member place sign marks isMark

/-- One reference in a tag is rewritten. What can be read with the ID can be read with the value
that was there, and the other way round if the ID is legible. -/
theorem exchange_reference {p gap after target id z : Text} {quote : Char}
    (spot : IsSpot p referenceName gap after quote) (isMark : isQuote quote = true)
    (inside : quote ∉ target) (original : legible quote target = true) (closed : quote ∉ id) :
    (∀ bound, readFragment (withValue p referenceName gap after quote id z) = .ok bound →
      legible quote id = true ∧
        ∃ node, readFragment (withValue p referenceName gap after quote target z) = .ok node ∧
          node.blank referenceName = bound.blank referenceName) ∧
      ∀ node, legible quote id = true →
        readFragment (withValue p referenceName gap after quote target z) = .ok node →
        ∃ bound, readFragment (withValue p referenceName gap after quote id z) = .ok bound := by
  have plain : declaredLabel? referenceName = none := by decide
  have unqualified : (Text.cutFirst ':' referenceName).2 = none := by decide
  refine ⟨fun bound read => ?_, fun node readable read => ?_⟩
  · exact ⟨legible_of_readFragment spot isMark closed read,
      readFragment_exchange plain unqualified spot isMark closed original read⟩
  · obtain ⟨bound, bound_read, _⟩ :=
      readFragment_exchange plain unqualified spot isMark inside readable read
    exact ⟨bound, bound_read⟩

/-- The references are exchanged from the last to the first, so that each is exchanged in front of
bound text and behind text that is still as it was. -/
theorem readFragment_rewrite {whole : Text} {tree : Node} (read : readFragment whole = .ok tree)
    {p : Text} {parts : List FragmentPart} (split : whole = p ++ FragmentPart.written parts)
    (shaped : ∀ part ∈ parts, part.Shaped)
    (inTags : ∀ r ∈ rewritings b parts, r.place ++ rootEnd ∈ referencePlaces whole)
    (quotes : ∀ r ∈ rewritings b parts, r.quote ∉ r.id) :
    ((∃ bound, readFragment (p ++ FragmentPart.written (parts.map (·.rewrite b))) = .ok bound) ↔
        ∀ r ∈ rewritings b parts, legible r.quote r.id = true) ∧
      ∀ bound, readFragment (p ++ FragmentPart.written (parts.map (·.rewrite b))) = .ok bound →
        bound.blank referenceName = tree.blank referenceName := by
  induction parts generalizing p with
  | nil =>
    subst split
    refine ⟨⟨fun _ => by simp [rewritings], fun _ => ⟨tree, read⟩⟩, fun bound again => ?_⟩
    cases read.symm.trans again
    rfl
  | cons part rest ih =>
    have shapedRest : ∀ part ∈ rest, part.Shaped := fun other member =>
      shaped other (List.mem_cons_of_mem _ member)
    have first : ∀ (q : FragmentPart) (others : List FragmentPart),
        p ++ FragmentPart.written (q :: others) = p ++ q.text ++ FragmentPart.written others := by
      intro q others
      rw [FragmentPart.written_cons, List.append_assoc]
    have ih := ih (split.trans (first part rest)) shapedRest
    cases part with
    | plain c =>
      rw [List.map_cons, FragmentPart.rewrite, first]
      exact ih inTags quotes
    | reference opening quote target =>
      rw [List.map_cons, FragmentPart.rewrite]
      by_cases same : b target = target
      · rw [same, first]
        simp only [rewritings, if_pos same] at inTags quotes ⊢
        exact ih inTags quotes
      · simp only [rewritings, if_neg same, List.mem_cons, forall_eq_or_imp] at inTags quotes ⊢
        obtain ⟨legibleRest, keptRest⟩ := ih inTags.2 quotes.2
        obtain ⟨isMark, inside, gap, after, rfl, sign, marks⟩ := shaped _ List.mem_cons_self
        -- `p` is as it was, so the place of the reference in the whole fragment is a spot behind it.
        have spot := isSpot_of_reference (p := p) inTags.1 split sign marks isMark
        rw [append_written_reference] at split ⊢
        rw [← first, append_written_reference] at legibleRest keptRest
        have original : legible quote target = true :=
          legible_of_readFragment spot isMark inside (split ▸ read)
        obtain ⟨back, forth⟩ := exchange_reference spot isMark inside original quotes.1
        refine ⟨⟨?_, ?_⟩, ?_⟩
        · rintro ⟨bound, bound_read⟩
          obtain ⟨readable, node, node_read, _⟩ := back bound bound_read
          exact ⟨readable, legibleRest.1 ⟨node, node_read⟩⟩
        · rintro ⟨readable, others⟩
          obtain ⟨node, node_read⟩ := legibleRest.2 others
          exact forth node readable node_read
        · intro bound bound_read
          obtain ⟨_, node, node_read, kept⟩ := back bound bound_read
          exact kept.symm.trans (keptRest node node_read)

theorem isQuote_of_rewriting {parts : List FragmentPart} (shaped : ∀ part ∈ parts, part.Shaped) :
    ∀ r ∈ rewritings b parts, isQuote r.quote = true := by
  induction parts with
  | nil => simp [rewritings]
  | cons part rest ih =>
    have others := ih fun other member => shaped other (List.mem_cons_of_mem _ member)
    cases part with
    | plain c => exact others
    | reference opening quote target =>
      rw [rewritings]
      split
      · exact others
      · exact List.forall_mem_cons.2 ⟨(shaped _ List.mem_cons_self).1, others⟩

end Rewritings

/-- The references in the documentation of `d` that binding rewrites. -/
def boundReferences (index : Index) (d : Declaration) (fragment : Text) : List Rewriting :=
  rewritings (fun target => (bind index target d).value) (fragmentParts none fragment)

/-- Where all rewritten references stand in tags, well-formed documentation is still well-formed
after binding exactly if every ID that is written into it can be read as the value of its
attribute; then its tree is the same but for the values of references. IDs are not escaped: one
with a `<` from a type argument list cannot be read. -/
theorem bound_markup_readable_iff (index : Index) (d : Declaration) {fragment : Text} {tree : Node}
    (declares : d.kind ≠ .namespaceKind) (documented : d.documentation = some fragment)
    (wellFormed : parseFragment fragment = .ok tree)
    (inTags : ∀ r ∈ boundReferences index d fragment,
      r.place ++ rootEnd ∈ referencePlaces fragment)
    (quotes : ∀ r ∈ boundReferences index d fragment, r.quote ∉ r.id) :
    ∃ member, (member? index d).value = some member ∧
      ((∃ bound, parseFragment member.documentation = .ok bound) ↔
        ∀ r ∈ boundReferences index d fragment, legible r.quote r.id = true) ∧
      (∀ bound, parseFragment member.documentation = .ok bound →
        bound.blank referenceName = tree.blank referenceName) ∧
      ∀ r ∈ boundReferences index d fragment, '&' ∉ r.id →
        (legible r.quote r.id = true ↔ ∀ c ∈ r.id, ¬ (c = '<' ∨ isForbidden c = true)) := by
  have shaped := shaped_fragmentParts none fragment
  have kept := readFragment_rewrite (p := []) (parseFragment_eq_ok_iff.1 wellFormed)
    (written_fragmentParts none fragment).symm shaped inTags quotes
  rw [List.nil_append, ← bindParts_value] at kept
  have resolved : (member? index d).value = some
      { name := d.name, kind := d.kind, signature := signature d
        documentationId := documentationId d
        documentation := (bindFragment index d fragment).value } := by
    rw [member?, if_neg declares, documented]
    rfl
  refine ⟨_, resolved, ?_⟩
  simp only [parseFragment_eq_ok_iff]
  refine ⟨kept.1, kept.2, fun r member plain => ?_⟩
  exact legible_iff_legal (isQuote_of_rewriting shaped r member) (quotes r member) plain

/-- A method that takes a parameter of the given type. -/
def addition (typeText documentation : Text) : Declaration :=
  { name := "Add".toList, kind := .method, containingTypes := ["Pairs".toList]
    parameters := [{ name := "pair".toList, typeText }], documentation := some documentation }

/-- The index of a compilation that declares `d` alone. -/
def indexOf (d : Declaration) : Index :=
  Index.ofFiles [⟨"Pairs.cs".toList, [d]⟩]

/-- A fragment with a reference in a tag inside another one. -/
def seeAddition : Text :=
  "<summary>Adds a pair, see <see cref = \"Add\"/>.</summary>".toList

/-- A fragment with a reference in its text. -/
def quoteAddition : Text :=
  "Write cref=\"Add\".".toList

theorem bound_markup_readable_builtin :
    ∃ tree member bound, parseFragment seeAddition = .ok tree ∧
      (boundReferences (indexOf (addition "int".toList seeAddition))
        (addition "int".toList seeAddition) seeAddition).map (·.id) =
          ["M:Pairs.Add(System.Int32)".toList] ∧
      (member? (indexOf (addition "int".toList seeAddition))
        (addition "int".toList seeAddition)).value = some member ∧
      parseFragment member.documentation = .ok bound ∧
      bound.blank referenceName = tree.blank referenceName := by
  have accepted : (parseFragment seeAddition).isOk = true := by decide +kernel
  cases wellFormed : parseFragment seeAddition with
  | error message =>
    rw [wellFormed] at accepted
    cases accepted
  | ok tree =>
    obtain ⟨member, resolved, readable, kept, _⟩ := bound_markup_readable_iff
      (indexOf (addition "int".toList seeAddition)) (addition "int".toList seeAddition) (by decide)
      rfl wellFormed (by decide +kernel) (by decide +kernel)
    obtain ⟨bound, read⟩ := readable.2 (by decide +kernel)
    exact ⟨tree, member, bound, rfl, by decide +kernel, resolved, read, kept bound read⟩

/-- The ID of a method with a tuple parameter keeps the angle brackets of the tuple's types, and
the documentation that refers to the method cannot be read any more. A reference in text is
rewritten like one in a tag, and the text is another one afterwards. -/
theorem bound_markup_broken_or_altered :
    (parseFragment seeAddition).isOk = true ∧
    ((member? (indexOf (addition "(List<int>, int)".toList seeAddition))
      (addition "(List<int>, int)".toList seeAddition)).value.map
        fun member => (parseFragment member.documentation).isOk) = some false ∧
    (parseFragment quoteAddition).toOption.map Node.flatten = some quoteAddition ∧
    ((member? (indexOf (addition "int".toList quoteAddition))
      (addition "int".toList quoteAddition)).value.map
        fun member => (parseFragment member.documentation).toOption.map Node.flatten) =
      some (some "Write cref=\"M:Pairs.Add(System.Int32)\".".toList) := by
  decide +kernel

end DocReport.Compilation

import DocReport.Proofs.Markup.Content
import DocReport.Proofs.Markup.Splice

/-!
Fragments as content. A fragment is read up to the end tag that is put behind it, and no accepted
fragment ends the root itself: behind an early end tag of the root the last one would be junk. So a
fragment is accepted exactly if it is content from its first character to its last, whatever stands
behind it.
-/
namespace DocReport.Markup

theorem parseFragment_eq_ok_iff {fragment : Text} {node : Node} :
    parseFragment fragment = .ok node ↔ readFragment fragment = .ok node := by
  unfold parseFragment
  cases readFragment fragment with
  | ok root => simp
  | error fault => simp

/-! ### Behind the root -/

/-- The end tag of the root. -/
def rootEnd : Text := ['<', '/', 'r', 'o', 'o', 't', '>']

theorem readFragment_eq (fragment : Text) :
    readFragment fragment = build rootFrame [] (scan (fragment ++ rootEnd)) := by
  have ends : "</root>".toList = rootEnd := by decide
  rw [readFragment, ends]

/-- Only its last character closes the end tag of the root. -/
theorem rootEnd_closed {x rest : Text} (split : x ++ '>' :: rest = rootEnd) : rest = [] := by
  have whole : x ++ '>' :: rest = ['<', '/', 'r', 'o', 'o', 't'] ++ ['>'] := split
  rcases List.append_eq_append_iff.1 whole with ⟨a, front, tail⟩ | ⟨a, _, tail⟩
  · cases a with
    | nil => exact (List.cons.inj tail).2
    | cons c a =>
      obtain ⟨rfl, _⟩ := List.cons.inj tail
      have early : '>' ∈ ['<', '/', 'r', 'o', 'o', 't'] := by rw [front]; simp
      exact absurd early (by decide)
  · cases a with
    | nil => exact (List.cons.inj tail).2.symm
    | cons c a => simp at tail

/-- A closing bracket stands before the end tag of the root, or closes it. -/
theorem rootEnd_cut {x rest t : Text} (whole : x ++ '>' :: rest = t ++ rootEnd) :
    rest = [] ∨ ∃ front, rest = front ++ rootEnd := by
  have last : rootEnd <:+ x ++ '>' :: rest := ⟨t, whole.symm⟩
  by_cases long : rootEnd.length ≤ rest.length
  · have suffix : rest <:+ x ++ '>' :: rest := ⟨x ++ ['>'], by simp⟩
    obtain ⟨front, same⟩ := List.suffix_of_suffix_length_le last suffix long
    exact Or.inr ⟨front, same.symm⟩
  · have short : ('>' :: rest).length ≤ rootEnd.length := by
      simp only [List.length_cons]
      omega
    obtain ⟨y, split⟩ := List.suffix_of_suffix_length_le (List.suffix_append x _) last short
    exact Or.inl (rootEnd_closed split)

/-- The end tag of the root does not end with a comment or an instruction, so it stands behind any
of them. -/
theorem rootEnd_behind {inner rest t : Text} {c : Char}
    (whole : inner ++ c :: '>' :: rest = t ++ rootEnd) (other : c ≠ 't') :
    ∃ front, rest = front ++ rootEnd := by
  have split : inner ++ [c] ++ '>' :: rest = t ++ rootEnd := by simpa using whole
  rcases rootEnd_cut split with rfl | behind
  · have ends : inner ++ [c, '>'] = t ++ ['<', '/', 'r', 'o', 'o'] ++ ['t', '>'] := by
      rw [whole, rootEnd, List.append_assoc]
      rfl
    have tails : [c, '>'] = ['t', '>'] := List.append_inj_right' ends rfl
    exact absurd (List.cons.inj tails).1 other
  · exact behind

theorem readAside_used {t rest : Text} (read : readAside t = some (.ok rest)) :
    ∃ inner c, t = inner ++ c :: '>' :: rest ∧ c ≠ 't' := by
  unfold readAside at read
  simp only at read
  split at read
  · obtain ⟨opened, word, read⟩ := bind_ok (Option.some.inj read)
    obtain ⟨rfl, _⟩ := expectWord_used word
    obtain ⟨inner, rfl, _⟩ := skipComment_used read
    exact ⟨'!' :: '-' :: '-' :: (inner ++ ['-']), '-', by simp, by decide⟩
  · obtain ⟨⟨target, tail⟩, instruction, read⟩ := bind_ok (Option.some.inj read)
    obtain ⟨inner, rfl, _⟩ := readInstruction_used instruction
    simp only at read
    split at read
    · cases read
    · cases read
      exact ⟨'?' :: inner, '?', rfl, by decide⟩
  · cases read

/-- The end tag of the root cannot follow the root. -/
theorem epilogueFault?_rootEnd (t : Text) : epilogueFault? (t ++ rootEnd) ≠ none := by
  generalize whole : t ++ rootEnd = u
  fun_induction epilogueFault? u generalizing t with
  | case1 => simp [rootEnd] at whole
  | case2 c r space ih =>
    cases t with
    | nil =>
      obtain ⟨rfl, _⟩ := List.cons.inj whole
      exact absurd space (by decide)
    | cons d t => exact ih t (List.cons.inj whole).2
  | case3 => simp
  | case4 => simp
  | case5 r rest step _ ih =>
    cases t with
    | nil =>
      obtain ⟨_, rfl⟩ := List.cons.inj whole
      cases step
    | cons d t =>
      obtain ⟨inner, c, rfl, other⟩ := readAside_used step
      obtain ⟨front, same⟩ := rootEnd_behind (List.cons.inj whole).2.symm other
      exact ih front same.symm
  | case6 => simp

/-! ### Tokens of a fragment -/

/-- Whether a text can be followed by anything without a line end or the end of a section across
the border. -/
def EndsApart (t : Text) : Prop :=
  t.getLast? ≠ some ']' ∧ t.getLast? ≠ some '\r'

instance (t : Text) : Decidable (EndsApart t) :=
  inferInstanceAs (Decidable (_ ∧ _))

theorem EndsApart.of_append {s t : Text} (apart : EndsApart (s ++ t)) : EndsApart t := by
  cases t with
  | nil => exact ⟨by simp, by simp⟩
  | cons c r => simpa [EndsApart, List.getLast?_append] using apart

/-- What follows a token inside a text that ends apart may go on behind the text in any way. -/
theorem Follows.append_apart {c : Char} {used u t : Text} (follows : Follows c used (u ++ t))
    (apart : EndsApart (c :: (used ++ u))) (other : Text) : Follows c used (u ++ other) := by
  rintro rfl
  obtain ⟨noFeed, noSection⟩ := follows rfl
  obtain ⟨noBracket, noReturn⟩ := apart
  match u with
  | [] => exact ⟨fun lineEnd => absurd (by simp [lineEnd]) noReturn,
      fun bracket => absurd (by simp [bracket]) noBracket⟩
  | [d] =>
    refine ⟨noFeed, fun _ next => noBracket ?_⟩
    have second : d = ']' := by simpa using congrArg List.head? next
    simp [second]
  | d :: e :: more => exact ⟨noFeed, noSection⟩

/-- A row of tokens is cut where the text is cut, and what stands before the cut is read again with
anything behind it. -/
theorem scan_cut {t : Text} {front tail : List Token} {token : Token}
    (row : scan t = front ++ token :: tail) (read : ∀ fault, token ≠ .broken fault) :
    ∃ u c r rest, t = u ++ c :: r ∧ readToken c r = .ok (token, rest) ∧ scan rest = tail ∧
      (EndsApart u → ∀ other, ∃ again, scan (u ++ other) = again ++ scan other ∧
        front.map Token.placeless = again.map Token.placeless) := by
  fun_induction scan t generalizing front with
  | case1 => simp at row
  | case2 c r fault _ =>
    cases front with
    | nil => exact absurd (List.cons.inj row).1.symm (read fault)
    | cons first front => simp at row
  | case3 c r first rest step ih =>
    cases front with
    | nil =>
      obtain ⟨rfl, rfl⟩ := List.cons.inj row
      exact ⟨[], c, r, rest, rfl, step, rfl, fun _ other => ⟨[], rfl, rfl⟩⟩
    | cons _ front =>
      rw [List.cons_append] at row
      obtain ⟨rfl, others⟩ := List.cons.inj row
      obtain ⟨u, d, s, last, rfl, reading, tailed, again⟩ := ih others
      obtain ⟨used, rfl, follows, reread⟩ := readToken_used step
      refine ⟨c :: (used ++ u), d, s, last, by simp, reading, tailed, fun apart other => ?_⟩
      have inner : EndsApart u := EndsApart.of_append (s := c :: used) apart
      obtain ⟨others, rescanned, same⟩ := again inner other
      obtain ⟨token, found, sameFirst⟩ := reread (u ++ other) (follows.append_apart apart other)
      refine ⟨token :: others, ?_, by simp [same, sameFirst]⟩
      rw [List.cons_append, List.append_assoc, scan_ok found, rescanned, List.cons_append]

theorem scan_rootEnd : scan rootEnd = [.endTag rootTag ['r', 'o', 'o', 't', '>'] []] := by
  have read : readToken '<' ['/', 'r', 'o', 'o', 't', '>'] =
      .ok (.endTag rootTag ['r', 'o', 'o', 't', '>'] [], []) := rfl
  rw [rootEnd, scan_ok read, scan]

/-- An accepted fragment is content from its first character to its last: it is read up to the end
tag behind it, and read again in the same way in front of anything else. -/
theorem content_of_readFragment {fragment : Text} {node : Node}
    (read : readFragment fragment = .ok node) :
    ∃ tokens nodes, Content .outermost tokens nodes ∧ node = rootFrame.holding nodes ∧
      scan (fragment ++ rootEnd) = tokens ++ scan rootEnd ∧
      (EndsApart fragment → ∀ other, ∃ again, scan (fragment ++ other) = again ++ scan other ∧
        tokens.map Token.placeless = again.map Token.placeless) := by
  rw [readFragment_eq] at read
  obtain ⟨tokens, nodes, place, behind, tail, made, row⟩ := content_of_build read
  rw [row, build_content made rootFrame rfl] at read
  simp only [build] at read
  split at read
  · cases read
  · split at read
    · cases read
    · rename_i noFault
      cases read
      obtain ⟨u, c, r, rest, whole, step, tailed, again⟩ := scan_cut row (by simp)
      obtain ⟨rfl, rfl, inner, rfl, absent⟩ := readToken_endTag step
      -- Nothing is left behind this end tag, so it is the one behind the fragment.
      have closes : u ++ ['<', '/'] ++ inner ++ '>' :: behind = fragment ++ rootEnd := by
        rw [whole]
        simp
      rcases rootEnd_cut closes with rfl | ⟨front, rfl⟩
      · have last : '<' ∉ '/' :: (inner ++ ['>']) := by simp [absent]
        obtain ⟨rfl, same⟩ := Text.append_mark_inj (by decide) last whole
        refine ⟨tokens, nodes, made, Frame.close_addAll rfl nodes, ?_, again⟩
        rw [row, rootEnd, same, scan_ok step, tailed]
      · exact absurd noFault (epilogueFault?_rootEnd front)

/-- Content in front of the end tag of the root is an accepted fragment. -/
theorem readFragment_of_content {fragment : Text} {tokens : List Token} {nodes : List Node}
    (made : Content .outermost tokens nodes)
    (row : scan (fragment ++ rootEnd) = tokens ++ scan rootEnd) :
    readFragment fragment = .ok (rootFrame.holding nodes) := by
  rw [readFragment_eq, row, build_content made rootFrame rfl, scan_rootEnd]
  have closes : (rootFrame.addAll nodes).close = rootFrame.holding nodes :=
    Frame.close_addAll rfl nodes
  rw [build, if_neg (by simp [Frame.addAll, rootFrame]), epilogueFault?]
  simp only [closes]

end DocReport.Markup

import DocReport.Source.Reader

/-!
Entries and the tokens they are read from. Tokens stand on lines that never go back. Whatever is
read at a token stands under the heading of that token, and a type that is read is of one of the
kinds that can have members. So the entries of a source stand in the order of their lines.
-/
namespace DocReport.Source

/-- Kinds of types that can have a body of further declarations: all but delegates. -/
def isMemberedType (kind : Kind) : Bool :=
  kind.isType && kind != .delegateKind

/-- The line of an entry; the end of a body has none. -/
def Entry.line? : Entry → Option Nat
  | .namespaceBlock heading _ => some heading.line
  | .namespaceFile heading _ => some heading.line
  | .type heading _ _ _ _ => some heading.line
  | .member heading _ _ _ _ _ => some heading.line
  | .close => none

/-- The heading of an entry; the end of a body has none. -/
def Entry.heading? : Entry → Option Heading
  | .namespaceBlock heading _ => some heading
  | .namespaceFile heading _ => some heading
  | .type heading _ _ _ _ => some heading
  | .member heading _ _ _ _ _ => some heading
  | .close => none

theorem Entry.line?_eq (entry : Entry) : entry.line? = entry.heading?.map (·.line) := by
  cases entry <;> rfl

/-- Entries whose kind fits: what is entered as a type can have members. -/
def Entry.isProper : Entry → Bool
  | .type _ kind _ _ _ => isMemberedType kind
  | _ => true

/-- What can be read at a token: proper entries on its line. -/
def Reading.StandsOn (line : Nat) (reading : Reading) : Prop :=
  ∀ entry ∈ reading.entries,
    entry.isProper = true ∧ ∀ own, entry.line? = some own → own = line

/-- What can be read under a heading: proper entries that have it. -/
def Reading.StandsUnder (heading : Heading) (reading : Reading) : Prop :=
  ∀ entry ∈ reading.entries,
    entry.isProper = true ∧ ∀ own, entry.heading? = some own → own = heading

theorem tokensOf_lines (lead : List Lexeme) (line : Nat) (ls : List Lexeme) :
    (∀ t ∈ tokensOf lead line ls, line ≤ t.line) ∧
      (tokensOf lead line ls).Pairwise (·.line ≤ ·.line) := by
  induction ls generalizing lead line with
  | nil => simp [tokensOf]
  | cons l rest ih =>
    unfold tokensOf
    split
    · obtain ⟨later, ordered⟩ := ih (lead ++ [l]) (line + lineFeeds l.text)
      refine ⟨fun t member => ?_, ordered⟩
      have := later t member
      omega
    · obtain ⟨later, ordered⟩ := ih [] (line + lineFeeds l.text)
      refine ⟨fun t member => ?_, List.pairwise_cons.2 ⟨fun t member => ?_, ordered⟩⟩
      · rcases List.mem_cons.1 member with rfl | behind
        · exact Nat.le_refl _
        · have := later t behind
          omega
      · have := later t member
        change line ≤ t.line
        omega

section Readings

variable {heading : Heading} {kind : Kind} {ts : List Token}

/-- Variables and all other members are entered as members, under the heading they are given. -/
theorem standsUnder_of_members {reading : Reading}
    (members : ∀ entry ∈ reading.entries, ∃ kind name typeParameters parameters typeText,
      entry = .member heading kind name typeParameters parameters typeText) :
    reading.StandsUnder heading := by
  intro entry member
  obtain ⟨kind, name, typeParameters, parameters, typeText, rfl⟩ := members entry member
  refine ⟨rfl, fun own same => ?_⟩
  exact (Option.some.inj same).symm

theorem standsUnder_member {reading : Reading} {name typeText : Text} {typeParameters : List Text}
    {parameters : List Parameter}
    (only : reading.entries = [.member heading kind name typeParameters parameters typeText]) :
    reading.StandsUnder heading := by
  apply standsUnder_of_members
  intro entry member
  rw [only, List.mem_singleton] at member
  exact ⟨_, _, _, _, _, member⟩

theorem Reading.StandsUnder.after {reading : Reading} (stands : reading.StandsUnder heading)
    (passed : Nat) : (reading.after passed).StandsUnder heading :=
  stands

theorem standsUnder_readVariables (typeText : Text) :
    (readVariables heading kind typeText ts).StandsUnder heading := by
  apply standsUnder_of_members
  intro entry member
  obtain ⟨name, _, rfl⟩ := List.mem_map.1 member
  exact ⟨_, _, _, _, _, rfl⟩

theorem standsUnder_readType (membered : isMemberedType kind = true) :
    (readType heading kind ts).StandsUnder heading := by
  intro entry member
  rw [List.mem_singleton.1 member]
  exact ⟨membered, fun own same => (Option.some.inj same).symm⟩

theorem standsUnder_readNamespace : (readNamespace heading ts).StandsUnder heading := by
  unfold readNamespace
  dsimp only
  split
  · intro entry member
    rw [List.mem_singleton.1 member]
    exact ⟨rfl, fun own same => (Option.some.inj same).symm⟩
  · intro entry member
    rw [List.mem_singleton.1 member]
    exact ⟨rfl, fun own same => (Option.some.inj same).symm⟩

theorem standsUnder_readEvent : (readEvent heading ts).StandsUnder heading := by
  unfold readEvent
  dsimp only
  split
  · exact standsUnder_member rfl
  · exact standsUnder_readVariables _

theorem standsUnder_readNamed (typeText : Text) :
    (readNamed heading typeText ts).StandsUnder heading := by
  unfold readNamed
  dsimp only
  split
  · exact standsUnder_member rfl
  · split
    · exact standsUnder_member rfl
    · exact standsUnder_readVariables typeText

theorem standsUnder_readTyped : (readTyped heading ts).StandsUnder heading := by
  unfold readTyped
  dsimp only
  split
  · exact standsUnder_member rfl
  · split
    · exact standsUnder_member rfl
    · exact standsUnder_readNamed _

theorem standsUnder_readMember : (readMember heading ts).StandsUnder heading := by
  unfold readMember
  split
  · exact fun entry member => absurd member List.not_mem_nil
  · split
    · exact standsUnder_readEvent.after 1
    · split
      · exact standsUnder_member rfl
      · split
        · exact standsUnder_member rfl
        · split
          · exact standsUnder_member rfl
          · exact standsUnder_readTyped

theorem isMemberedType_of_typeKind? {t : Token} (found : typeKind? t = some kind) :
    isMemberedType kind = true := by
  unfold typeKind? at found
  split at found
  · cases found
    rfl
  · split at found
    · cases found
      rfl
    · split at found
      · cases found
        rfl
      · split at found
        · cases found
          rfl
        · cases found

theorem isMemberedType_of_typeStart? {words : Nat} (found : typeStart? ts = some (kind, words)) :
    isMemberedType kind = true := by
  unfold typeStart? at found
  split at found
  · cases found
  · split at found
    · rename_i known
      cases found
      exact isMemberedType_of_typeKind? known
    · split at found
      · split at found
        · cases found
          rfl
        · split at found
          · cases found
            rfl
          · cases found
      · cases found

theorem standsUnder_readDeclaration? {reading : Reading}
    (found : readDeclaration? heading ts = some reading) : reading.StandsUnder heading := by
  unfold readDeclaration? at found
  split at found
  · cases found
  · split at found
    · cases found
      exact standsUnder_readNamespace.after 1
    · split at found
      · cases found
        exact standsUnder_member rfl
      · split at found
        · rename_i known
          cases found
          exact (standsUnder_readType (isMemberedType_of_typeStart? known)).after _
        · cases found

end Readings

/-- What is read at a token stands under the heading of that token. -/
theorem standsUnder_readEntry (body : Body) (t : Token) (rest : List Token) :
    (readEntry body t rest).StandsUnder t.heading := by
  have nothing : ∀ (length : Nat), Reading.StandsUnder t.heading { entries := [], length } :=
    fun _ entry member => absurd member List.not_mem_nil
  unfold readEntry
  dsimp only
  split
  · intro entry member
    rw [List.mem_singleton.1 member]
    exact ⟨rfl, fun own same => by cases same⟩
  · split
    · exact nothing _
    · split
      · exact @standsUnder_member t.heading _ _ _ _ _ _ rfl
      · split
        · exact nothing _
        · split
          · exact nothing _
          · split
            · rename_i found
              exact (standsUnder_readDeclaration? found).after _
            · split
              · exact nothing _
              · exact standsUnder_readMember.after _

/-- What is read at a token stands on the line of that token. -/
theorem standsOn_readEntry (body : Body) (t : Token) (rest : List Token) :
    (readEntry body t rest).StandsOn t.line := by
  intro entry member
  obtain ⟨proper, under⟩ := standsUnder_readEntry body t rest entry member
  refine ⟨proper, fun own same => ?_⟩
  rw [Entry.line?_eq] at same
  obtain ⟨heading, found, rfl⟩ := Option.map_eq_some_iff.1 same
  rw [under heading found]
  rfl

/-- Every entry stands on the line of a token. -/
theorem exists_token_of_entry {bodies : List Body} {ts : List Token} {entry : Entry}
    (member : entry ∈ entries bodies ts) :
    entry.isProper = true ∧ ∀ line, entry.line? = some line → ∃ t ∈ ts, t.line = line := by
  fun_induction entries bodies ts with
  | case1 => cases member
  | case2 bodies t rest reading inside ih =>
    rcases List.mem_append.1 member with own | later
    · obtain ⟨proper, line⟩ := standsOn_readEntry (bodies.head?.getD .file) t rest entry own
      exact ⟨proper, fun n same => ⟨t, List.mem_cons_self, (line n same).symm⟩⟩
    · obtain ⟨proper, line⟩ := ih later
      refine ⟨proper, fun n same => ?_⟩
      obtain ⟨u, listed, stands⟩ := line n same
      exact ⟨u, List.mem_cons_of_mem _ (List.mem_of_mem_drop listed), stands⟩

/-- Entries stand in the order of their lines. -/
theorem entries_in_order {bodies : List Body} {ts : List Token}
    (ordered : ts.Pairwise (·.line ≤ ·.line)) :
    (entries bodies ts).Pairwise fun a b =>
      ∀ m, a.line? = some m → ∀ n, b.line? = some n → m ≤ n := by
  fun_induction entries bodies ts with
  | case1 => exact List.Pairwise.nil
  | case2 bodies t rest reading inside ih =>
    obtain ⟨first, others⟩ := List.pairwise_cons.1 ordered
    have stands := standsOn_readEntry (bodies.head?.getD .file) t rest
    refine List.pairwise_append.2 ⟨?_, ih (others.sublist (List.drop_sublist _ _)), ?_⟩
    · -- Entries of one reading share their line.
      refine List.pairwise_of_forall_mem_list fun a early b late m atM n atN => ?_
      exact Nat.le_of_eq (((stands a early).2 m atM).trans ((stands b late).2 n atN).symm)
    · intro a early b late m atM n atN
      obtain ⟨u, listed, stands'⟩ := (exists_token_of_entry late).2 n atN
      rw [(stands a early).2 m atM, ← stands']
      exact first u (List.mem_of_mem_drop listed)

end DocReport.Source

import DocReport.Text.Basic

/-!
Bracket nesting in written types: cutting a list at the separators that stand in no bracket, and
dropping type argument lists. The depth may go below zero; text with unmatched closing brackets is
accepted.
-/
namespace DocReport.Symbol

/-- How a character changes the bracket depth. -/
def nesting (c : Char) : Int :=
  if c ∈ ['<', '\x7b', '[', '('] then 1
  else if c ∈ ['>', '\x7d', ']', ')'] then -1
  else 0

/-- Cuts at the separators outside brackets, starting at `depth`. -/
def cutAtDepth (isSeparator : Char → Bool) (depth : Int) : Text → List Text
  | [] => [[]]
  | c :: r =>
    let inner := depth + nesting c
    if isSeparator c && inner == 0 then [] :: cutAtDepth isSeparator inner r
    else
      match cutAtDepth isSeparator inner r with
      | [] => [[c]]
      | part :: parts => (c :: part) :: parts

/-- The trimmed parts between separators that stand in no bracket; blank text has none. -/
def splitTopLevel (isSeparator : Char → Bool) (t : Text) : List Text :=
  match (cutAtDepth isSeparator 0 t).map Text.trim with
  | [[]] => []
  | parts => parts

/-- The parts of a comma-separated list of types. -/
def splitArguments (t : Text) : List Text :=
  splitTopLevel (· == ',') t

/-- Drops what stands in angle brackets or braces, starting at `depth`. -/
def dropArgumentsFrom : Int → Text → Text
  | _, [] => []
  | depth, c :: r =>
    if c = '<' ∨ c = '\x7b' then dropArgumentsFrom (depth + 1) r
    else if c = '>' ∨ c = '\x7d' then dropArgumentsFrom (depth - 1) r
    else if depth = 0 then c :: dropArgumentsFrom depth r
    else dropArgumentsFrom depth r

/-- A name without its type argument lists. -/
def dropArguments (name : Text) : Text :=
  dropArgumentsFrom 0 name

theorem length_le_of_mem_cutAtDepth {isSeparator : Char → Bool} {depth : Int} {t part : Text}
    (member : part ∈ cutAtDepth isSeparator depth t) : part.length ≤ t.length := by
  induction t generalizing depth part with
  | nil => simp_all [cutAtDepth]
  | cons c r ih =>
    simp only [cutAtDepth] at member
    split at member
    · rcases List.mem_cons.1 member with rfl | member
      · simp
      · exact Nat.le_succ_of_le (ih member)
    · split at member
      · simp_all
      · rename_i first rest cut
        rcases List.mem_cons.1 member with rfl | member
        · have := ih (cut ▸ List.mem_cons_self)
          simpa using this
        · exact Nat.le_succ_of_le (ih (cut ▸ List.mem_cons_of_mem _ member))

theorem length_le_of_mem_splitArguments {t part : Text} (member : part ∈ splitArguments t) :
    part.length ≤ t.length := by
  have mapped : part ∈ (cutAtDepth (· == ',') 0 t).map Text.trim := by
    simp only [splitArguments, splitTopLevel] at member
    split at member
    · simp at member
    · exact member
  obtain ⟨raw, inside, rfl⟩ := List.mem_map.1 mapped
  exact Nat.le_trans (Text.length_trim_le raw) (length_le_of_mem_cutAtDepth inside)

end DocReport.Symbol

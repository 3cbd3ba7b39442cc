import DocReport.Compilation.Binding

/-!
References in documentation are written with entities for ampersands and angle brackets, and
reading the entities gives back the reference. The entities are read in three passes, one for each;
as the ampersand comes last, what one pass has restored is not read again by the next.
-/
namespace DocReport.Compilation

/-- The characters that are written as entities. -/
def escapedCharacters : List Char :=
  ['&', '<', '>']

/-- A character as it is written in markup. -/
def escapeCharacter (c : Char) : Text :=
  if c = '&' then ['&', 'a', 'm', 'p', ';']
  else if c = '<' then ['&', 'l', 't', ';']
  else if c = '>' then ['&', 'g', 't', ';']
  else [c]

/-- A text as it is written in markup. -/
def escape (t : Text) : Text :=
  t.flatMap escapeCharacter

/-- A character between two passes: as it is once its entity has been read. -/
def escapeUnless (restored : List Char) (c : Char) : Text :=
  if c ∈ restored then [c] else escapeCharacter c

theorem escapeCharacter_of_not_mem {c : Char} (plain : c ∉ escapedCharacters) :
    escapeCharacter c = [c] := by
  simp only [escapedCharacters, List.mem_cons, not_or] at plain
  simp [escapeCharacter, plain]

/-- A pass that does its work character by character does it on a whole text. -/
theorem replace_flatMap {pattern replacement : Text} {f g : Char → Text}
    (step : ∀ c rest, Text.replaceFrom pattern replacement 0 (f c ++ rest) =
      g c ++ Text.replaceFrom pattern replacement 0 rest) (t : Text) :
    Text.replace pattern replacement (t.flatMap f) = t.flatMap g := by
  unfold Text.replace
  induction t with
  | nil => rfl
  | cons c r ih => rw [List.flatMap_cons, step, ih, List.flatMap_cons]

section Pass

variable {x : Char} (escaped : x ∈ escapedCharacters)

include escaped

theorem replaceFrom_hit (rest : Text) :
    Text.replaceFrom (escapeCharacter x) [x] 0 (escapeCharacter x ++ rest) =
      x :: Text.replaceFrom (escapeCharacter x) [x] 0 rest := by
  simp only [escapedCharacters, List.mem_cons, List.not_mem_nil, or_false] at escaped
  rcases escaped with rfl | rfl | rfl <;>
    simp [escapeCharacter, Text.replaceFrom, List.isPrefixOf]

theorem replaceFrom_plain {c : Char} (plain : c ≠ '&') (rest : Text) :
    Text.replaceFrom (escapeCharacter x) [x] 0 (c :: rest) =
      c :: Text.replaceFrom (escapeCharacter x) [x] 0 rest := by
  simp only [escapedCharacters, List.mem_cons, List.not_mem_nil, or_false] at escaped
  rcases escaped with rfl | rfl | rfl <;>
    simp [escapeCharacter, Text.replaceFrom, List.isPrefixOf, Ne.symm plain]

/-- The entity of another character begins like this one, but goes on differently. -/
theorem replaceFrom_miss {c : Char} (escaped' : c ∈ escapedCharacters) (other : c ≠ x)
    (rest : Text) :
    Text.replaceFrom (escapeCharacter x) [x] 0 (escapeCharacter c ++ rest) =
      escapeCharacter c ++ Text.replaceFrom (escapeCharacter x) [x] 0 rest := by
  simp only [escapedCharacters, List.mem_cons, List.not_mem_nil, or_false] at escaped escaped'
  rcases escaped with rfl | rfl | rfl <;> rcases escaped' with rfl | rfl | rfl <;>
    simp [escapeCharacter, Text.replaceFrom, List.isPrefixOf] at other ⊢

/-- One pass restores one character, as long as no ampersand has been restored before. -/
theorem replace_entity {restored : List Char} (pending : '&' ∉ restored) (t : Text) :
    Text.replace (escapeCharacter x) [x] (t.flatMap (escapeUnless restored)) =
      t.flatMap (escapeUnless (x :: restored)) := by
  apply replace_flatMap
  intro c rest
  by_cases done : c ∈ restored
  · have plain : c ≠ '&' := by
      rintro rfl
      exact pending done
    rw [escapeUnless, if_pos done, escapeUnless, if_pos (List.mem_cons_of_mem _ done)]
    exact replaceFrom_plain escaped plain rest
  · rw [escapeUnless, if_neg done]
    by_cases same : c = x
    · subst same
      rw [escapeUnless, if_pos List.mem_cons_self]
      exact replaceFrom_hit escaped rest
    · rw [escapeUnless, if_neg (by simp [same, done])]
      by_cases escaped' : c ∈ escapedCharacters
      · exact replaceFrom_miss escaped escaped' same rest
      · have plain : c ≠ '&' := by
          rintro rfl
          exact escaped' (by decide)
        rw [escapeCharacter_of_not_mem escaped']
        exact replaceFrom_plain escaped plain rest

end Pass

/-- Reading the entities undoes writing them, for every text. -/
theorem unescape_escape (t : Text) : unescape (escape t) = t := by
  have start : escape t = t.flatMap (escapeUnless []) := rfl
  have passes : ∀ s, unescape s = Text.replace (escapeCharacter '&') ['&']
      (Text.replace (escapeCharacter '<') ['<'] (Text.replace (escapeCharacter '>') ['>'] s)) :=
    fun _ => rfl
  have finish : escapeUnless ['&', '<', '>'] = fun c => [c] := by
    funext c
    by_cases escaped : c ∈ escapedCharacters
    · exact if_pos escaped
    · exact (if_neg escaped).trans (escapeCharacter_of_not_mem escaped)
  rw [passes, start, replace_entity (by decide) (by decide), replace_entity (by decide) (by decide),
    replace_entity (by decide) (by decide), finish, List.flatMap_singleton']

end DocReport.Compilation

import DocReport.Compilation.Binding
import DocReport.Text.Word

/-!
References inside a documentation fragment. They are found in the text itself, so that a fragment
which is no well-formed markup has its references bound too.
-/
namespace DocReport.Compilation

open DocReport.Symbol

/-- A part of a fragment: a character, or a reference attribute with its text up to the opening
quote, that quote, and its value. -/
inductive FragmentPart where
  | plain (c : Char)
  | reference (opening : Text) (quote : Char) (target : Text)
  deriving DecidableEq, Repr

/-- A part as it is written. -/
def FragmentPart.text : FragmentPart → Text
  | .plain c => [c]
  | .reference opening quote target => opening ++ quote :: target ++ [quote]

/-- The name of reference attributes. -/
def referenceName : Text := "cref".toList

/-- Drops a word from the front of a text. -/
def dropWord? : Text → Text → Option Text
  | [], t => some t
  | _ :: _, [] => none
  | w :: ws, c :: r => if w = c then dropWord? ws r else none

/-- Reads a reference attribute: its name, an equals sign between optional blanks, and a quoted
value. -/
def readReferencePart? (t : Text) : Option (FragmentPart × Text) :=
  match dropWord? referenceName t with
  | none => none
  | some r =>
    match r.dropWhile Text.isBlank with
    | '=' :: s =>
      match s.dropWhile Text.isBlank with
      | quote :: v =>
        if quote = '"' ∨ quote = '\'' then
          match Text.cutFirst quote v with
          | (_, none) => none
          | (target, some rest) =>
            let opening := referenceName ++ r.takeWhile Text.isBlank ++ '=' ::
              s.takeWhile Text.isBlank
            some (.reference opening quote target, rest)
        else none
      | [] => none
    | _ => none

theorem length_dropWord? {word t rest : Text} (read : dropWord? word t = some rest) :
    rest.length ≤ t.length := by
  fun_induction dropWord? word t with
  | case1 =>
    simp only [Option.some.injEq] at read
    simp [read]
  | case2 => cases read
  | case3 =>
    rename_i ih
    have := ih read
    simp only [List.length_cons]
    omega
  | case4 => cases read

theorem length_cutFirst (c : Char) (t : Text) :
    ∀ rest, (Text.cutFirst c t).2 = some rest → rest.length < t.length := by
  induction t with
  | nil => simp [Text.cutFirst]
  | cons d r ih =>
    intro rest cut
    simp only [Text.cutFirst] at cut
    split at cut
    · simp only [Option.some.injEq] at cut
      simp [← cut]
    · have := ih rest cut
      simp only [List.length_cons]
      omega

theorem readReferencePart?_shorter {t rest : Text} {part : FragmentPart}
    (read : readReferencePart? t = some (part, rest)) : rest.length < t.length := by
  unfold readReferencePart? at read
  split at read
  · cases read
  · rename_i r word
    have outer := length_dropWord? word
    have blanks := (List.dropWhile_sublist Text.isBlank : (r.dropWhile Text.isBlank).Sublist r).length_le
    split at read
    · rename_i s same
      rw [same] at blanks
      have inner := (List.dropWhile_sublist Text.isBlank : (s.dropWhile Text.isBlank).Sublist s).length_le
      simp only [List.length_cons] at blanks
      split at read
      · rename_i quote v quoted
        rw [quoted] at inner
        simp only [List.length_cons] at inner
        split at read
        · split at read
          · cases read
          · rename_i target tail cut
            have := length_cutFirst quote v tail (by rw [cut])
            simp only [Option.some.injEq, Prod.mk.injEq] at read
            rw [← read.2]
            omega
        · cases read
      · cases read
    · cases read

/-- The parts of a fragment. The name of a reference attribute begins a word; `before` is the
character in front of the text. -/
def fragmentParts (before : Option Char) (t : Text) : List FragmentPart :=
  match t with
  | [] => []
  | c :: r =>
    if before.any Text.isWordCharacter then .plain c :: fragmentParts (some c) r
    else
      match _step : readReferencePart? (c :: r) with
      | none => .plain c :: fragmentParts (some c) r
      | some (part, rest) => part :: fragmentParts (part.text.getLast?) rest
termination_by t.length
decreasing_by
  · simp
  · simp
  · exact readReferencePart?_shorter _step

/-- Binds the reference of a part in the documentation of `d`. -/
def bindPart (index : Index) (d : Declaration) : FragmentPart → Logged Text
  | .plain c => pure [c]
  | .reference opening quote target => do
    let bound ← bind index target d
    pure (FragmentPart.reference opening quote bound).text

/-- Binds parts in order. -/
def bindParts (index : Index) (d : Declaration) : List FragmentPart → Logged Text
  | [] => pure []
  | part :: rest => do
    let first ← bindPart index d part
    let others ← bindParts index d rest
    pure (first ++ others)

/-- Binds all references in a fragment of the documentation of `d`. -/
def bindFragment (index : Index) (d : Declaration) (fragment : Text) : Logged Text :=
  bindParts index d (fragmentParts none fragment)

end DocReport.Compilation

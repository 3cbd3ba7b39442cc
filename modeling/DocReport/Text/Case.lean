import DocReport.Text.Word
import DocReport.Text.CaseTable

/-!
Lower case for whole texts. The capital I with a dot becomes two characters, and a capital sigma
is written in its final form at the end of a word.
-/
namespace DocReport.Text

/-- Whether a run of capitals holds a code point. -/
def CaseRun.holds (run : CaseRun) (n : Nat) : Bool :=
  run.first ≤ n && n ≤ run.last && (n - run.first) % run.stride == 0

/-- The lower case of a single character that has a one-character lower case. -/
def lowerCharacter (c : Char) : Char :=
  if c.toNat < 0x80 then c.toLower
  else
    match caseRuns.find? (·.holds c.toNat) with
    | some run => Char.ofNat (c.toNat + run.forward - run.back)
    | none => c

/-- Whether the first character that case rules do not pass over has case. -/
def meetsCased : Text → Bool
  | [] => false
  | c :: r =>
    if inRanges caseIgnorableRanges c.toNat then meetsCased r else inRanges casedRanges c.toNat

/-- Lower case of the text that follows `done`, the latter reversed. -/
def lowerAfter (done : Text) : Text → Text
  | [] => []
  | c :: r =>
    let lowered :=
      if c = 'Σ' then
        if meetsCased done && !meetsCased r then ['ς'] else ['σ']
      else if c = 'İ' then ['i', '\u0307']
      else [lowerCharacter c]
    lowered ++ lowerAfter (c :: done) r

/-- A text in lower case. -/
def lower (t : Text) : Text :=
  lowerAfter [] t

end DocReport.Text

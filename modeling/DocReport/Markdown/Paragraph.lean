import DocReport.Text.Basic

/-!
Normal form of running text: white space shrinks to single spaces, and on request a white gap with
an empty line in it separates paragraphs.
-/
namespace DocReport.Markdown

open Text (isBlank)

/-- Every run of white space becomes one space; `afterBlank` says that one was just written. -/
def collapseFrom : Bool → Text → Text
  | _, [] => []
  | afterBlank, c :: r =>
    if isBlank c then
      if afterBlank then collapseFrom true r else ' ' :: collapseFrom true r
    else c :: collapseFrom false r

/-- Every run of white space becomes one space. -/
def collapse (t : Text) : Text :=
  collapseFrom false t

/-- Whether a white gap holds at least two line feeds, that is, an empty line. -/
def isParagraphGap (gap : Text) : Bool :=
  2 ≤ gap.count '\n'

/-- Cuts at the gaps that hold an empty line. `gap` is the white space read since the last
word, reversed. -/
def cutParagraphs : (gap : Text) → Text → List Text
  | gap, [] => if isParagraphGap gap then [[], []] else [gap.reverse]
  | gap, c :: r =>
    if isBlank c then cutParagraphs (c :: gap) r
    else
      match cutParagraphs [] r with
      | [] => [[c]]
      | part :: parts =>
        if isParagraphGap gap then [] :: (c :: part) :: parts
        else (gap.reverse ++ c :: part) :: parts

/-- The paragraphs of a text. -/
def paragraphs (t : Text) : List Text :=
  cutParagraphs [] t

end DocReport.Markdown

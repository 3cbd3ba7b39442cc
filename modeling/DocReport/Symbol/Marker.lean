import DocReport.Text.Basic

/-!
Kind markers of documentation IDs, such as the `T:` of `T:Demo.Calculator`, and their removal for
display.
-/
namespace DocReport.Symbol

/-- Removes every `letter` that a colon follows, together with the colon. -/
def dropMarker (letter : Char) : Text → Text
  | c :: d :: r =>
    if c = letter ∧ d = ':' then dropMarker letter r else c :: dropMarker letter (d :: r)
  | t => t

/-- The markers of types, methods, properties and fields; events keep theirs. -/
def markers : List Char :=
  ['T', 'M', 'P', 'F']

/-- A reference without its kind markers, wherever they stand. -/
def withoutMarkers (reference : Text) : Text :=
  markers.foldl (fun t letter => dropMarker letter t) reference

end DocReport.Symbol

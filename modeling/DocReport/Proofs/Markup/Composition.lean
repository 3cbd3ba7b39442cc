import DocReport.Proofs.Markup.Fragment
import DocReport.Proofs.Markup.Merging

/-!
Fragments one after the other. What a fragment makes of the root depends on the fragment alone, and
the root stays open behind it; so two fragments make the content of the first followed by that of
the second, with the texts merged that meet between them.
-/
namespace DocReport.Markup

/-- If two fragments can be read, so can the second behind the first, unless a line end or the end
of a section could come about between them. The root holds the content of both. -/
theorem parseFragment_append (f g : Text) (first second : Node) (apart : EndsApart f)
    (read : parseFragment f = .ok first) (behind : parseFragment g = .ok second) :
    parseFragment (f ++ g) =
      .ok (.element rootTag [] (joinContent first.content second.content)) := by
  rw [parseFragment_eq_ok_iff] at read behind ⊢
  obtain ⟨tokens, nodes, made, rfl, _, again⟩ := content_of_readFragment read
  obtain ⟨others, more, next, rfl, row, _⟩ := content_of_readFragment behind
  obtain ⟨tokens', rescanned, same⟩ := again apart (g ++ rootEnd)
  -- The tokens of the first fragment keep their nodes in front of the second.
  have content : Content .outermost (tokens' ++ others) (nodes ++ more) :=
    (made.placeless same).append next
  have scanned : scan (f ++ g ++ rootEnd) = tokens' ++ others ++ scan rootEnd := by
    rw [List.append_assoc, rescanned, row, List.append_assoc]
  rw [readFragment_of_content content scanned, Frame.holding, mergeText_append]
  rfl

theorem parseFragment_append_text :
    let f := "<c>x</c> is, <!-- of course -->".toList
    let g := "&amp; <![CDATA[remains]]>, <b/>".toList
    EndsApart f ∧ parseFragment (f ++ g) = .ok (.element rootTag []
      [.element ['c'] [] [.text ['x']], .text " is, & remains, ".toList,
        .element ['b'] [] []]) := by
  have apart : EndsApart "<c>x</c> is, <!-- of course -->".toList := by decide
  have first : parseFragment "<c>x</c> is, <!-- of course -->".toList = .ok (.element rootTag []
      [.element ['c'] [] [.text ['x']], .text " is, ".toList]) := by decide +kernel
  have second : parseFragment "&amp; <![CDATA[remains]]>, <b/>".toList = .ok (.element rootTag []
      [.text "& remains, ".toList, .element ['b'] [] []]) := by decide +kernel
  exact ⟨apart, parseFragment_append _ _ _ _ apart first second⟩

end DocReport.Markup

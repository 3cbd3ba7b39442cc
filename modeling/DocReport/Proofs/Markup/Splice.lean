import DocReport.Proofs.Markup.Locality.Token

/-!
Exchanging a text from the name of an attribute on. The tokens before the tag stay as they are but
for their places, so do the attributes before the exchanged one, and the row goes on with what the
new text makes of the tag.
-/
namespace DocReport.Markup

/-- The places of a token's attributes with a given name. -/
def Token.places (name : Text) : Token → List Text
  | .startTag _ attributes _ _ => (attributes.filter (·.name == name)).map (·.here)
  | _ => []

theorem Token.mem_places {name h : Text} {token : Token} (place : h ∈ token.places name) :
    ∃ tag attributes closed here raw, token = .startTag tag attributes closed here ∧
      raw ∈ attributes ∧ raw.name = name ∧ raw.here = h := by
  cases token with
  | startTag tag attributes closed here =>
    simp only [Token.places, List.mem_map, List.mem_filter, beq_iff_eq] at place
    obtain ⟨raw, ⟨member, named⟩, same⟩ := place
    exact ⟨tag, attributes, closed, here, raw, rfl, member, named, same⟩
  | character c => cases place
  | cdata value => cases place
  | endTag tag here rest => cases place
  | ignored => cases place
  | broken fault => cases place

/-- What comes of a tag whose attributes, behind the earlier ones, were read with this result. -/
def tagRow (tag : Text) (earlier : List RawAttribute) (here : Text) :
    Except Fault (List RawAttribute × Bool × Text) → List Token
  | .error fault => [.broken fault]
  | .ok (attributes, closed, rest) => .startTag tag (earlier ++ attributes) closed here :: scan rest

/-- Puts the earlier attributes before those that were read behind them. -/
def withEarlier (earlier : List RawAttribute) :
    List RawAttribute × Bool × Text → List RawAttribute × Bool × Text
  | (attributes, closed, rest) => (earlier ++ attributes, closed, rest)

theorem readAttributes_place {here t rest : Text} {attributes : List RawAttribute} {closed : Bool}
    {raw : RawAttribute} (read : readAttributes here t = .ok (attributes, closed, rest))
    (member : raw ∈ attributes) :
    ∃ space q earlier, isSpace space = true ∧ t = space :: q ++ raw.here ∧
      (∃ after, readAttribute here raw.here = .ok (raw, after)) ∧
      ∀ there h, startsName h = true → ∃ again, again.map RawAttribute.placeless = earlier ∧
        readAttributes there (space :: q ++ h) = (attributesFrom there h).map (withEarlier again) := by
  fun_induction readAttributes here t generalizing attributes closed rest with
  | case1 => cases read
  | case2 => cases read
  | case3 t c r gap more first tail step ih =>
    obtain ⟨⟨others, ended, last⟩, listed, done⟩ := bind_ok read
    simp only [Except.ok.injEq, Prod.mk.injEq] at done
    obtain ⟨rfl, rfl, rfl⟩ := done
    obtain ⟨space, blanks, rfl, spaces⟩ := gap_before_attribute gap more.2
    obtain ⟨place, used, split, start, reread⟩ := readAttribute_used step
    rcases List.mem_cons.1 member with rfl | member
    · refine ⟨space, blanks, [], spaces space List.mem_cons_self, by rw [place],
        ⟨tail, by rw [place]; exact step⟩, fun there h starts => ⟨[], rfl, ?_⟩⟩
      rw [readAttributes_gap spaces starts]
      cases attributesFrom there h <;> rfl
    · obtain ⟨inner, q, earlier, isBlank, rfl, read, again⟩ := ih listed member
      refine ⟨space, blanks ++ (used ++ inner :: q), first.placeless :: earlier,
        spaces space List.mem_cons_self, ?_, read, fun there h starts => ?_⟩
      · rw [split]
        simp
      · obtain ⟨others, same, relisted⟩ := again there h starts
        obtain ⟨firstAgain, firstFound, firstSame, _⟩ := reread there (inner :: q ++ h)
        refine ⟨firstAgain :: others, by simp [firstSame, same], ?_⟩
        have whole : space :: (blanks ++ (used ++ inner :: q)) ++ h =
            space :: blanks ++ (used ++ (inner :: q ++ h)) := by simp
        rw [whole, readAttributes_gap spaces (startsName_append start _), attributesFrom, firstFound,
          ok_bind]
        simp only [relisted]
        cases attributesFrom there h <;> rfl
  | case4 t c r gap _ =>
    obtain ⟨⟨ended, last⟩, marked, done⟩ := bind_ok read
    simp only [Except.ok.injEq, Prod.mk.injEq] at done
    obtain ⟨rfl, rfl, rfl⟩ := done
    cases member

/-! ### The row of tokens -/

theorem scan_error {c : Char} {r : Text} {fault : Fault} (read : readToken c r = .error fault) :
    scan (c :: r) = [.broken fault] := by
  rw [scan]
  split
  · rename_i failed
    rw [read] at failed
    cases failed
    rfl
  · rename_i found
    rw [read] at found
    cases found

theorem scan_ok {c : Char} {r rest : Text} {token : Token}
    (read : readToken c r = .ok (token, rest)) : scan (c :: r) = token :: scan rest := by
  rw [scan]
  split
  · rename_i failed
    rw [read] at failed
    cases failed
  · rename_i found
    rw [read] at found
    cases found
    rfl

/-- What can be read as a token: a start tag with all its attributes, an end tag, which keeps the
text behind it, or something without any place. -/
theorem readToken_cases {c : Char} {r rest : Text} {token : Token}
    (read : readToken c r = .ok (token, rest)) :
    (∃ tag attributes closed after, token = .startTag tag attributes closed ('<' :: r) ∧ c = '<' ∧
        readQualifiedName ('<' :: r) r = .ok (tag, after) ∧
        readAttributes ('<' :: r) after = .ok (attributes, closed, rest)) ∨
      (∃ tag here, token = .endTag tag here rest ∧ c = '<' ∧ r = '/' :: here ∧
        readEndTag ('<' :: r) here = .ok (tag, rest)) ∨
      (∃ d, token = .character d) ∨ (∃ value, token = .cdata value) ∨ token = .ignored := by
  unfold readToken at read
  split at read
  · rename_i opening
    unfold readMarkup at read
    split at read
    · obtain ⟨opened, word, read⟩ := bind_ok read
      obtain ⟨tail, skipped, done⟩ := bind_ok read
      cases done
      exact .inr (.inr (.inr (.inr rfl)))
    · obtain ⟨opened, word, read⟩ := bind_ok read
      obtain ⟨⟨value, tail⟩, valued, done⟩ := bind_ok read
      cases done
      exact .inr (.inr (.inr (.inl ⟨value, rfl⟩)))
    · cases read
    · obtain ⟨⟨target, tail⟩, instruction, read⟩ := bind_ok read
      simp only at read
      split at read
      · cases read
      · cases read
        exact .inr (.inr (.inr (.inr rfl)))
    · obtain ⟨⟨name, tail⟩, ended, done⟩ := bind_ok read
      cases done
      exact .inr (.inl ⟨name, _, rfl, opening, rfl, ended⟩)
    · obtain ⟨⟨name, after⟩, named, read⟩ := bind_ok read
      obtain ⟨⟨attributes, closed, tail⟩, listed, done⟩ := bind_ok read
      cases done
      exact .inl ⟨name, attributes, closed, after, rfl, opening, named, listed⟩
  · right; right; left
    split at read
    · obtain ⟨⟨reference, tail⟩, referred, read⟩ := bind_ok read
      simp only at read
      split at read
      · rename_i d _
        cases read
        exact ⟨d, rfl⟩
      · cases read
    · split at read
      · cases read
        exact ⟨'\n', rfl⟩
      · split at read
        · cases read
        · split at read
          · cases read
          · cases read
            exact ⟨c, rfl⟩

theorem readToken_startTag {c : Char} {r tag here rest : Text} {attributes : List RawAttribute}
    {closed : Bool} (read : readToken c r = .ok (.startTag tag attributes closed here, rest)) :
    c = '<' ∧ ∃ after, readQualifiedName ('<' :: r) r = .ok (tag, after) ∧
      readAttributes ('<' :: r) after = .ok (attributes, closed, rest) := by
  rcases readToken_cases read with ⟨name, listed, ended, after, same, opening, named, attributed⟩ |
    ⟨_, _, same, _⟩ | ⟨_, same⟩ | ⟨_, same⟩ | same
  · cases same
    exact ⟨opening, after, named, attributed⟩
  · cases same
  · cases same
  · cases same
  · cases same

/-- An end tag keeps the text behind it, and no other tag begins in it. -/
theorem readToken_endTag {c : Char} {r tag here kept rest : Text}
    (read : readToken c r = .ok (.endTag tag here kept, rest)) :
    kept = rest ∧ c = '<' ∧ ∃ inner, r = '/' :: (inner ++ '>' :: rest) ∧ '<' ∉ inner := by
  rcases readToken_cases read with ⟨_, _, _, _, same, _⟩ | ⟨_, _, same, opening, slash, ended⟩ |
    ⟨_, same⟩ | ⟨_, same⟩ | same
  · cases same
  · cases same
    obtain ⟨inner, rfl, absent, _⟩ := readEndTag_used ended
    exact ⟨rfl, opening, inner, slash, absent⟩
  · cases same
  · cases same
  · cases same

/-- A place is the text from there to the end. -/
theorem suffix_of_place {name t h : Text} {token : Token} (member : token ∈ scan t)
    (place : h ∈ token.places name) : h <:+ t := by
  fun_induction scan t with
  | case1 => cases member
  | case2 c r fault _ =>
    rw [List.mem_singleton.1 member] at place
    cases place
  | case3 c r first rest step ih =>
    obtain ⟨used, whole, _⟩ := readToken_used step
    rcases List.mem_cons.1 member with rfl | member
    · obtain ⟨tag, attributes, closed, here, raw, rfl, member, _, rfl⟩ := Token.mem_places place
      obtain ⟨rfl, after, named, listed⟩ := readToken_startTag step
      obtain ⟨space, q, _, _, rfl, _⟩ := readAttributes_place listed member
      obtain ⟨rfl, _⟩ := readQualifiedName_used named
      exact ⟨'<' :: (tag ++ space :: q), by simp⟩
    · rw [whole]
      exact (ih member).trans ⟨c :: used, rfl⟩

theorem Follows.append_name {c : Char} {used p h other : Text} (follows : Follows c used (p ++ h))
    (start : startsName other = true) : Follows c used (p ++ other) := by
  obtain ⟨d, r, rfl, first⟩ := startsName_iff.1 start
  intro none
  obtain ⟨noFeed, noSection⟩ := follows none
  have plain : ∀ e, isNameStart e = false → d ≠ e := fun e => Text.ne_of_class first
  match p with
  | [] => simp [plain '\n' (by decide), plain ']' (by decide)]
  | [e] => exact ⟨noFeed, by simp [plain '>' (by decide)]⟩
  | e :: f :: more => exact ⟨noFeed, noSection⟩

/-- The text may be exchanged from an attribute on. The tokens before the tag and the attributes
before the exchanged one are read again, and no end tag among them is the last of the text. -/
theorem scan_splice {name p h : Text} {token : Token} (member : token ∈ scan (p ++ h))
    (place : h ∈ token.places name) :
    (∃ here raw after, readAttribute here h = .ok (raw, after) ∧ raw.name = name) ∧
      ∃ front tag earlier, ∀ other, startsName other = true →
        ∃ tokens attributes here, tokens.map Token.placeless = front ∧
          attributes.map RawAttribute.placeless = earlier ∧
          (∀ label place rest, .endTag label place rest ∈ tokens → other <:+ rest) ∧
          scan (p ++ other) = tokens ++ tagRow tag attributes here (attributesFrom here other) := by
  generalize whole : p ++ h = t at member
  fun_induction scan t generalizing p with
  | case1 => cases member
  | case2 c r fault _ =>
    rw [List.mem_singleton.1 member] at place
    cases place
  | case3 c r first rest step ih =>
    rcases List.mem_cons.1 member with rfl | member
    -- The place is in this tag: `p` ends inside it, behind its name and the earlier attributes.
    · obtain ⟨tag, attributes, closed, here, raw, rfl, member, named, rfl⟩ := Token.mem_places place
      obtain ⟨rfl, after, opened, listed⟩ := readToken_startTag step
      obtain ⟨space, q, earlier, blank, rfl, ⟨behind, read⟩, again⟩ :=
        readAttributes_place listed member
      obtain ⟨rfl, ⟨d, ds, rfl, start⟩, reopen⟩ := readQualifiedName_used opened
      have front : p = '<' :: (d :: ds ++ space :: q) := by
        have split : p ++ raw.here = '<' :: (d :: ds ++ space :: q) ++ raw.here := by
          rw [whole]
          simp
        exact List.append_cancel_right split
      refine ⟨⟨_, raw, behind, read, named⟩, [], d :: ds, earlier, fun other starts => ?_⟩
      obtain ⟨attributes, same, relisted⟩ :=
        again ('<' :: (d :: ds ++ (space :: q ++ other))) other starts
      refine ⟨[], attributes, '<' :: (d :: ds ++ (space :: q ++ other)), rfl, same, by simp, ?_⟩
      have reopened := reopen ('<' :: (d :: ds ++ (space :: q ++ other))) (space :: q ++ other) rfl
      have split : p ++ other = '<' :: (d :: ds ++ (space :: q ++ other)) := by
        rw [front]
        simp
      have markup : readToken '<' (d :: ds ++ (space :: q ++ other)) =
          (attributesFrom ('<' :: (d :: ds ++ (space :: q ++ other))) other).map
            fun (more, closed, rest) => (.startTag (d :: ds) (attributes ++ more) closed
              ('<' :: (d :: ds ++ (space :: q ++ other))), rest) := by
        rw [readToken, if_pos rfl, List.cons_append, readMarkup_startTag start]
        rw [List.cons_append] at reopened relisted
        rw [reopened, ok_bind]
        simp only [relisted]
        cases attributesFrom ('<' :: d :: (ds ++ (space :: q ++ other))) other <;> rfl
      rw [split, List.nil_append]
      cases result : attributesFrom ('<' :: (d :: ds ++ (space :: q ++ other))) other with
      | error fault =>
        rw [result] at markup
        exact scan_error markup
      | ok read =>
        rw [result] at markup
        exact scan_ok markup
    -- The place comes later: `p` holds all of this token, which is read again in front of the rest.
    · obtain ⟨q, rfl⟩ := suffix_of_place member place
      obtain ⟨read, front, tag, earlier, again⟩ := ih rfl member
      obtain ⟨used, rfl, follows, reread⟩ := readToken_used step
      have split : p = c :: used ++ q := by
        have split : p ++ h = c :: used ++ q ++ h := by
          rw [whole]
          simp
        exact List.append_cancel_right split
      refine ⟨read, first.placeless :: front, tag, earlier, fun other starts => ?_⟩
      obtain ⟨tokens, attributes, here, same, sameEarlier, ends, row⟩ := again other starts
      obtain ⟨token, reading, sameFirst⟩ := reread (q ++ other) (follows.append_name starts)
      refine ⟨token :: tokens, attributes, here, by simp [same, sameFirst], sameEarlier, ?_, ?_⟩
      · intro label place rest member
        rcases List.mem_cons.1 member with rfl | member
        · rw [(readToken_endTag reading).1]
          exact List.suffix_append q other
        · exact ends label place rest member
      · rw [split, List.append_assoc, List.cons_append, scan_ok reading, row, List.cons_append]

end DocReport.Markup

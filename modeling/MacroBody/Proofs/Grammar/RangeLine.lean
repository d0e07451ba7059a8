import MacroBody.Proofs.Grammar.RangeSyntax
import MacroBody.Proofs.Grammar.RangeWord

/-!
# Which lines are address ranges

A line is read as an address range if and only if it can be taken apart into the parts of
`AddressRange.Form`, and the range that is read is the one these parts describe
(`read_eq_accepted_iff_form`).  Together with the uniqueness of the parts this says that the stages of
the reader, each of which takes as much text as it can, find the only way to take the line apart:
they neither refuse a line that could be divided otherwise nor read a line that cannot be divided.

Both directions follow the stages from the end of the line to its start: the bus interfaces, the
tags, the bounds, the keyword.
-/

namespace MacroBody.AddressRange

open Text

/-! ## Forms are read -/

section Read

variable {rest : Text}

/-- A token before a list of tags belongs to it. -/
theorem tagList?_cons (u : Blanks) (token : Token) (v : Blanks) {segments tags : List Text}
    (h : tagList? segments = some (tags, rest)) :
    tagList? ((u.text ++ token.text ++ v.text) :: segments) = some (token.text :: tags, rest) := by
  have hstart : trimStart (u.text ++ token.text ++ v.text) = token.text ++ v.text := by
    rw [List.append_assoc]
    exact trimStart_append u.blank (token.stops v.text)
  have hspan : spanWord (token.text ++ v.text) = (token.text, v.text) :=
    spanWord_run (isToken_iff.1 token.isToken).2 v.stops
  have hall : v.text.all isBlank = true := List.all_eq_true.2 v.blank
  have hne : token.text.isEmpty = false := by
    simpa using (isToken_iff.1 token.isToken).1
  simp only [tagList?, hstart, hspan, hall, hne, if_true, h]
  rfl

/-- **The list ends with a tag after which a blank and then a word, or nothing, follows.** -/
theorem tagList?_last (u : Blanks) (token : Token) (hblank : rest.atBlank = true)
    (hword : Stops (!isWord ·) rest.trimStart) :
    tagList? ((rest.splitOn ',').modifyHead (u.text ++ token.text ++ ·)) =
      some ([token.text], rest) := by
  obtain ⟨piece, more, hpieces⟩ := List.exists_cons_of_ne_nil (List.splitOn_ne_nil ',' rest)
  have hjoin : Text.join [','] (piece :: more) = rest := by
    rw [← hpieces]
    exact List.intercalate_splitOn ','
  have hstops : Stops isWord piece := by
    cases piece with
    | nil => exact stops_nil
    | cons c piece =>
        have hc : Text.atBlank (Text.join [','] ((c :: piece) :: more)) = isBlank c := by
          cases more <;> simp [Text.join, atBlank]
        rw [← hjoin, hc] at hblank
        exact stops_cons.2 (isWord_of_isBlank hblank)
  have hstart : trimStart (u.text ++ token.text ++ piece) = token.text ++ piece := by
    rw [List.append_assoc]
    exact trimStart_append u.blank (token.stops piece)
  -- A comma cannot be the first thing after the blanks, so the next segment is not looked at.
  have hnext : (if piece.all isBlank = true then tagList? more else none) = none := by
    split
    · rename_i hall
      cases more with
      | nil => rfl
      | cons next more =>
          have hcomma : rest.trimStart = ',' :: Text.join [','] (next :: more) := by
            rw [← hjoin, join_cons_cons]
            exact trimStart_append (List.all_eq_true.1 hall) (stops_cons.2 (by decide))
          rw [hcomma] at hword
          cases stops_cons.1 hword
    · rfl
  have hempty : token.text.isEmpty = false := by
    simpa using (isToken_iff.1 token.isToken).1
  rw [hpieces, List.modifyHead_cons]
  simp only [tagList?, hstart, spanWord_run (isToken_iff.1 token.isToken).2 hstops, hempty, hnext,
    hjoin, hblank]
  rfl

/-- A written list of tags is read up to its last tag. -/
theorem tagList?_tokenList (l : TokenList) (u : Blanks) (hblank : rest.atBlank = true)
    (hword : Stops (!isWord ·) rest.trimStart) :
    tagList? ((u.text ++ (l.text ++ rest)).splitOn ',') = some (l.tokens, rest) := by
  induction l generalizing u with
  | last token =>
      have hcomma : ',' ∉ u.text ++ token.text := by
        simp [u.comma_not_mem, comma_not_mem_of_isToken token.isToken]
      rw [TokenList.text, ← List.append_assoc, splitOn_append_of_not_mem hcomma,
        tagList?_last u token hblank hword, TokenList.tokens]
  | cons token u' v' more ih =>
      have hcomma : ',' ∉ u.text ++ token.text ++ u'.text := by
        simp [u.comma_not_mem, u'.comma_not_mem, comma_not_mem_of_isToken token.isToken]
      have htext : u.text ++ ((TokenList.cons token u' v' more).text ++ rest) =
          u.text ++ token.text ++ u'.text ++ ',' :: (v'.text ++ (more.text ++ rest)) := by
        simp [TokenList.text]
      rw [htext, List.splitOn_append_cons_self_of_not_mem hcomma, tagList?_cons u token u' (ih v'),
        TokenList.tokens]

/-- The tags that are written are found, and what follows them is left. -/
theorem tags?_introduction (i : Introduction) (l : TokenList) (hblank : rest.atBlank = true)
    (hword : Stops (!isWord ·) rest.trimStart) :
    tags? (i.text ++ (l.text ++ rest)) = some (l.tokens, rest) := by
  rw [tags?_eq_some]
  cases i with
  | colon u v =>
      refine ⟨v.text ++ (l.text ++ rest), Or.inl ?_, tagList?_tokenList l v hblank hword⟩
      rw [Introduction.text, List.append_assoc]
      exact trimStart_append u.blank (stops_cons.2 (by decide))
  | word u w hw v =>
      refine ⟨l.text ++ rest, Or.inr ⟨w, hw, ?_⟩,
        tagList?_tokenList l ⟨[], allBlank_nil⟩ hblank hword⟩
      rw [Introduction.text, List.append_assoc, List.append_assoc,
        trimStart_append u.blank (stops_isBlank_token hw.isToken _)]
      exact afterWord?_iff.2 ⟨l.stops_text rest, v, rfl⟩

/-- Bus interfaces that are written out are read, unless one of them is repeated. -/
theorem withBusInterfaces_names (range : AddressRange) (u : Blanks) (inverse : Bool) (v : Gap)
    (names : TokenList) (after : Blanks) :
    range.withBusInterfaces
        (u.text ++ (busWord inverse ++ (v.text ++ names.text)) ++ after.text) =
      if names.tokens.Nodup then
        .ok { range with busInterfaces := names.tokens, inverse := inverse }
      else .error (.duplicateBusInterfaces names.text) := by
  have htight : Tight (busWord inverse ++ (v.text ++ names.text)) := by
    refine ⟨stops_isBlank_token (isToken_busWord _) _, ?_⟩
    rw [List.reverse_append, List.reverse_append, List.append_assoc]
    exact names.stops_text_reverse _
  have htrim : trim (u.text ++ (busWord inverse ++ (v.text ++ names.text)) ++ after.text) =
      busWord inverse ++ (v.text ++ names.text) :=
    trim_append u.blank after.blank htight
  have hempty : (busWord inverse ++ (v.text ++ names.text)).isEmpty = false := by
    simp [(isToken_iff.1 (isToken_busWord inverse)).1]
  have hstart : Stops isBlank names.text := by
    simpa using names.stops_text []
  have hlist := busInterfaces?_eq_some.2 (htrim ▸ afterWord?_iff.2 ⟨hstart, v, rfl⟩)
  have hnames : names.text.tokens? = some names.tokens :=
    tokens?_iff.2 ⟨⟨[], allBlank_nil⟩, names, ⟨[], allBlank_nil⟩, by simp, rfl⟩
  rw [withBusInterfaces, htrim, hempty, hlist]
  simp only [hnames]
  rfl

/-- The bus interfaces that are written are found. -/
theorem withBusInterfaces_busTail (min max : UInt64) (tags : List Text) (buses : Option BusList)
    (after : Blanks) :
    withBusInterfaces ⟨min, max, tags, [], false⟩ (busTail buses after) =
      .ok ⟨min, max, tags, buses.elim [] fun b => b.names.tokens,
        buses.elim false BusList.inverse⟩ := by
  cases buses with
  | none => exact withBusInterfaces_eq_ok.2 (Or.inl ⟨after.blank, rfl⟩)
  | some b =>
      rw [busTail, Option.elim_some, BusList.text, withBusInterfaces_names, if_pos b.nodup]
      rfl

/-- **The qualifiers that are written are found.** -/
theorem withQualifiers_qualifierTail (min max : UInt64) (qualifiers : Option Qualifiers)
    (after : Blanks) :
    withQualifiers ⟨min, max, [], [], false⟩ (qualifierTail qualifiers after) =
      .ok ⟨min, max, qualifiers.elim [] fun q => q.tags.tokens,
        (qualifiers.bind Qualifiers.buses).elim [] fun b => b.names.tokens,
        (qualifiers.bind Qualifiers.buses).elim false BusList.inverse⟩ := by
  rw [withQualifiers_eq_ok]
  cases qualifiers with
  | none => exact Or.inl ⟨after.blank, rfl⟩
  | some q =>
      obtain ⟨hblank, hword⟩ := busTail_follows q.buses after
      exact Or.inr ⟨q.tags.tokens, busTail q.buses after,
        tags?_introduction q.introduction q.tags hblank hword,
        withBusInterfaces_busTail min max q.tags.tokens q.buses after⟩

end Read

section Bounds

variable {rest tail : Text}

/-- A line without the keyword starts with a numeral, so that no keyword is found. -/
theorem afterKeyword?_bare (before : Blanks) {first : Token} {n : UInt64}
    (hfirst : Numeral.read? first.text = some n) (rest : Text) :
    afterKeyword? (before.text ++ (first.text ++ rest)) = none := by
  rw [Option.eq_none_iff_forall_ne_some]
  intro expression hexpression
  obtain ⟨w, rest', hw, hline, -⟩ := afterKeyword?_eq_some.1 hexpression
  rw [trimStart_append before.blank (first.stops rest)] at hline
  exact hw.ne_numeral hfirst hline

/-- What follows the keyword is the expression. -/
theorem expressionOf_separator (s : Separator) (t : Token) (rest : Text) :
    Ends (s.text ++ (t.text ++ rest)) ∧
      expressionOf (s.text ++ (t.text ++ rest)) = t.text ++ rest := by
  cases s with
  | colon u v =>
      have htext : (Separator.colon u v).text ++ (t.text ++ rest) =
          u.text ++ ':' :: (v.text ++ (t.text ++ rest)) := by
        simp [Separator.text]
      have hstart : trimStart (u.text ++ ':' :: (v.text ++ (t.text ++ rest))) =
          ':' :: (v.text ++ (t.text ++ rest)) :=
        trimStart_append u.blank (stops_cons.2 (by decide))
      rw [htext, expressionOf_colon hstart]
      exact ⟨ends_colon u.blank, trimStart_append v.blank (t.stops _)⟩
  | gap u =>
      obtain ⟨c, more, hu⟩ := List.exists_cons_of_ne_nil u.ne
      have hblank : isBlank c = true := u.blank c (hu ▸ List.mem_cons_self)
      have hstart : trimStart (u.text ++ (t.text ++ rest)) = t.text ++ rest :=
        trimStart_append u.blank (t.stops _)
      have hcolon : ∀ text, trimStart (u.text ++ (t.text ++ rest)) ≠ ':' :: text := by
        intro text heq
        cases Token.isWord_head (hstart.symm.trans heq)
      refine ⟨Or.inr ⟨c, more ++ (t.text ++ rest), ?_, Or.inl hblank⟩, ?_⟩
      · rw [Separator.text, hu, List.cons_append]
      · rw [Separator.text, expressionOf_other hcolon, hstart]

/-- What is announced is found behind the announcement. -/
theorem afterKeyword?_announced (before : Blanks) (a : Announcement) {t : Token}
    (hline : '\n' ∉ t.text ++ rest) :
    afterKeyword? (before.text ++ (a.text ++ (t.text ++ rest))) = some (t.text ++ rest) := by
  obtain ⟨hends, heq⟩ := expressionOf_separator a.separator t rest
  refine afterKeyword?_eq_some.2 ⟨a.word, a.separator.text ++ (t.text ++ rest), a.rangeWord, ?_,
    hends, heq.symm, hline⟩
  rw [Announcement.text, List.append_assoc]
  exact trimStart_append before.blank (a.rangeWord.stops _)

/-- The bounds that are written are found, with whatever blanks around the dots. -/
theorem bounds?_written (before : Blanks) (first : Token) (u v : Blanks) (last : Token)
    (hstops : Stops isWord tail) (hline : '\n' ∉ tail) :
    bounds? (before.text ++
        (first.text ++ (u.text ++ '.' :: '.' :: (v.text ++ (last.text ++ tail))))) =
      some (first.text, last.text, tail) := by
  refine bounds?_eq_some.2 ⟨before.text, u.text, v.text, before.blank, u.blank, v.blank, ?_,
    first.isToken, last.isToken, hstops, hline⟩
  simp

/-- A line is read by its bounds, with the keyword or without it, whatever follows the bounds. -/
theorem read_bounded (before : Blanks) (announcement : Option Announcement) (first : Token)
    (u v : Blanks) (last : Token) {n : UInt64} (hfirst : Numeral.read? first.text = some n)
    (hstops : Stops isWord tail)
    (hline : '\n' ∉ first.text ++ (u.text ++ '.' :: '.' :: (v.text ++ (last.text ++ tail)))) :
    read (before.text ++ (announcement.elim [] Announcement.text ++
        (first.text ++ (u.text ++ '.' :: '.' :: (v.text ++ (last.text ++ tail)))))) =
      .ofExcept (ofBounds first.text last.text tail) := by
  have htail : '\n' ∉ tail := by
    intro hmem
    apply hline
    simp [hmem]
  cases announcement with
  | none =>
      rw [Option.elim_none, List.nil_append, read, afterKeyword?_bare before hfirst]
      simp only [bounds?_written before first u v last hstops htail]
  | some a =>
      have hbounds := bounds?_written ⟨[], allBlank_nil⟩ first u v last hstops htail
      rw [List.nil_append] at hbounds
      rw [Option.elim_some, read, afterKeyword?_announced before a hline]
      simp only [hbounds]

end Bounds

/-- **A line that is put together is read as the range of its parts.** -/
theorem Form.read_text {f : Form} (hline : '\n' ∉ f.text) : read f.text = .accepted f.range := by
  have hexpression : '\n' ∉ f.expression := by
    intro hmem
    apply hline
    simp [text, hmem]
  have hbounds : ofBounds f.first.text f.last.text (qualifierTail f.qualifiers f.after) =
      .ok f.range :=
    ofBounds_eq_ok.2 ⟨f.min, f.max, f.hmin, f.hmax, f.ordered,
      withQualifiers_qualifierTail f.min f.max f.qualifiers f.after⟩
  rw [text, expression, read_bounded f.before f.announcement f.first f.u f.v f.last f.hmin
    (stops_qualifierTail _ _) hexpression, hbounds]
  rfl

/-! ## What is read has a form -/

section Parts

variable {line rest tail : Text} {tags : List Text} {min max : UInt64} {r : AddressRange}

/-- The tags that are read are a written list, and a blank or the end of the line follows it. -/
theorem exists_tokenList_of_tagList? {segments : List Text}
    (h : tagList? segments = some (tags, rest)) :
    ∃ (u : Blanks) (l : TokenList),
      Text.join [','] segments = u.text ++ (l.text ++ rest) ∧ l.tokens = tags ∧
        rest.atBlank = true := by
  induction segments generalizing tags with
  | nil => cases h
  | cons segment more ih =>
      obtain ⟨u, tag, after, hu, rfl, htag, hmore⟩ := tagList?_cons_eq_some h
      rcases hmore with ⟨later, hafter, rfl, hlater⟩ | ⟨rfl, rfl, hblank⟩
      · obtain ⟨v, l, hjoin, rfl, hblank⟩ := ih hlater
        obtain ⟨second, more, rfl⟩ : ∃ second more', more = second :: more' :=
          List.exists_cons_of_ne_nil (by rintro rfl; cases hlater)
        refine ⟨⟨u, hu⟩, .cons ⟨tag, htag⟩ ⟨after, hafter⟩ v l, ?_, rfl, hblank⟩
        rw [join_cons_cons, hjoin, TokenList.text]
        simp
      · refine ⟨⟨u, hu⟩, .last ⟨tag, htag⟩, ?_, rfl, hblank⟩
        cases more <;> simp [Text.join, List.intercalate, TokenList.text]

/-- Tags that are found are written in the line, behind an introduction. -/
theorem exists_introduction_of_tags? (hstops : Stops isWord tail)
    (h : tags? tail = some (tags, rest)) :
    ∃ (i : Introduction) (l : TokenList),
      tail = i.text ++ (l.text ++ rest) ∧ l.tokens = tags ∧ rest.atBlank = true := by
  obtain ⟨text, hintroduced, hlist⟩ := tags?_eq_some.1 h
  obtain ⟨v, l, hjoin, htokens, hblank⟩ := exists_tokenList_of_tagList? hlist
  have htext : text = v.text ++ (l.text ++ rest) := by
    rw [← hjoin]
    exact (List.intercalate_splitOn ',').symm
  obtain ⟨u, hu, htail⟩ := exists_trimStart tail
  rcases hintroduced with hcolon | ⟨w, hw, hafter⟩
  · refine ⟨.colon ⟨u, hu⟩ v, l, ?_, htokens, hblank⟩
    rw [htail, hcolon, htext, Introduction.text]
    simp
  · obtain ⟨-, gap, hstart⟩ := afterWord?_iff.1 hafter
    -- The word stands apart from the second bound, or it would be part of it.
    have hne : u ≠ [] := by
      rintro rfl
      rw [htail, hstart, List.nil_append] at hstops
      obtain ⟨hword, -⟩ := span_unique (isToken_iff.1 hw.isToken).2 (by simp) (gap.stops _) hstops
        (List.nil_append _).symm
      exact (isToken_iff.1 hw.isToken).1 hword
    have hgap : AllBlank (gap.text ++ v.text) := allBlank_append.2 ⟨gap.blank, v.blank⟩
    refine ⟨.word ⟨⟨u, hu⟩, hne⟩ w hw ⟨⟨gap.text ++ v.text, hgap⟩, by simp [gap.ne]⟩, l, ?_, htokens,
      hblank⟩
    rw [htail, hstart, htext, Introduction.text]
    simp

/-- Bus interfaces that are found are written in the line; where none are found, none are written. -/
theorem exists_busTail_of_ok (hblank : rest.atBlank = true)
    (h : withBusInterfaces ⟨min, max, tags, [], false⟩ rest = .ok r) :
    ∃ (buses : Option BusList) (after : Blanks), rest = busTail buses after ∧
      r = ⟨min, max, tags, buses.elim [] fun b => b.names.tokens,
        buses.elim false BusList.inverse⟩ := by
  rcases withBusInterfaces_eq_ok.1 h with
    ⟨hall, rfl⟩ | ⟨list, inverse, names, hafter, hnames, hnodup, rfl⟩
  · exact ⟨none, ⟨rest, hall⟩, rfl, rfl⟩
  · obtain ⟨u, v, hu, hv, hrest⟩ := exists_trim rest
    obtain ⟨-, gap, htrim⟩ := afterWord?_iff.1 hafter
    obtain ⟨u', l, v', rfl, rfl⟩ := tokens?_iff.1 hnames
    have hne : u ≠ [] := by
      rintro rfl
      rw [hrest, htrim] at hblank
      cases inverse <;> cases hblank
    have hgap : AllBlank (gap.text ++ u'.text) := allBlank_append.2 ⟨gap.blank, u'.blank⟩
    refine ⟨some ⟨⟨⟨u, hu⟩, hne⟩, inverse, ⟨⟨gap.text ++ u'.text, hgap⟩, by simp [gap.ne]⟩, l,
      hnodup⟩, ⟨v'.text ++ v, allBlank_append.2 ⟨v'.blank, hv⟩⟩, ?_, rfl⟩
    rw [hrest, htrim, busTail, Option.elim_some, BusList.text]
    simp

/-- **Qualifiers that are found are written in the line.** -/
theorem exists_qualifierTail_of_ok (hstops : Stops isWord tail)
    (h : withQualifiers ⟨min, max, [], [], false⟩ tail = .ok r) :
    ∃ (qualifiers : Option Qualifiers) (after : Blanks), tail = qualifierTail qualifiers after ∧
      r = ⟨min, max, qualifiers.elim [] fun q => q.tags.tokens,
        (qualifiers.bind Qualifiers.buses).elim [] fun b => b.names.tokens,
        (qualifiers.bind Qualifiers.buses).elim false BusList.inverse⟩ := by
  rcases withQualifiers_eq_ok.1 h with ⟨hall, rfl⟩ | ⟨tags, rest, htags, hbuses⟩
  · exact ⟨none, ⟨tail, hall⟩, rfl, rfl⟩
  · obtain ⟨i, l, rfl, rfl, hblank⟩ := exists_introduction_of_tags? hstops htags
    obtain ⟨buses, after, rfl, rfl⟩ := exists_busTail_of_ok hblank hbuses
    exact ⟨some ⟨i, l, buses⟩, after, rfl, rfl⟩

/-- The keyword before an expression that starts with a token is an announcement. -/
theorem exists_announcement {w expression : Text} {u : Blanks} {t : Token} (hw : RangeWord w)
    (hends : Ends rest) (h : expressionOf rest = u.text ++ (t.text ++ expression)) :
    ∃ a : Announcement, w ++ rest = a.text ++ (t.text ++ expression) := by
  obtain ⟨add, hadd⟩ : ∃ add, ∀ s, (Announcement.mk add s).word = w := by
    rcases hw with rfl | ⟨joints, hjoints, rfl⟩
    · exact ⟨none, fun _ => rfl⟩
    · exact ⟨some ⟨joints, fun c hc => isJoint_iff.2 (hjoints c hc)⟩, fun _ => rfl⟩
  suffices hseparator : ∃ s : Separator, rest = s.text ++ (t.text ++ expression) by
    obtain ⟨s, rfl⟩ := hseparator
    exact ⟨⟨add, s⟩, by rw [Announcement.text, hadd, List.append_assoc]⟩
  obtain ⟨gap, hgap, hrest⟩ := exists_trimStart rest
  by_cases hcolon : ∃ text, rest.trimStart = ':' :: text
  · obtain ⟨text, htext⟩ := hcolon
    obtain ⟨gap', hgap', htext'⟩ := exists_trimStart text
    rw [expressionOf_colon htext] at h
    refine ⟨.colon ⟨gap, hgap⟩ ⟨gap' ++ u.text, allBlank_append.2 ⟨hgap', u.blank⟩⟩, ?_⟩
    rw [hrest, htext, htext', h, Separator.text]
    simp
  · rw [expressionOf_other (not_exists.1 hcolon)] at h
    rw [h, ← List.append_assoc] at hrest
    have hne : gap ++ u.text ≠ [] := by
      intro hnil
      rw [hrest, hnil, List.nil_append] at hends
      exact (isToken_iff.1 t.isToken).1 (eq_nil_of_ends (isToken_iff.1 t.isToken).2 hends)
    exact ⟨.gap ⟨⟨gap ++ u.text, allBlank_append.2 ⟨hgap, u.blank⟩⟩, hne⟩, hrest⟩

end Parts

/-- **A line that is read can be taken apart,** and its parts describe what is read. -/
theorem exists_form_of_read {line : Text} {r : AddressRange} (h : read line = .accepted r) :
    ∃ f : Form, f.text = line ∧ f.range = r := by
  obtain ⟨first, last, tail, hbounds, hok⟩ := read_eq_accepted.1 h
  obtain ⟨u, v, w, hu, hv, hw, hexpression, hfirst, hlast, hstops, -⟩ := bounds?_eq_some.1 hbounds
  obtain ⟨min, max, hmin, hmax, hle, hqualifiers⟩ := ofBounds_eq_ok.1 hok
  obtain ⟨qualifiers, after, rfl, rfl⟩ := exists_qualifierTail_of_ok hstops hqualifiers
  have hbody : (afterKeyword? line).getD line = u ++ (first ++ (v ++ '.' :: '.' ::
      (w ++ (last ++ qualifierTail qualifiers after)))) := by
    rw [hexpression]
    simp
  cases hkeyword : afterKeyword? line with
  | none =>
      rw [hkeyword, Option.getD_none] at hbody
      exact ⟨⟨⟨u, hu⟩, none, ⟨first, hfirst⟩, ⟨v, hv⟩, ⟨w, hw⟩, ⟨last, hlast⟩, qualifiers, after, min,
        max, hmin, hmax, hle⟩, hbody.symm, rfl⟩
  | some expression =>
      rw [hkeyword, Option.getD_some] at hbody
      obtain ⟨word, rest, hword, hstart, hends, rfl, -⟩ := afterKeyword?_eq_some.1 hkeyword
      obtain ⟨blanks, hblanks, hline⟩ := exists_trimStart line
      obtain ⟨a, ha⟩ := exists_announcement (u := ⟨u, hu⟩) (t := ⟨first, hfirst⟩) hword hends hbody
      refine ⟨⟨⟨blanks, hblanks⟩, some a, ⟨first, hfirst⟩, ⟨v, hv⟩, ⟨w, hw⟩, ⟨last, hlast⟩,
        qualifiers, after, min, max, hmin, hmax, hle⟩, ?_, rfl⟩
      rw [hline, hstart, ha]
      rfl

/-- **The address range lines are the lines that can be taken apart,** in one way each, and the range
that is read is the one that the parts describe. -/
theorem read_eq_accepted_iff_form {line : Text} (hline : '\n' ∉ line) :
    (∀ r, read line = .accepted r ↔ ∃ f : Form, f.text = line ∧ f.range = r) ∧
      ∀ f g : Form, f.text = line → g.text = line → f = g := by
  refine ⟨fun r => ⟨exists_form_of_read, ?_⟩, ?_⟩
  · intro h
    obtain ⟨f, rfl, rfl⟩ := h
    exact f.read_text hline
  · intro f g hf hg
    exact Form.eq_of_text_eq (hf.trans hg.symm)

/-- A line whose tags are words of the grammar. -/
theorem read_eq_accepted_iff_form_words :
    ∃ f : Form, f.text = "add-_range 1 .. 0x_F: for , with notfor dma ".toList ∧
      f.range = ⟨1, 15, ["for".toList, "with".toList], ["dma".toList], true⟩ :=
  ((read_eq_accepted_iff_form (by decide)).1 _).1 (by decide)

end MacroBody.AddressRange

import MacroBody.Grammar.Payload
import MacroBody.Proofs.Grammar.Shape
import MacroBody.Proofs.Text.Padding

/-!
# Blanks around a line

No grammar looks at the blanks around a line (`Kind.read_ignores_padding`): with and without them
the line does not match, or the same value is read, or the line is rejected for the same cause with
the same fragment.

Blanks before the line are removed by the first step of every reader (`Kind.read_blank_append`).
Blanks after the line are handed on from stage to stage.  Each stage takes padded texts to padded
ones (`Property.head?_padded`, `Limitation.keyword?_padded`, `AddressRange.afterKeyword?_padded`,
`AddressRange.bounds?_padded`, `AddressRange.tags?_padded`), and the last stage trims what it
returns.  A keyword at the very end of a line is the one place where the blanks are noticed; an
empty rest then fails in the next stage as the missing keyword did before (`Kind.read_padded`).
-/

namespace MacroBody

open Text

section

variable {line line' u : Text}

/-! ## Properties -/

/-- No blank is taken for the colon. -/
theorem Property.isColon_of_isBlank (c : Char) (h : isBlank c = true) :
    decide (c = ':') = false := by
  have hne : c ≠ ':' := by
    intro heq
    subst heq
    cases h
  simpa using hne

/-- Blanks before a line leave its head and its rest as they are. -/
theorem Property.head?_blank_append (hu : AllBlank u) (accept : Text → Bool) (line : Text) :
    Property.head? accept (u ++ line) = Property.head? accept line := by
  unfold Property.head?
  rw [cut?_blank_append Property.isColon_of_isBlank hu]
  cases line.cut? (· = ':') with
  | none => rfl
  | some parts => simp [trim_blank_append hu]

/-- Blanks after a line are handed on to the rest behind the head. -/
theorem Property.head?_padded (h : Padded line line') (accept : Text → Bool) :
    Option.Rel PaddedRest (Property.head? accept line) (Property.head? accept line') := by
  unfold Property.head?
  rcases eq_none_or_exists_of_rel (h.cut? Property.isColon_of_isBlank) with
    ⟨hnone, hnone'⟩ | ⟨⟨before, rest⟩, ⟨before', rest'⟩, hsome, hsome', heq, hrest⟩
  · rw [hnone, hnone']
    exact .none
  · obtain rfl : before' = before := heq
    simp only [hsome, hsome', hrest.isOneLine_eq]
    split
    · exact .some ⟨rfl, hrest⟩
    · exact .none

/-- Blanks after a line do not reach its single value. -/
theorem Property.read_padded (h : Padded line line') :
    Property.read line' = Property.read line := by
  rw [Property.read_eq, Property.read_eq]
  rcases eq_none_or_exists_of_rel (Property.head?_padded h Property.isPhrase) with
    ⟨hnone, hnone'⟩ | ⟨a, b, hsome, hsome', hname, hrest⟩
  · rw [hnone, hnone']
  · simp only [hsome, hsome', hname, hrest.trim_eq]

/-- Blanks after a line are no part of the text behind its colon. -/
theorem Property.readAnyValue_padded (h : Padded line line') :
    Property.readAnyValue line' = Property.readAnyValue line := by
  rw [Property.readAnyValue_eq, Property.readAnyValue_eq]
  rcases eq_none_or_exists_of_rel (Property.head?_padded h Text.isToken) with
    ⟨hnone, hnone'⟩ | ⟨a, b, hsome, hsome', hname, hrest⟩
  · rw [hnone, hnone']
  · simp only [hsome, hsome', hname, hrest.trim_eq]

/-- Blanks after a line belong to no item of its list. -/
theorem PropertyList.read_padded (h : Padded line line') :
    PropertyList.read line' = PropertyList.read line := by
  rw [PropertyList.read_eq, PropertyList.read_eq]
  rcases eq_none_or_exists_of_rel (Property.head?_padded h Text.isToken) with
    ⟨hnone, hnone'⟩ | ⟨a, b, hsome, hsome', hname, hrest⟩
  · rw [hnone, hnone']
  · simp only [hsome, hsome', hname, hrest.trim_eq, hrest.tokens?_eq]

/-! ## Limitations -/

/-- No blank is taken for the separator. -/
theorem Limitation.isSeparator_of_isBlank (c : Char) (h : isBlank c = true) :
    Limitation.isSeparator c = false := by
  by_contra hsep
  rcases Limitation.isSeparator_iff.1 (by simpa using hsep) with rfl | rfl <;> cases h

/-- No keyword holds a blank, so the blanks after a line are not mistaken for one. -/
theorem Keyword.isBlank_name (k : Keyword) : ∀ c ∈ k.name, isBlank c = false :=
  fun c hc => isBlank_of_isWord (k.isWord_name c hc)

/-- The keyword that is found is the one that the trimmed line starts with, and a blank ends it. -/
theorem Limitation.keyword?_eq_some_iff {k : Keyword} {rest : Text} :
    Limitation.keyword? line = some (k, rest) ↔ line.trimStart.afterWord? k.name = some rest := by
  rw [Limitation.keyword?_eq_some, afterWord?_eq_some]

/-- A keyword that ends the line is found only with blanks after it, and nothing is left. -/
theorem Limitation.keyword?_padded (h : Padded line line') :
    Option.Rel PaddedRest (Limitation.keyword? line) (Limitation.keyword? line') ∨
      Limitation.keyword? line = none ∧ ∃ k, Limitation.keyword? line' = some (k, []) := by
  cases hfound : Limitation.keyword? line with
  | some found =>
      obtain ⟨k, rest⟩ := found
      have hword := Limitation.keyword?_eq_some_iff.1 hfound
      rcases h.trimStart.afterWord? k.isBlank_name with hrel | ⟨hnone, -⟩
      · rw [hword] at hrel
        cases hword' : line'.trimStart.afterWord? k.name with
        | none =>
            rw [hword'] at hrel
            cases hrel
        | some rest' =>
            rw [hword'] at hrel
            cases hrel with
            | some hrest =>
                rw [Limitation.keyword?_eq_some_iff.2 hword']
                exact Or.inl (.some ⟨rfl, hrest⟩)
      · rw [hnone] at hword
        cases hword
  | none =>
      cases hfound' : Limitation.keyword? line' with
      | none => exact Or.inl .none
      | some found' =>
          obtain ⟨k, rest'⟩ := found'
          have hword' := Limitation.keyword?_eq_some_iff.1 hfound'
          have hword : line.trimStart.afterWord? k.name = none := by
            rw [Option.eq_none_iff_forall_ne_some]
            intro rest hrest
            rw [Limitation.keyword?_eq_some_iff.2 hrest] at hfound
            cases hfound
          rcases h.trimStart.afterWord? k.isBlank_name with hrel | ⟨-, hempty⟩
          · rw [hword, hword'] at hrel
            cases hrel
          · rw [hempty] at hword'
            obtain rfl := Option.some.inj hword'
            exact Or.inr ⟨rfl, k, rfl⟩

/-- The value of an assignment is trimmed, so the blanks after it do not show. -/
theorem Limitation.assignment?_padded {text text' : Text} (h : Padded text text') :
    Limitation.assignment? text' = Limitation.assignment? text := by
  unfold Limitation.assignment?
  rcases eq_none_or_exists_of_rel (h.cut? Limitation.isSeparator_of_isBlank) with
    ⟨hnone, hnone'⟩ | ⟨a, b, hsome, hsome', hname, hval⟩
  · rw [hnone, hnone']
  · simp only [hsome, hsome', hname, hval.trim_eq]

/-- A limitation line is read alike with blanks after it.  A keyword that they make complete still
has no assignment. -/
theorem Limitation.read_padded (h : Padded line line') :
    Limitation.read line' = Limitation.read line := by
  unfold Limitation.read
  rcases Limitation.keyword?_padded h with hrel | ⟨hnone, k, hempty⟩
  · rcases eq_none_or_exists_of_rel hrel with
      ⟨hnone, hnone'⟩ | ⟨a, b, hsome, hsome', hkeyword, hrest⟩
    · rw [hnone, hnone']
    · simp only [hsome, hsome', hkeyword, h.trim_eq, Limitation.assignment?_padded hrest,
        hrest.any_takeWhile_eq Limitation.isSeparator_of_isBlank]
  · simp [hnone, hempty]

/-! ## Address ranges -/

namespace AddressRange

/-- A word of the grammar holds no blank. -/
theorem isBlank_of_all {w : Text} (h : w.all isWord = true) : ∀ c ∈ w, isBlank c = false :=
  fun c hc => isBlank_of_isWord (List.all_eq_true.1 h c hc)

/-- Blanks after a line are handed on to what stands behind the range keyword. -/
theorem afterRangeWord?_padded (h : Padded line line') :
    Option.Rel Padded (afterRangeWord? line) (afterRangeWord? line') := by
  have hadd : ∀ c ∈ "add".toList, isBlank c = false := isBlank_of_all (by decide)
  have hrange : ∀ c ∈ "range".toList, isBlank c = false := isBlank_of_all (by decide)
  unfold afterRangeWord?
  rcases eq_none_or_exists_of_rel (h.trimStart.after? hadd) with
    ⟨hnone, hnone'⟩ | ⟨rest, rest', hsome, hsome', hrest⟩
  · rw [hnone, hnone']
    exact h.trimStart.after? hrange
  · rw [hsome, hsome']
    exact (hrest.dropWhile isJoint).after? hrange

/-- A range keyword that ends the line also ends before blanks. -/
theorem Ends.padded_iff {rest rest' : Text} (h : Padded rest rest') : Ends rest' ↔ Ends rest := by
  cases rest with
  | cons c more =>
      obtain ⟨more', rfl, -⟩ := h.exists_cons
      simp [Ends]
  | nil =>
      have hends : Ends rest' := by
        cases rest' with
        | nil => exact Or.inl rfl
        | cons c more => exact Or.inr ⟨c, more, rfl, Or.inl (h.allBlank c List.mem_cons_self)⟩
      exact ⟨fun _ => Or.inl rfl, fun _ => hends⟩

/-- A colon at the start of a padded text starts the text itself. -/
theorem exists_colon_of_padded {t text' : Text} (h : Padded t (':' :: text')) :
    ∃ text, t = ':' :: text ∧ Padded text text' := by
  rw [← List.singleton_append] at h
  exact h.of_append (stops_cons.2 (by decide))

/-- Both texts start with a colon, or neither does. -/
theorem colon_padded {rest rest' : Text} (h : Padded rest rest') :
    (∃ text text', rest.trimStart = ':' :: text ∧ rest'.trimStart = ':' :: text' ∧
        Padded text text') ∨
      (∀ text, rest.trimStart ≠ ':' :: text) ∧ ∀ text, rest'.trimStart ≠ ':' :: text := by
  by_cases hcolon : ∃ text', rest'.trimStart = ':' :: text'
  · obtain ⟨text', htext'⟩ := hcolon
    obtain ⟨text, htext, hpadded⟩ := exists_colon_of_padded (htext' ▸ h.trimStart)
    exact Or.inl ⟨text, text', htext, htext', hpadded⟩
  · refine Or.inr ⟨?_, fun text htext => hcolon ⟨text, htext⟩⟩
    intro text htext
    obtain ⟨text', htext', -⟩ := (htext ▸ h.trimStart : Padded (':' :: text) _).exists_cons
    exact hcolon ⟨text', htext'⟩

/-- Blanks after a line are handed on to the expression. -/
theorem expressionOf_padded {rest rest' : Text} (h : Padded rest rest') :
    Padded (expressionOf rest) (expressionOf rest') := by
  rcases colon_padded h with ⟨text, text', htext, htext', hpadded⟩ | ⟨hcolon, hcolon'⟩
  · rw [expressionOf_colon htext, expressionOf_colon htext']
    exact hpadded.trimStart
  · rw [expressionOf_other hcolon, expressionOf_other hcolon']
    exact h.trimStart

/-- Behind a range keyword there is an expression if the keyword ends there and the expression is
one line. -/
theorem afterKeyword?_iff {rest expression : Text} (h : afterRangeWord? line = some rest) :
    afterKeyword? line = some expression ↔
      Ends rest ∧ expression = expressionOf rest ∧ '\n' ∉ expression := by
  rw [afterKeyword?_eq_some]
  constructor
  · intro hkeyword
    obtain ⟨w, rest', hw, hline, hends, heq, hone⟩ := hkeyword
    rw [afterRangeWord?_eq_some.2 ⟨w, hw, hline⟩] at h
    obtain rfl := Option.some.inj h
    exact ⟨hends, heq, hone⟩
  · intro hparts
    obtain ⟨hends, heq, hone⟩ := hparts
    obtain ⟨w, hw, hline⟩ := afterRangeWord?_eq_some.1 h
    exact ⟨w, rest, hw, hline, hends, heq, hone⟩

/-- Without a range keyword there is no expression. -/
theorem afterKeyword?_eq_none (h : afterRangeWord? line = none) : afterKeyword? line = none := by
  rw [afterKeyword?, h]

/-- A line that is announced as a range stays so with blanks after it, which are handed on to its
expression. -/
theorem afterKeyword?_padded (h : Padded line line') :
    Option.Rel Padded (afterKeyword? line) (afterKeyword? line') := by
  rcases eq_none_or_exists_of_rel (afterRangeWord?_padded h) with
    ⟨hnone, hnone'⟩ | ⟨rest, rest', hsome, hsome', hrest⟩
  · rw [afterKeyword?_eq_none hnone, afterKeyword?_eq_none hnone']
    exact .none
  · have hpadded := expressionOf_padded hrest
    have hone : '\n' ∉ expressionOf rest' ↔ '\n' ∉ expressionOf rest := by
      rw [← isOneLine_iff, ← isOneLine_iff, hpadded.isOneLine_eq]
    refine rel_of_forall ?_ ?_
    · intro expression hexpression
      obtain ⟨hends, rfl, hline⟩ := (afterKeyword?_iff hsome).1 hexpression
      exact ⟨_, (afterKeyword?_iff hsome').2 ⟨(Ends.padded_iff hrest).2 hends, rfl, hone.2 hline⟩,
        hpadded⟩
    · intro expression' hexpression'
      obtain ⟨hends, rfl, hline⟩ := (afterKeyword?_iff hsome').1 hexpression'
      exact ⟨_, (afterKeyword?_iff hsome).2 ⟨(Ends.padded_iff hrest).1 hends, rfl, hone.1 hline⟩⟩

/-- Blanks after the bounds are no word characters. -/
theorem stops_isWord_padded {tail tail' : Text} (h : Padded tail tail') :
    Stops isWord tail' ↔ Stops isWord tail := by
  cases tail with
  | cons c more =>
      obtain ⟨more', rfl, -⟩ := h.exists_cons
      simp
  | nil =>
      refine ⟨fun _ => stops_nil, fun _ => ?_⟩
      intro c hc
      exact isWord_of_isBlank (h.allBlank c (List.mem_of_mem_head? hc))

/-- **Blanks after an expression are behind its bounds.**  The second bound ends with a word
character, so it ends where it did. -/
theorem bounds?_padded {expression expression' : Text} (h : Padded expression expression') :
    Option.Rel (fun b b' => b'.1 = b.1 ∧ PaddedRest b.2 b'.2) (bounds? expression)
      (bounds? expression') := by
  refine rel_of_forall ?_ ?_
  · intro ⟨first, last, tail⟩ hbounds
    obtain ⟨u, v, w, hu, hv, hw, rfl, hfirst, hlast, htail, hline⟩ := bounds?_eq_some.1 hbounds
    obtain ⟨pad, hpad, hpadline, rfl⟩ := h
    have hpadded : Padded tail (tail ++ pad) := padded_append tail hpad hpadline
    refine ⟨(first, last, tail ++ pad), bounds?_eq_some.2 ?_, rfl, rfl, hpadded⟩
    exact ⟨u, v, w, hu, hv, hw, by simp, hfirst, hlast, (stops_isWord_padded hpadded).2 htail,
      by simp [hline, hpadline]⟩
  · intro ⟨first, last, tail'⟩ hbounds'
    obtain ⟨u, v, w, hu, hv, hw, rfl, hfirst, hlast, htail', hline'⟩ := bounds?_eq_some.1 hbounds'
    -- The second bound ends with a word character, so it is not part of the padding.
    have hfront : Stops isBlank (u ++ first ++ v ++ '.' :: '.' :: (w ++ last)).reverse := by
      have hreverse : Text.isToken last.reverse = true := by
        simpa [isToken_iff] using isToken_iff.1 hlast
      have heq : (u ++ first ++ v ++ '.' :: '.' :: (w ++ last)).reverse =
          last.reverse ++ (u ++ first ++ v ++ '.' :: '.' :: w).reverse := by
        simp
      rw [heq]
      exact stops_isBlank_token hreverse _
    have hsplit : u ++ first ++ v ++ '.' :: '.' :: (w ++ last ++ tail') =
        u ++ first ++ v ++ '.' :: '.' :: (w ++ last) ++ tail' := by
      simp
    obtain ⟨tail, rfl, hpadded⟩ := (hsplit ▸ h).of_append hfront
    refine ⟨(first, last, tail), bounds?_eq_some.2 ?_⟩
    refine ⟨u, v, w, hu, hv, hw, by simp, hfirst, hlast, (stops_isWord_padded hpadded).1 htail', ?_⟩
    rw [← isOneLine_iff] at hline' ⊢
    rw [← hpadded.isOneLine_eq, hline']

/-- A list that ends with its first tag ends there with blanks after the text as well. -/
theorem oneTag_padded {tail tail' : Text} (h : Padded tail tail') (tag : Text) :
    Option.Rel PaddedRest (if tail.atBlank then some ([tag], tail) else none)
      (if tail'.atBlank then some ([tag], tail') else none) := by
  rw [h.atBlank_eq]
  split
  · exact .some ⟨rfl, h⟩
  · exact .none

/-- Blanks after the last segment follow the list of tags. -/
theorem tagList?_padded {last last' : Text} (h : Padded last last') (init : List Text) :
    Option.Rel PaddedRest (tagList? (init ++ [last])) (tagList? (init ++ [last'])) := by
  induction init with
  | nil =>
      obtain ⟨htag, hrest⟩ := h.trimStart.spanWord
      simp only [List.nil_append, tagList?, htag, ite_self, Text.join, List.intercalate_singleton]
      split
      · exact .none
      · exact oneTag_padded hrest _
  | cons segment init ih =>
      have htail := h.join [','] (segment.trimStart.spanWord.2 :: init)
      have hshort := oneTag_padded htail segment.trimStart.spanWord.1
      simp only [List.cons_append, tagList?] at hshort ⊢
      split
      · exact .none
      · by_cases hblank : segment.trimStart.spanWord.2.all isBlank = true
        · rcases eq_none_or_exists_of_rel ih with
            ⟨hnone, hnone'⟩ | ⟨⟨tags, tail⟩, ⟨tags', tail'⟩, hsome, hsome', heq, hrest⟩
          · simpa only [hblank, if_true, hnone, hnone'] using hshort
          · obtain rfl : tags' = tags := heq
            simp only [hblank, if_true, hsome, hsome']
            exact .some ⟨rfl, hrest⟩
        · simpa only [if_neg hblank] using hshort

/-- Behind a colon there is a list of tags. -/
theorem tags?_colon {tail text : Text} (h : tail.trimStart = ':' :: text) :
    tags? tail = tagList? (text.splitOn ',') := by
  simp [tags?, h]

/-- Without a colon one of two words stands before the list of tags. -/
theorem tags?_other {tail : Text} (h : ∀ text, tail.trimStart ≠ ':' :: text) :
    tags? tail = ((tail.trimStart.afterWord? "with".toList).or
      (tail.trimStart.afterWord? "using".toList)).bind fun text => tagList? (text.splitOn ',') := by
  unfold tags?
  split
  · rename_i text htext
    exact absurd htext (h text)
  · rfl

/-- Blanks after a list of tags follow its last segment, however many it has. -/
theorem tagList?_splitOn_padded {text text' : Text} (h : Padded text text') :
    Option.Rel PaddedRest (tagList? (text.splitOn ',')) (tagList? (text'.splitOn ',')) := by
  obtain ⟨init, last, last', hinit, hinit', hlast⟩ := h.exists_splitOn
  rw [hinit, hinit']
  exact tagList?_padded hlast init

/-- A text that starts with one of the two words before a tag list does not start with the other. -/
theorem afterWord?_using_eq_none {text text' rest' : Text} (h : Padded text text')
    (hwith : text'.afterWord? "with".toList = some rest') :
    text.afterWord? "using".toList = none := by
  rw [Option.eq_none_iff_forall_ne_some]
  intro rest hrest
  obtain ⟨c, more, rfl, -, -⟩ := afterWord?_eq_some.1 hrest
  obtain ⟨c', more', rfl, -, -⟩ := afterWord?_eq_some.1 hwith
  obtain ⟨tail, heq, -⟩ := h.exists_cons
  cases heq

/-- The word before a tag list can end the line.  With blanks after it an empty list follows. -/
theorem afterTagWord?_padded {text text' : Text} (h : Padded text text') :
    Option.Rel Padded ((text.afterWord? "with".toList).or (text.afterWord? "using".toList))
        ((text'.afterWord? "with".toList).or (text'.afterWord? "using".toList)) ∨
      (text.afterWord? "with".toList).or (text.afterWord? "using".toList) = none ∧
        (text'.afterWord? "with".toList).or (text'.afterWord? "using".toList) = some [] := by
  rcases h.afterWord? (isBlank_of_all (w := "with".toList) (by decide)) with hrel | ⟨hnone, hempty⟩
  · rcases eq_none_or_exists_of_rel hrel with ⟨hnone, hnone'⟩ | ⟨rest, rest', hsome, hsome', hrest⟩
    · rw [hnone, hnone', Option.none_or, Option.none_or]
      exact h.afterWord? (isBlank_of_all (by decide))
    · rw [hsome, hsome']
      exact Or.inl (.some hrest)
  · rw [hnone, hempty, afterWord?_using_eq_none h hempty]
    exact Or.inr ⟨rfl, rfl⟩

/-- Blanks after a line change no tag; they are handed on to what stands behind the tags. -/
theorem tags?_padded {tail tail' : Text} (h : Padded tail tail') :
    Option.Rel PaddedRest (tags? tail) (tags? tail') := by
  rcases colon_padded h with ⟨text, text', htext, htext', hpadded⟩ | ⟨hcolon, hcolon'⟩
  · rw [tags?_colon htext, tags?_colon htext']
    exact tagList?_splitOn_padded hpadded
  · rw [tags?_other hcolon, tags?_other hcolon']
    rcases afterTagWord?_padded h.trimStart with hrel | ⟨hnone, hempty⟩
    · rcases eq_none_or_exists_of_rel hrel with
        ⟨hnone, hnone'⟩ | ⟨text, text', hsome, hsome', htext⟩
      · rw [hnone, hnone']
        exact .none
      · rw [hsome, hsome']
        exact tagList?_splitOn_padded htext
    · have hnothing : tagList? (List.splitOn ',' []) = none := by decide
      rw [hnone, hempty, Option.bind_none, Option.bind_some, hnothing]
      exact .none

/-- The bus interfaces are trimmed, so the blanks after them do not show. -/
theorem withBusInterfaces_padded {rest rest' : Text} (h : Padded rest rest')
    (range : AddressRange) :
    withBusInterfaces range rest' = withBusInterfaces range rest := by
  simp only [withBusInterfaces, busInterfaces?, h.trim_eq]

/-- Blanks after a line belong to no qualifier of its range. -/
theorem withQualifiers_padded {tail tail' : Text} (h : Padded tail tail') (range : AddressRange) :
    withQualifiers range tail' = withQualifiers range tail := by
  simp only [withQualifiers, h.trim_eq]
  rcases eq_none_or_exists_of_rel (tags?_padded h) with
    ⟨hnone, hnone'⟩ | ⟨⟨tags, rest⟩, ⟨tags', rest'⟩, hsome, hsome', heq, hrest⟩
  · rw [hnone, hnone']
  · obtain rfl : tags' = tags := heq
    simp only [hsome, hsome', withBusInterfaces_padded hrest]

/-- Blanks behind the bounds do not change the range. -/
theorem ofBounds_padded {tail tail' : Text} (h : Padded tail tail') (first last : Text) :
    ofBounds first last tail' = ofBounds first last tail := by
  simp only [ofBounds, withQualifiers_padded h]

/-- An address range line is read alike with blanks after it, stage by stage. -/
theorem read_padded (h : Padded line line') : AddressRange.read line' = AddressRange.read line := by
  unfold AddressRange.read
  rcases eq_none_or_exists_of_rel (afterKeyword?_padded h) with
    ⟨hnone, hnone'⟩ | ⟨expression, expression', hsome, hsome', hexpression⟩
  · rw [hnone, hnone']
    rcases eq_none_or_exists_of_rel (bounds?_padded h) with
      ⟨hbounds, hbounds'⟩ | ⟨a, b, hbounds, hbounds', hfirst, hlast, htail⟩
    · rw [hbounds, hbounds']
    · simp only [hbounds, hbounds', hfirst, hlast, ofBounds_padded htail]
  · simp only [hsome, hsome', hexpression.trim_eq]
    rcases eq_none_or_exists_of_rel (bounds?_padded hexpression) with
      ⟨hbounds, hbounds'⟩ | ⟨a, b, hbounds, hbounds', hfirst, hlast, htail⟩
    · rw [hbounds, hbounds']
    · simp only [hbounds, hbounds', hfirst, hlast, ofBounds_padded htail]

end AddressRange

/-! ## Every kind -/

/-- **Every kind reads a line alike with blanks after it.** -/
theorem Kind.read_padded [PatternCompiler] (kind : Kind) (h : Padded line line') :
    kind.read line' = kind.read line := by
  cases kind with
  | unknown => rfl
  | word => simp only [Kind.read, Word.read, h.trim_eq]
  | property => rw [Kind.read, Property.read_padded h, Kind.read]
  | propertyAnyValue => rw [Kind.read, Property.readAnyValue_padded h, Kind.read]
  | propertyList => rw [Kind.read, PropertyList.read_padded h, Kind.read]
  | blockTag => simp only [Kind.read, BlockTagLine.read, h.trim_eq]
  | limitation => rw [Kind.read, Limitation.read_padded h, Kind.read]
  | addressRange => rw [Kind.read, AddressRange.read_padded h, Kind.read]
  | patternLiteral => simp only [Kind.read, PatternLiteral.read, h.trim_eq]
  | methodCall => simp only [Kind.read, MethodCall.read, MethodCall.shape?, h.trim_eq]

/-- **Every kind reads a line alike with blanks before it.** -/
theorem Kind.read_blank_append [PatternCompiler] (kind : Kind) (hu : AllBlank u) (line : Text) :
    kind.read (u ++ line) = kind.read line := by
  have htrim := trim_blank_append hu line
  have hstart := trimStart_blank_append hu line
  cases kind with
  | unknown => rfl
  | word => simp only [Kind.read, Word.read, htrim]
  | property => simp only [Kind.read, Property.read_eq, Property.head?_blank_append hu]
  | propertyAnyValue => simp only [Kind.read, Property.readAnyValue_eq, Property.head?_blank_append hu]
  | propertyList => simp only [Kind.read, PropertyList.read_eq, Property.head?_blank_append hu]
  | blockTag => simp only [Kind.read, BlockTagLine.read, htrim]
  | limitation => simp only [Kind.read, Limitation.read, Limitation.keyword?, htrim, hstart]
  | addressRange =>
      simp only [Kind.read, AddressRange.read, AddressRange.afterKeyword?,
        AddressRange.afterRangeWord?, AddressRange.bounds?, hstart]
  | patternLiteral => simp only [Kind.read, PatternLiteral.read, htrim]
  | methodCall => simp only [Kind.read, MethodCall.read, MethodCall.shape?, htrim]

/-- **No grammar looks at the blanks around a line.**  For every kind the verdict on a line is the
verdict on the line with blanks before it and, on the same line, after it: the same silence, the
same value, or the same cause with the same fragment. -/
theorem Kind.read_ignores_padding [PatternCompiler] (kind : Kind) (line : Text) {u v : Text}
    (hu : AllBlank u) (hv : AllBlank v) (hline : '\n' ∉ v) :
    kind.read (u ++ line ++ v) = kind.read line := by
  rw [kind.read_padded (padded_append (u ++ line) hv hline), kind.read_blank_append hu line]

end

/-- The list of bus interfaces that an address range line is rejected for carries no padding. -/
theorem Kind.read_ignores_padding_duplicate :
    AllBlank "\t ".toList ∧ AllBlank " \u00a0\r".toList ∧ '\n' ∉ " \u00a0\r".toList ∧
      Kind.addressRange.read
          ("\t ".toList ++ "range 1..2 with a for b, b".toList ++ " \u00a0\r".toList) =
        .rejected (.duplicateBusInterfaces "b, b".toList) := by
  have hu : AllBlank "\t ".toList := List.all_eq_true.1 (by decide)
  have hv : AllBlank " \u00a0\r".toList := List.all_eq_true.1 (by decide)
  have hline : '\n' ∉ " \u00a0\r".toList := by decide
  refine ⟨hu, hv, hline, ?_⟩
  rw [Kind.read_ignores_padding .addressRange _ hu hv hline]
  decide

/-- A line feed after the line is no padding. -/
example : Kind.property.read "a: b".toList = .accepted (.property ⟨['a'], ['b']⟩) ∧
    Kind.property.read "a: b\n".toList = .noMatch := by
  decide

end MacroBody

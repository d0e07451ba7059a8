import MacroBody.Proofs.Grammar.Padding

/-!
# The stages of reading an address range

An address range is read in stages: the keyword, the bounds, the tags, the bus interfaces.  A line
is read if and only if every stage succeeds.  There is one equivalence for each stage
(`read_eq_accepted`, `ofBounds_eq_ok`, `withQualifiers_eq_ok`, `tags?_eq_some`,
`withBusInterfaces_eq_ok`, `busInterfaces?_eq_some`), and what holds of the ranges that are read is
derived from these.
-/

namespace MacroBody.AddressRange

open Text

/-- The word before the bus interfaces. -/
def busWord (inverse : Bool) : Text :=
  if inverse then "notfor".toList else "for".toList

theorem isToken_busWord (inverse : Bool) : (busWord inverse).isToken = true := by
  cases inverse <;> decide

/-- One of the words before the tags. -/
def TagWord (w : Text) : Prop :=
  w = "with".toList ∨ w = "using".toList

theorem TagWord.isToken {w : Text} (h : TagWord w) : w.isToken = true := by
  rcases h with rfl | rfl <;> decide

variable {range r : AddressRange} {line list rest tail first last : Text} {tags : List Text}

/-! ## Lists after the bounds -/

/-- The bus interfaces stand after one of two words. -/
theorem busInterfaces?_eq_some {inverse : Bool} :
    busInterfaces? rest = some (list, inverse) ↔
      rest.trim.afterWord? (busWord inverse) = some list := by
  unfold busInterfaces?
  constructor
  · intro h
    rcases Option.or_eq_some_iff.1 h with hfor | ⟨-, hnotfor⟩
    · obtain ⟨text, htext, heq⟩ := Option.map_eq_some_iff.1 hfor
      cases heq
      exact htext
    · obtain ⟨text, htext, heq⟩ := Option.map_eq_some_iff.1 hnotfor
      cases heq
      exact htext
  · intro h
    cases inverse with
    | false =>
        have hfor : rest.trim.afterWord? "for".toList = some list := h
        rw [hfor]
        rfl
    | true =>
        have hnotfor : rest.trim.afterWord? "notfor".toList = some list := h
        have hfor : rest.trim.afterWord? "for".toList = none := by
          rw [Option.eq_none_iff_forall_ne_some]
          intro list' h'
          exact absurd (afterWord?_unique (by decide) (by decide) h' hnotfor) (by decide)
        rw [hfor, hnotfor]
        rfl

/-- The tags stand after one of two words, if they do not stand after a colon. -/
theorem afterTagWord?_eq_some {text : Text} :
    (tail.afterWord? "with".toList).or (tail.afterWord? "using".toList) = some text ↔
      ∃ w, TagWord w ∧ tail.afterWord? w = some text := by
  constructor
  · intro h
    rcases Option.or_eq_some_iff.1 h with hwith | ⟨-, husing⟩
    · exact ⟨_, Or.inl rfl, hwith⟩
    · exact ⟨_, Or.inr rfl, husing⟩
  · intro h
    obtain ⟨w, rfl | rfl, hafter⟩ := h
    · rw [hafter, Option.some_or]
    · have hwith : tail.afterWord? "with".toList = none := by
        rw [Option.eq_none_iff_forall_ne_some]
        intro text' h'
        exact absurd (afterWord?_unique (by decide) (by decide) h' hafter) (by decide)
      rw [hwith, hafter, Option.none_or]

/-- The tags stand after a colon or after one of two words. -/
theorem tags?_eq_some :
    tags? tail = some (tags, rest) ↔
      ∃ text, (tail.trimStart = ':' :: text ∨
          ∃ w, TagWord w ∧ tail.trimStart.afterWord? w = some text) ∧
        tagList? (text.splitOn ',') = some (tags, rest) := by
  by_cases hcolon : ∃ text, tail.trimStart = ':' :: text
  · obtain ⟨text, htext⟩ := hcolon
    rw [tags?_colon htext]
    constructor
    · intro h
      exact ⟨text, Or.inl htext, h⟩
    · intro h
      obtain ⟨text', hcolon' | ⟨w, hw, hafter⟩, hlist⟩ := h
      · rw [htext] at hcolon'
        obtain rfl : text = text' := (List.cons.inj hcolon').2
        exact hlist
      · obtain ⟨c, more, hstart, -, -⟩ := afterWord?_eq_some.1 hafter
        rw [htext] at hstart
        rcases hw with rfl | rfl <;> cases hstart
  · rw [tags?_other (not_exists.1 hcolon), Option.bind_eq_some_iff]
    constructor
    · intro h
      obtain ⟨text, hafter, hlist⟩ := h
      exact ⟨text, Or.inr (afterTagWord?_eq_some.1 hafter), hlist⟩
    · intro h
      obtain ⟨text, hcolon' | hafter, hlist⟩ := h
      · exact absurd ⟨text, hcolon'⟩ hcolon
      · exact ⟨text, afterTagWord?_eq_some.2 hafter, hlist⟩

/-- A tag is read off the first segment.  Then the list goes on with the next segment, or it ends
and the rest of the text is left. -/
theorem tagList?_cons_eq_some {segment : Text} {more tags : List Text}
    (h : tagList? (segment :: more) = some (tags, tail)) :
    ∃ u tag rest, AllBlank u ∧ segment = u ++ (tag ++ rest) ∧ tag.isToken = true ∧
      ((∃ later, AllBlank rest ∧ tags = tag :: later ∧ tagList? more = some (later, tail)) ∨
        (tags = [tag] ∧ tail = Text.join [','] (rest :: more) ∧ tail.atBlank = true)) := by
  obtain ⟨u, hu, hsegment⟩ := exists_trimStart segment
  generalize hspan : segment.trimStart.spanWord = span at h
  obtain ⟨tag, rest⟩ := span
  rw [← spanWord_append segment.trimStart, hspan] at hsegment
  simp only [tagList?, hspan] at h
  by_cases hempty : tag.isEmpty = true
  · rw [if_pos hempty] at h
    cases h
  · rw [if_neg hempty] at h
    have htag : tag.isToken = true :=
      isToken_iff.2 ⟨by simpa using hempty, isWord_of_mem_spanWord hspan⟩
    refine ⟨u, tag, rest, hu, hsegment, htag, ?_⟩
    split at h
    · rename_i later tail' hlater
      cases h
      split at hlater
      · rename_i hblank
        exact Or.inl ⟨later, List.all_eq_true.1 hblank, rfl, hlater⟩
      · cases hlater
    · split at h
      · rename_i hblank
        cases h
        exact Or.inr ⟨rfl, rfl, hblank⟩
      · cases h

/-! ## Adding to a range -/

/-- Bus interfaces are a list without repetitions behind one of two words, or nothing is left to
read. -/
theorem withBusInterfaces_eq_ok :
    range.withBusInterfaces rest = .ok r ↔
      (AllBlank rest ∧ r = range) ∨
        ∃ list inverse names, rest.trim.afterWord? (busWord inverse) = some list ∧
          list.tokens? = some names ∧ names.Nodup ∧
          r = { range with busInterfaces := names, inverse := inverse } := by
  constructor
  · intro h
    unfold withBusInterfaces at h
    split at h
    · rename_i hempty
      cases h
      exact Or.inl ⟨trim_eq_nil_iff.1 (List.isEmpty_iff.1 hempty), rfl⟩
    · split at h
      · cases h
      · rename_i list inverse hlist
        split at h
        · cases h
        · rename_i names hnames
          split at h
          · rename_i hnodup
            cases h
            exact Or.inr ⟨list, inverse, names, busInterfaces?_eq_some.1 hlist, hnames, hnodup, rfl⟩
          · cases h
  · intro h
    rcases h with ⟨hblank, rfl⟩ | ⟨list, inverse, names, hlist, hnames, hnodup, rfl⟩
    · simp [withBusInterfaces, trim_eq_nil_iff.2 hblank]
    · have hsome : rest.trim.isEmpty = false := by
        obtain ⟨c, more, hrest, -, -⟩ := afterWord?_eq_some.1 hlist
        simp [hrest]
      simp [withBusInterfaces, hsome, busInterfaces?_eq_some.2 hlist, hnames, hnodup]

/-- Where tags are found, the line goes on after the bounds. -/
theorem withQualifiers_of_tags? (range : AddressRange)
    (h : tags? tail = some (tags, rest)) :
    range.withQualifiers tail = { range with tags := tags }.withBusInterfaces rest := by
  have hsome : tail.trim.isEmpty = false := by
    rw [List.isEmpty_eq_false_iff]
    intro hnil
    have hstart : tail.trimStart = [] := by
      rw [← List.head?_eq_none_iff, ← head?_trim, hnil]
      rfl
    have hnone : tags? tail = none := by
      rw [tags?, hstart]
      rfl
    rw [hnone] at h
    cases h
  simp [withQualifiers, hsome, h]

/-- Qualifiers are tags with bus interfaces behind them, or nothing is left to read. -/
theorem withQualifiers_eq_ok :
    range.withQualifiers tail = .ok r ↔
      (AllBlank tail ∧ r = range) ∨
        ∃ tags rest, tags? tail = some (tags, rest) ∧
          { range with tags := tags }.withBusInterfaces rest = .ok r := by
  constructor
  · intro h
    unfold withQualifiers at h
    split at h
    · rename_i hempty
      cases h
      exact Or.inl ⟨trim_eq_nil_iff.1 (List.isEmpty_iff.1 hempty), rfl⟩
    · split at h
      · cases h
      · rename_i tags rest htags
        exact Or.inr ⟨tags, rest, htags, h⟩
  · intro h
    rcases h with ⟨hblank, rfl⟩ | ⟨tags, rest, htags, h⟩
    · simp [withQualifiers, trim_eq_nil_iff.2 hblank]
    · rw [withQualifiers_of_tags? _ htags, h]

/-! ## Lines -/

/-- Where both bounds are numerals in order, what follows them decides. -/
theorem ofBounds_of_read? {min max : UInt64} (hmin : Numeral.read? first = some min)
    (hmax : Numeral.read? last = some max) (hle : min ≤ max) (tail : Text) :
    ofBounds first last tail = withQualifiers ⟨min, max, [], [], false⟩ tail := by
  simp [ofBounds, bound, hmin, hmax, bind, Except.bind, UInt64.not_lt.2 hle]

/-- Both bounds must be numerals, and the first must not be above the second. -/
theorem ofBounds_eq_ok :
    ofBounds first last tail = .ok r ↔
      ∃ min max, Numeral.read? first = some min ∧ Numeral.read? last = some max ∧ min ≤ max ∧
        withQualifiers ⟨min, max, [], [], false⟩ tail = .ok r := by
  unfold ofBounds bound
  cases hmin : Numeral.read? first with
  | none => simp [bind, Except.bind]
  | some min =>
      cases hmax : Numeral.read? last with
      | none => simp [bind, Except.bind]
      | some max =>
          by_cases hlt : max < min
          · simp [bind, Except.bind, hlt, UInt64.not_le.2 hlt]
          · simp [bind, Except.bind, hlt, UInt64.not_lt.1 hlt]

/-- The expression that is read stands behind the keyword, or is the line itself. -/
theorem read_eq_accepted :
    read line = .accepted r ↔
      ∃ first last tail, bounds? ((afterKeyword? line).getD line) = some (first, last, tail) ∧
        ofBounds first last tail = .ok r := by
  unfold read
  cases afterKeyword? line with
  | none =>
      cases hbounds : bounds? line with
      | none => simp [hbounds]
      | some parts =>
          obtain ⟨first, last, tail⟩ := parts
          simp [hbounds]
  | some expression =>
      cases hbounds : bounds? expression with
      | none => simp [hbounds]
      | some parts =>
          obtain ⟨first, last, tail⟩ := parts
          simp [hbounds]

end MacroBody.AddressRange

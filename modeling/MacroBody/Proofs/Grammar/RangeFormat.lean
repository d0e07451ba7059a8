import MacroBody.Proofs.Grammar.HexNumeral
import MacroBody.Proofs.Grammar.RangeForm

/-!
# Address ranges formatted for generated code

Generated code gets three strings of an address range: the bounds, the tags and the bus interfaces.
Together with the polarity they determine a range that was read
(`formatted_determines_range`), and the formatted bounds, written with dots between them, are read
as these bounds again.

This holds because of what a reader lets through.  A token has no semicolon and is not empty, so a
list of tokens can be told from the text it is joined to (`Text.join_injective`); the string of a
range put together by hand can be that of another one.
-/

namespace MacroBody

open Text

/-- Parts that are not empty and do not hold the separator can be told from the joined text. -/
theorem Text.join_injective {separator : Char} {parts parts' : List Text}
    (h : ∀ part ∈ parts, part ≠ [] ∧ separator ∉ part)
    (h' : ∀ part ∈ parts', part ≠ [] ∧ separator ∉ part)
    (heq : Text.join [separator] parts = Text.join [separator] parts') : parts = parts' := by
  -- Only the empty list is joined to the empty text.
  have hempty : ∀ {parts : List Text}, (∀ part ∈ parts, part ≠ [] ∧ separator ∉ part) →
      Text.join [separator] parts = [] → parts = [] := by
    intro parts hparts hnil
    cases parts with
    | nil => rfl
    | cons first more =>
        obtain ⟨rest, hrest⟩ := join_cons [separator] first more
        rw [hrest] at hnil
        exact absurd (List.append_eq_nil_iff.1 hnil).1 (hparts first List.mem_cons_self).1
  by_cases hne : parts = []
  · subst hne
    exact (hempty h' heq.symm).symm
  · have hne' : parts' ≠ [] := by
      intro hnil
      subst hnil
      exact hne (hempty h heq)
    rw [← List.splitOn_intercalate separator (fun part hpart => (h part hpart).2) hne,
      ← List.splitOn_intercalate separator (fun part hpart => (h' part hpart).2) hne']
    exact congrArg (List.splitOn separator) heq

namespace AddressRange

variable {r r' : AddressRange} {first last : Text}

theorem semicolon_not_mem_of_isToken {token : Text} (h : token.isToken = true) :
    ';' ∉ token := by
  intro hmem
  have hword := (isToken_iff.1 h).2 ';' hmem
  revert hword
  decide

/-! ## The three strings -/

theorem comma_not_mem_hexGroups (value : UInt64) : ',' ∉ hexGroups value :=
  comma_not_mem_of_isToken (isToken_hexGroups value)

/-- The formatted bounds determine the bounds. -/
theorem bounds_eq_of_formattedRange (h : r.formattedRange = r'.formattedRange) :
    r.min = r'.min ∧ r.max = r'.max := by
  have hcomma : ∀ value : UInt64, ∀ c ∈ hexGroups value, (c != ',') = true := by
    intro value c hc
    rw [bne_iff_ne]
    rintro rfl
    exact comma_not_mem_hexGroups value hc
  have hstop : ∀ t : Text, Stops (· != ',') (", ".toList ++ t) :=
    fun t => stops_cons.2 (by decide)
  unfold formattedRange at h
  rw [List.append_assoc, List.append_assoc] at h
  obtain ⟨hmin, hrest⟩ := span_unique (hcomma r.min) (hcomma r'.min) (hstop _) (hstop _) h
  exact ⟨hexGroups_injective hmin, hexGroups_injective (List.append_cancel_left hrest)⟩

/-- The formatted tags determine the tags, if these are tokens. -/
theorem tags_eq_of_formattedTags (hr : r.WellFormed) (hr' : r'.WellFormed)
    (h : r.formattedTags = r'.formattedTags) : r.tags = r'.tags := by
  have hparts : ∀ {r : AddressRange}, r.WellFormed → ∀ tag ∈ r.tags, tag ≠ [] ∧ ';' ∉ tag :=
    fun hr tag htag => ⟨(isToken_iff.1 (hr.tags tag htag)).1,
      semicolon_not_mem_of_isToken (hr.tags tag htag)⟩
  unfold formattedTags at h
  exact join_injective (hparts hr) (hparts hr')
    (List.append_cancel_left (List.append_cancel_right h))

/-- The formatted bus interfaces determine the bus interfaces, if these are tokens. -/
theorem busInterfaces_eq_of_formattedBusInterfaces (hr : r.WellFormed) (hr' : r'.WellFormed)
    (h : r.formattedBusInterfaces = r'.formattedBusInterfaces) :
    r.busInterfaces = r'.busInterfaces := by
  have hparts : ∀ {r : AddressRange}, r.WellFormed →
      ∀ part ∈ r.busInterfaces.map fun name => ['"'] ++ name ++ ['"'], part ≠ [] ∧ ';' ∉ part := by
    intro r hr part hpart
    obtain ⟨name, hname, rfl⟩ := List.mem_map.1 hpart
    exact ⟨by simp, by simpa using semicolon_not_mem_of_isToken (hr.busInterfaces name hname)⟩
  have hquote : Function.Injective fun name : Text => ['"'] ++ name ++ ['"'] :=
    fun name name' heq => List.append_cancel_left (List.append_cancel_right heq)
  unfold formattedBusInterfaces at h
  exact hquote.list_map (join_injective (hparts hr) (hparts hr')
    (List.append_cancel_left (List.append_cancel_right h)))

/-! ## Formatted bounds as a line -/

/-- **Formatted bounds with dots between them are a range** with these bounds and no lists. -/
theorem read_hexGroups {min max : UInt64} (hle : min ≤ max) :
    read (hexGroups min ++ "..".toList ++ hexGroups max) =
      .accepted ⟨min, max, [], [], false⟩ := by
  let f : Form :=
    ⟨⟨[], allBlank_nil⟩, none, ⟨_, isToken_hexGroups min⟩, ⟨[], allBlank_nil⟩, ⟨[], allBlank_nil⟩,
      ⟨_, isToken_hexGroups max⟩, none, ⟨[], allBlank_nil⟩, min, max, Numeral.read?_hexGroups min,
      Numeral.read?_hexGroups max, hle⟩
  have htext : f.text = hexGroups min ++ "..".toList ++ hexGroups max := by
    simp [f, Form.text, Form.expression, qualifierTail]
  have hline : '\n' ∉ f.text := by
    rw [htext]
    simp [oneLine_of_isToken (isToken_hexGroups _)]
  rw [← htext]
  exact f.read_text hline

/-- **Formatting loses nothing.**  Ranges that were read are equal if their formatted strings and
their polarity are, and the two halves of formatted bounds, in order and with dots between them, are
read as these bounds. -/
theorem formatted_determines_range :
    (∀ (line line' : Text) (r r' : AddressRange), read line = .accepted r →
      read line' = .accepted r' → r.formattedRange = r'.formattedRange →
      r.formattedTags = r'.formattedTags →
      r.formattedBusInterfaces = r'.formattedBusInterfaces → r.inverse = r'.inverse → r = r') ∧
    ∀ r : AddressRange, r.min ≤ r.max → ∃ first last,
      r.formattedRange = first ++ ", ".toList ++ last ∧ ',' ∉ first ∧ ',' ∉ last ∧
        read (first ++ "..".toList ++ last) = .accepted ⟨r.min, r.max, [], [], false⟩ := by
  constructor
  · intro line line' r r' hread hread' hrange htags hbus hinverse
    have hr := wellFormed_of_read hread
    have hr' := wellFormed_of_read hread'
    obtain ⟨hmin, hmax⟩ := bounds_eq_of_formattedRange hrange
    have htagsEq := tags_eq_of_formattedTags hr hr' htags
    have hbusEq := busInterfaces_eq_of_formattedBusInterfaces hr hr' hbus
    obtain ⟨min, max, tags, names, inverse⟩ := r
    obtain ⟨min', max', tags', names', inverse'⟩ := r'
    rw [AddressRange.mk.injEq]
    exact ⟨hmin, hmax, htagsEq, hbusEq, hinverse⟩
  · intro r hle
    exact ⟨hexGroups r.min, hexGroups r.max, rfl, comma_not_mem_hexGroups r.min,
      comma_not_mem_hexGroups r.max, read_hexGroups hle⟩

/-- A range put together by hand can have the strings of another one. -/
example : formattedTags ⟨0, 0, ["a;b".toList], [], false⟩ =
    formattedTags ⟨0, 0, [['a'], ['b']], [], false⟩ := by
  decide

end AddressRange

end MacroBody

import MacroBody.Proofs.Grammar.RangeLine

/-!
# Address ranges written out

An address range has one plain spelling (`plainForm`): the keyword, both bounds in decimal, and the
lists of tags and bus interfaces it has.  This file says which ranges can be read at all
(`wellFormed_of_read`) and that each of them is read from its plain spelling (`read_plainForm`).

Both follow from taking lines apart: the range of a form is well formed
(`Form.wellFormed_range`), and a well formed range has a form with the plain spelling
(`WellFormed.exists_form`).
-/

namespace MacroBody.AddressRange

open Text

/-- A word and a list of items after it, or nothing if there are no items. -/
def listed (word : Text) (items : List Text) : Text :=
  if items.isEmpty then [] else ' ' :: (word ++ ' ' :: Text.join ", ".toList items)

/-- What stands after the bounds. -/
def plainTail (r : AddressRange) : Text :=
  listed "with".toList r.tags ++ listed (busWord r.inverse) r.busInterfaces

/-- The bounds and what stands after them. -/
def plainExpression (r : AddressRange) : Text :=
  Text.decimal r.min.toNat ++ "..".toList ++ Text.decimal r.max.toNat ++ r.plainTail

/-- The plain spelling of a range. -/
def plainForm (r : AddressRange) : Text :=
  "range ".toList ++ r.plainExpression

/-- What holds of every range that is read. -/
structure WellFormed (r : AddressRange) : Prop where
  ordered : r.min ≤ r.max
  tags : ∀ tag ∈ r.tags, tag.isToken = true
  busInterfaces : ∀ name ∈ r.busInterfaces, name.isToken = true
  nodup : r.busInterfaces.Nodup
  /-- Bus interfaces stand after tags only. -/
  tagged : r.busInterfaces ≠ [] → r.tags ≠ []
  /-- Without bus interfaces there is nothing to invert. -/
  direct : r.busInterfaces = [] → r.inverse = false

/-! ## What can be read -/

/-- What a line describes is well formed. -/
theorem Form.wellFormed_range (f : Form) : f.range.WellFormed := by
  obtain ⟨-, -, -, -, -, -, qualifiers, -, min, max, -, -, hle⟩ := f
  cases qualifiers with
  | none =>
      exact ⟨hle, List.forall_mem_nil _, List.forall_mem_nil _, List.nodup_nil, absurd rfl,
        fun _ => rfl⟩
  | some q =>
      obtain ⟨-, tags, buses⟩ := q
      cases buses with
      | none =>
          exact ⟨hle, tags.isToken_of_mem_tokens, List.forall_mem_nil _, List.nodup_nil, absurd rfl,
            fun _ => rfl⟩
      | some b =>
          exact ⟨hle, tags.isToken_of_mem_tokens, b.names.isToken_of_mem_tokens, b.nodup,
            fun _ => tags.tokens_ne_nil, fun hnil => absurd hnil b.names.tokens_ne_nil⟩

/-- **What is read is well formed.** -/
theorem wellFormed_of_read {line : Text} {r : AddressRange} (h : read line = .accepted r) :
    r.WellFormed := by
  obtain ⟨f, -, rfl⟩ := exists_form_of_read h
  exact f.wellFormed_range

/-! ## Plain spellings -/

section Spelling

variable {word : Text} {names : List Text} {r : AddressRange}

theorem listed_of_ne_nil (hne : names ≠ []) :
    listed word names = ' ' :: (word ++ ' ' :: Text.join ", ".toList names) := by
  simp [listed, hne]

/-- The bus interfaces of a well formed range can be written out. -/
theorem WellFormed.exists_busTail (h : r.WellFormed) :
    ∃ buses : Option BusList,
      busTail buses ⟨[], allBlank_nil⟩ = listed (busWord r.inverse) r.busInterfaces ∧
        (buses.elim [] fun b => b.names.tokens) = r.busInterfaces ∧
        buses.elim false BusList.inverse = r.inverse := by
  by_cases hne : r.busInterfaces = []
  · exact ⟨none, by simp [busTail, listed, hne], hne.symm, (h.direct hne).symm⟩
  · obtain ⟨l, htext, htokens⟩ := TokenList.exists_of_tokens hne h.busInterfaces
    refine ⟨some ⟨.space, r.inverse, .space, l, htokens ▸ h.nodup⟩, ?_, htokens, rfl⟩
    rw [listed_of_ne_nil hne, ← htext]
    simp [busTail, BusList.text, Gap.space]

/-- The qualifiers of a plain form are those of its range. -/
theorem WellFormed.exists_qualifierTail (h : r.WellFormed) :
    ∃ qualifiers : Option Qualifiers,
      qualifierTail qualifiers ⟨[], allBlank_nil⟩ = r.plainTail ∧
        (qualifiers.elim [] fun q => q.tags.tokens) = r.tags ∧
        ((qualifiers.bind Qualifiers.buses).elim [] fun b => b.names.tokens) = r.busInterfaces ∧
        (qualifiers.bind Qualifiers.buses).elim false BusList.inverse = r.inverse := by
  by_cases hne : r.tags = []
  · have hnone : r.busInterfaces = [] := by
      by_contra hsome
      exact h.tagged hsome hne
    exact ⟨none, by simp [qualifierTail, plainTail, listed, hne, hnone], hne.symm, hnone.symm,
      (h.direct hnone).symm⟩
  · obtain ⟨l, htext, htokens⟩ := TokenList.exists_of_tokens hne h.tags
    obtain ⟨buses, hbuses, hnames, hinverse⟩ := h.exists_busTail
    refine ⟨some ⟨.word .space "with".toList (Or.inl rfl) .space, l, buses⟩, ?_, htokens, hnames,
      hinverse⟩
    rw [qualifierTail, hbuses, plainTail, listed_of_ne_nil hne, htext]
    simp [Introduction.text, Gap.space]

/-- A well formed range has a form, and the text of this form is the plain spelling. -/
theorem WellFormed.exists_form (h : r.WellFormed) :
    ∃ f : Form, f.text = r.plainForm ∧ f.range = r := by
  obtain ⟨qualifiers, htail, htags, hnames, hinverse⟩ := h.exists_qualifierTail
  refine ⟨⟨⟨[], allBlank_nil⟩, some ⟨none, .gap .space⟩, ⟨_, isToken_decimal r.min.toNat⟩,
    ⟨[], allBlank_nil⟩, ⟨[], allBlank_nil⟩, ⟨_, isToken_decimal r.max.toNat⟩, qualifiers,
    ⟨[], allBlank_nil⟩, r.min, r.max, Numeral.read?_decimal _, Numeral.read?_decimal _,
    h.ordered⟩, ?_, ?_⟩
  · unfold plainForm
    simp [Form.text, Form.expression, htail, plainExpression, Announcement.text,
      Announcement.word, Separator.text, Gap.space]
  · rw [AddressRange.mk.injEq]
    exact ⟨rfl, rfl, htags, hnames, hinverse⟩

theorem oneLine_listed (hword : '\n' ∉ word) (hnames : ∀ name ∈ names, name.isToken = true) :
    '\n' ∉ listed word names := by
  unfold listed
  split
  · exact List.not_mem_nil
  · intro hmem
    have hjoin : '\n' ∈ Text.join ", ".toList names := by
      simpa [hword] using hmem
    exact oneLine_join (fun name hname => oneLine_of_isToken (hnames name hname)) hjoin

/-- A plain form is one line. -/
theorem WellFormed.oneLine_plainForm (h : r.WellFormed) : '\n' ∉ r.plainForm := by
  have hdecimal : ∀ n, '\n' ∉ Text.decimal n :=
    fun n => oneLine_of_isToken (isToken_decimal n)
  have htags := oneLine_listed (by decide : '\n' ∉ "with".toList) h.tags
  have hbus := oneLine_listed (oneLine_of_isToken (isToken_busWord r.inverse)) h.busInterfaces
  unfold plainForm
  simpa [plainExpression, plainTail, hdecimal, hbus] using htags

/-- **A well formed range is read from its plain spelling.** -/
theorem read_plainForm (h : r.WellFormed) : read r.plainForm = .accepted r := by
  obtain ⟨f, htext, hrange⟩ := h.exists_form
  rw [← htext, f.read_text (htext ▸ h.oneLine_plainForm), hrange]

end Spelling

end MacroBody.AddressRange

import MacroBody.Proofs.Grammar.CallForm
import MacroBody.Proofs.Grammar.Limitation
import MacroBody.Proofs.Grammar.RangeForm

/-!
# Plain forms of payloads

Many lines are read as the same payload.  One of them is its plain form (`Payload.plainForm`): no
blanks around it, one space where blanks separate, decimal bounds, and a comma and a space between
the items of a list.

A payload can be read as a kind exactly if it has that kind and is well formed
(`Kind.exists_read_iff`).  From left to right this is what each reader checks or trims
(`Kind.wellFormed_of_read`); from right to left the plain form is such a line
(`Payload.read_plainForm`).  So a line that is read can be replaced by its plain form
(`Kind.read_plainForm_of_read`).
-/

namespace MacroBody

open Text

/-- A name, a colon between two spaces, and a value. -/
def Text.labelled (name value : Text) : Text :=
  name ++ " : ".toList ++ value

namespace Payload

/-- The plain form of a payload. -/
def plainForm : Payload → Text
  | word w => w.name
  | property p => labelled p.name p.val
  | propertyAnyValue p => labelled p.name p.val
  | propertyList p => labelled p.name (Text.join ", ".toList p.vals)
  | blockTag b => (if b.enter then "<" else "</").toList ++ b.tag.name ++ ">".toList
  | limitation l => l.keyword.name ++ " ".toList ++ labelled l.name l.val
  | addressRange r => r.plainForm
  | patternLiteral p => "\"".toList ++ p.pattern ++ "\"".toList
  | methodCall m => m.plainForm

/-- What holds of every payload that is read. -/
def WellFormed [PatternCompiler] : Payload → Prop
  | word w => w.name.isName = true
  | property p => Property.isPhrase p.name = true ∧ Tight p.name ∧ p.val.isToken = true
  | propertyAnyValue p => p.name.isToken = true ∧ Tight p.val ∧ '\n' ∉ p.val
  | propertyList p =>
    p.name.isToken = true ∧ p.vals ≠ [] ∧ ∀ val ∈ p.vals, val.isToken = true
  | blockTag _ => True
  | limitation l => l.name.isToken = true ∧ l.val.isToken = true
  | addressRange r => r.WellFormed
  | patternLiteral p => '\n' ∉ p.pattern ∧ PatternCompiler.report? p.pattern = none
  | methodCall m => m.WellFormed

end Payload

/-! ## Properties -/

section Properties

variable {line name val : Text} {accept : Text → Bool}

/-- The head of a labelled value is its name. -/
theorem Property.head?_labelled (hname : Tight name) (hplain : Plain name)
    (haccept : accept name = true) (hval : '\n' ∉ val) :
    Property.head? accept (labelled name val) = some (name, ' ' :: val) := by
  refine Property.head?_eq_some.2 ⟨name ++ [' '], by simp [labelled], ?_, ?_, haccept, ?_⟩
  · intro hmem
    have hmark : ':' ∈ name := by simpa using hmem
    cases hplain ':' hmark
  · have hblank : AllBlank [' '] := by decide
    simpa using trim_append allBlank_nil hblank hname
  · simpa using hval

/-- A labelled text has its label as a head of one token. -/
theorem Property.head?_labelled_token (hname : name.isToken = true) (hval : '\n' ∉ val) :
    Property.head? Text.isToken (labelled name val) = some (name, ' ' :: val) :=
  Property.head?_labelled (tight_of_isToken hname) (plain_of_isWord (isToken_iff.1 hname).2) hname
    hval

/-- A property is read back from its label and its value. -/
theorem Property.read_labelled {p : Property} (hname : Property.isPhrase p.name = true)
    (htight : Tight p.name) (hval : p.val.isToken = true) :
    Property.read (labelled p.name p.val) = .accepted p := by
  have hhead := Property.head?_labelled htight (Property.plain_of_isPhrase hname) hname
    (oneLine_of_isToken hval)
  have htrim : trim (' ' :: p.val) = p.val := trim_of_tight (tight_of_isToken hval)
  simp [Property.read_eq, hhead, htrim, hval]

/-- A property with any text is read back from its label and the text. -/
theorem Property.readAnyValue_labelled {p : Property} (hname : p.name.isToken = true)
    (htight : Tight p.val) (hline : '\n' ∉ p.val) :
    Property.readAnyValue (labelled p.name p.val) = .accepted p := by
  have htrim : trim (' ' :: p.val) = p.val := trim_of_tight htight
  simp [Property.readAnyValue_eq, Property.head?_labelled_token hname hline, htrim]

/-- **A written list is read as the values of a property.** -/
theorem PropertyList.read_tokenList (name : Token) (u v : Blanks) (l : TokenList)
    (hline : '\n' ∉ v.text ++ l.text) :
    PropertyList.read (name.text ++ u.text ++ ':' :: (v.text ++ l.text)) =
      .accepted ⟨name.text, l.tokens⟩ := by
  refine PropertyList.read_eq_accepted.2 ⟨name.text ++ u.text, v.text ++ l.text, rfl, ?_, hline, ?_,
    name.isToken, ?_⟩
  · have hplain := plain_append.2 ⟨plain_of_isWord (isToken_iff.1 name.isToken).2, u.blank.plain⟩
    intro hmem
    cases hplain ':' hmem
  · exact trim_append allBlank_nil u.blank (tight_of_isToken name.isToken)
  · exact tokens?_iff.2 ⟨v, l, ⟨[], allBlank_nil⟩, (List.append_nil _).symm, rfl⟩

/-- A property list is read back from its label and its values. -/
theorem PropertyList.read_labelled {p : PropertyList} (hname : p.name.isToken = true)
    (hne : p.vals ≠ []) (hvals : ∀ val ∈ p.vals, val.isToken = true) :
    PropertyList.read (labelled p.name (Text.join ", ".toList p.vals)) = .accepted p := by
  have hline : '\n' ∉ Text.join ", ".toList p.vals :=
    oneLine_join fun val hval => oneLine_of_isToken (hvals val hval)
  obtain ⟨l, htext, htokens⟩ := TokenList.exists_of_tokens hne hvals
  have hread := PropertyList.read_tokenList ⟨p.name, hname⟩ Gap.space.toBlanks Gap.space.toBlanks l
    (by simpa [Gap.space, htext] using hline)
  rw [htext, htokens] at hread
  simpa [labelled, Gap.space] using hread

/-- A property with any text has a name of one token and a tight text of one line. -/
theorem Property.wellFormed_of_readAnyValue {p : Property}
    (h : Property.readAnyValue line = .accepted p) :
    p.name.isToken = true ∧ Tight p.val ∧ '\n' ∉ p.val := by
  rw [Property.readAnyValue_eq] at h
  split at h
  · cases h
  · rename_i name rest hhead
    cases h
    obtain ⟨before, -, -, -, hname, hline⟩ := Property.head?_eq_some.1 hhead
    exact ⟨hname, tight_trim rest, fun hmem => hline (mem_of_mem_trim hmem)⟩

/-- A property list that is read has a name of one token and values, each of one token. -/
theorem PropertyList.wellFormed_of_read {p : PropertyList}
    (h : PropertyList.read line = .accepted p) :
    p.name.isToken = true ∧ p.vals ≠ [] ∧ ∀ val ∈ p.vals, val.isToken = true := by
  obtain ⟨before, rest, -, -, -, -, hname, hvals⟩ := PropertyList.read_eq_accepted.1 h
  exact ⟨hname, isToken_of_tokens? hvals⟩

end Properties

/-! ## Patterns and block tags -/

/-- A text between two visible characters is tight. -/
theorem Text.trim_enclosed {o c : Char} (ho : isBlank o = false) (hc : isBlank c = false)
    (inner : Text) : Text.trim (o :: inner ++ [c]) = o :: inner ++ [c] := by
  refine trim_of_tight ⟨stops_cons.2 ho, ?_⟩
  rw [List.reverse_append]
  exact stops_cons.2 hc

/-- A pattern that is read has one line, and the compiler has nothing to report on it. -/
theorem PatternLiteral.wellFormed_of_read [PatternCompiler] {line : Text} {p : PatternLiteral}
    (h : PatternLiteral.read line = .accepted p) :
    '\n' ∉ p.pattern ∧ PatternCompiler.report? p.pattern = none := by
  unfold PatternLiteral.read at h
  split at h
  · cases h
  · rename_i pattern hpattern
    split at h
    · rename_i hreport
      cases h
      exact ⟨(enclosed_filter_eq_some.1 hpattern).2, hreport⟩
    · cases h

/-- A pattern between quotes is read, if the compiler has nothing to report on it. -/
theorem PatternLiteral.read_enclosed [PatternCompiler] {p : PatternLiteral}
    (hline : '\n' ∉ p.pattern) (hreport : PatternCompiler.report? p.pattern = none) :
    PatternLiteral.read ('"' :: p.pattern ++ ['"']) = .accepted p := by
  have hquote : isBlank '"' = false := by decide
  rw [PatternLiteral.read, trim_enclosed hquote hquote, enclosed_filter_eq_some.2 ⟨rfl, hline⟩]
  simp only [hreport]

/-- The name of a block tag is a token. -/
theorem BlockTag.isToken_name (tag : BlockTag) : tag.name.isToken = true := by
  cases tag <;> decide

/-- A known tag between brackets is read, with a slash before it or without. -/
theorem BlockTagLine.read_of_word? {inner : Text} {tag : BlockTag} {enter : Bool}
    (hline : '\n' ∉ inner) (hword : BlockTagLine.word? inner = some (tag.name, enter)) :
    BlockTagLine.read ('<' :: inner ++ ['>']) = .accepted ⟨tag, enter⟩ := by
  have hopen : isBlank '<' = false := by decide
  have hclose : isBlank '>' = false := by decide
  rw [BlockTagLine.read, trim_enclosed hopen hclose, enclosed_filter_eq_some.2 ⟨rfl, hline⟩]
  simp only [hword, BlockTag.ofName?_name]

/-- A block tag line is read back from the brackets around its tag. -/
theorem BlockTagLine.read_enclosed (b : BlockTagLine) :
    BlockTagLine.read ((if b.enter then "<" else "</").toList ++ b.tag.name ++ ">".toList) =
      .accepted b := by
  obtain ⟨tag, enter⟩ := b
  have htoken := tag.isToken_name
  have hline := oneLine_of_isToken htoken
  cases enter with
  | false =>
      have hword : BlockTagLine.word? ('/' :: tag.name) = some (tag.name, false) := by
        simp [BlockTagLine.word?, htoken]
      have hslash : '\n' ∉ '/' :: tag.name := by
        simpa using hline
      have hread := BlockTagLine.read_of_word? hslash hword
      simpa using hread
  | true =>
      have hword : BlockTagLine.word? tag.name = some (tag.name, true) := by
        unfold BlockTagLine.word?
        split
        · rename_i name hname
          cases (isToken_iff.1 htoken).2 '/' (hname ▸ List.mem_cons_self)
        · rw [if_pos htoken]
      have hread := BlockTagLine.read_of_word? hline hword
      simpa using hread

/-! ## Limitations -/

/-- A limitation that is read has a name and a value of one token each. -/
theorem Limitation.wellFormed_of_read {line : Text} {l : Limitation}
    (h : Limitation.read line = .accepted l) : l.name.isToken = true ∧ l.val.isToken = true := by
  unfold Limitation.read at h
  split at h
  · cases h
  · split at h
    · split at h
      · rename_i name val hassignment
        cases h
        obtain ⟨-, -, -, -, -, -, -, -, hname, hval⟩ := assignment?_eq_some.1 hassignment
        exact ⟨hname, hval⟩
      · cases h
    · cases h

/-- A limitation is read back from its keyword and the assignment. -/
theorem Limitation.read_labelled {l : Limitation} (hname : l.name.isToken = true)
    (hval : l.val.isToken = true) :
    Limitation.read (l.keyword.name ++ " ".toList ++ labelled l.name l.val) = .accepted l := by
  have hblank : AllBlank [' '] := by decide
  have hkeyword : '\n' ∉ l.keyword.name := by
    cases l.keyword <;> decide
  have hline : '\n' ∉ l.keyword.name ++ " ".toList ++ labelled l.name l.val := by
    simp [labelled, hkeyword, oneLine_of_isToken hname, oneLine_of_isToken hval]
  refine (Limitation.read_accepted_iff hline).2 ⟨[], [' '], [' '], ':', ' ' :: l.val, allBlank_nil,
    hblank, by simp, hblank, by simp [labelled], rfl, ?_, hname, hval⟩
  exact trim_of_tight (tight_of_isToken hval)

/-! ## Every kind -/

section Kinds

variable [PatternCompiler] {kind : Kind} {line : Text} {p : Payload}

/-- **What is read is well formed**, whatever the kind. -/
theorem Kind.wellFormed_of_read (h : kind.read line = .accepted p) : p.WellFormed := by
  cases kind with
  | unknown => cases h
  | word =>
      obtain ⟨w, hw, rfl⟩ := Verdict.map_eq_accepted.1 h
      exact (Word.read_eq_accepted.1 hw).2
  | property =>
      obtain ⟨q, hq, rfl⟩ := Verdict.map_eq_accepted.1 h
      obtain ⟨before, rest, -, -, -, hname, hphrase, -, hval⟩ := Property.read_eq_accepted.1 hq
      exact ⟨hphrase, hname ▸ tight_trim before, hval⟩
  | propertyAnyValue =>
      obtain ⟨q, hq, rfl⟩ := Verdict.map_eq_accepted.1 h
      exact Property.wellFormed_of_readAnyValue hq
  | propertyList =>
      obtain ⟨q, hq, rfl⟩ := Verdict.map_eq_accepted.1 h
      exact PropertyList.wellFormed_of_read hq
  | blockTag =>
      obtain ⟨b, -, rfl⟩ := Verdict.map_eq_accepted.1 h
      trivial
  | limitation =>
      obtain ⟨l, hl, rfl⟩ := Verdict.map_eq_accepted.1 h
      exact Limitation.wellFormed_of_read hl
  | addressRange =>
      obtain ⟨r, hr, rfl⟩ := Verdict.map_eq_accepted.1 h
      exact AddressRange.wellFormed_of_read hr
  | patternLiteral =>
      obtain ⟨q, hq, rfl⟩ := Verdict.map_eq_accepted.1 h
      exact PatternLiteral.wellFormed_of_read hq
  | methodCall =>
      obtain ⟨m, hm, rfl⟩ := Verdict.map_eq_accepted.1 h
      exact MethodCall.wellFormed_of_read hm

/-- **A well formed payload is read from its plain form.** -/
theorem Payload.read_plainForm (h : p.WellFormed) : p.kind.read p.plainForm = .accepted p := by
  cases p with
  | word w =>
      have htrim : w.name.trim = w.name := trim_of_tight (tight_of_isToken (isToken_of_isName h))
      exact Verdict.map_eq_accepted.2 ⟨w, Word.read_eq_accepted.2 ⟨htrim, h⟩, rfl⟩
  | property q =>
      obtain ⟨hname, htight, hval⟩ := h
      exact Verdict.map_eq_accepted.2 ⟨q, Property.read_labelled hname htight hval, rfl⟩
  | propertyAnyValue q =>
      obtain ⟨hname, htight, hline⟩ := h
      exact Verdict.map_eq_accepted.2 ⟨q, Property.readAnyValue_labelled hname htight hline, rfl⟩
  | propertyList q =>
      obtain ⟨hname, hne, hvals⟩ := h
      exact Verdict.map_eq_accepted.2 ⟨q, PropertyList.read_labelled hname hne hvals, rfl⟩
  | blockTag b => exact Verdict.map_eq_accepted.2 ⟨b, BlockTagLine.read_enclosed b, rfl⟩
  | limitation l =>
      obtain ⟨hname, hval⟩ := h
      exact Verdict.map_eq_accepted.2 ⟨l, Limitation.read_labelled hname hval, rfl⟩
  | addressRange r =>
      exact Verdict.map_eq_accepted.2 ⟨r, AddressRange.read_plainForm h, rfl⟩
  | patternLiteral q =>
      obtain ⟨hline, hreport⟩ := h
      exact Verdict.map_eq_accepted.2 ⟨q, PatternLiteral.read_enclosed hline hreport, rfl⟩
  | methodCall m =>
      exact Verdict.map_eq_accepted.2 ⟨m, MethodCall.read_plainForm h, rfl⟩

/-- **The payloads of a kind** are the well formed ones. -/
theorem Kind.exists_read_iff :
    (∃ line, kind.read line = .accepted p) ↔ p.kind = kind ∧ p.WellFormed := by
  constructor
  · intro h
    obtain ⟨line, hline⟩ := h
    exact ⟨Kind.kind_of_read hline, Kind.wellFormed_of_read hline⟩
  · intro h
    obtain ⟨rfl, hp⟩ := h
    exact ⟨p.plainForm, Payload.read_plainForm hp⟩

/-- **A line can be replaced by the plain form of what it is read as.** -/
theorem Kind.read_plainForm_of_read (h : kind.read line = .accepted p) :
    kind.read p.plainForm = .accepted p := by
  obtain ⟨rfl, hp⟩ := Kind.exists_read_iff.1 ⟨line, h⟩
  exact Payload.read_plainForm hp

end Kinds

/-- Bounds in two radixes, a colon before the tags and a blank before a comma. -/
theorem Kind.read_plainForm_of_read_range :
    Kind.read .addressRange "\tadd-range: 0X1_0 ..0b10_0000 : a ,b notfor c,d ".toList =
        .accepted (.addressRange ⟨16, 32, [['a'], ['b']], [['c'], ['d']], true⟩) ∧
      Kind.read .addressRange "range 16..32 with a, b notfor c, d".toList =
        .accepted (.addressRange ⟨16, 32, [['a'], ['b']], [['c'], ['d']], true⟩) := by
  have hread : Kind.read .addressRange "\tadd-range: 0X1_0 ..0b10_0000 : a ,b notfor c,d ".toList =
      .accepted (.addressRange ⟨16, 32, [['a'], ['b']], [['c'], ['d']], true⟩) := by
    decide
  have hform : Payload.plainForm
      (.addressRange ⟨16, 32, [['a'], ['b']], [['c'], ['d']], true⟩) =
        "range 16..32 with a, b notfor c, d".toList := by
    decide
  exact ⟨hread, hform ▸ Kind.read_plainForm_of_read hread⟩

end MacroBody

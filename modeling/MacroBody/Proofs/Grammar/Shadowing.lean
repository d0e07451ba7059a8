import MacroBody.Proofs.Grammar.Limitation
import MacroBody.Proofs.Grammar.Overlap
import MacroBody.Proofs.Grammar.RangeWord

/-!
# Which readings the default order hides

A line that one kind reads is not always dispatched to that kind: a kind that is tried earlier may
claim it.  This file says exactly when, in terms of the line and of what was read from it, and what
is left behind instead.

Three kinds can take a line from another one, and each is compared once with all the kinds it can
take from.

1.  An address range takes a line whose name is, or starts with, the range keyword, and rejects it
    (`Kind.announced_iff_takenByRange`, `Kind.addressRange_rejects`).
2.  A limitation takes a line that starts with a keyword and a blank.  It reads some properties and
    rejects everything else (`Kind.limitation_read_accepted_iff`, `Kind.announced_iff_limitation`).
3.  A property list takes every property with a one-token name (`PropertyList.read_of_property`).

`Kind.default_order_shadowing` puts them together.
-/

namespace MacroBody

open Text AddressRange

/-! ## The exceptions -/

/-- After leading blanks there is the name, and right after it a blank. -/
def Text.BlankAfter (name line : Text) : Prop :=
  ∃ (u : Text) (c : Char) (rest : Text), AllBlank u ∧ line = u ++ name ++ c :: rest ∧
    isBlank c = true

namespace Payload

/-- The line of this payload is taken by an address range, which rejects it. -/
def TakenByRange (line : Text) : Payload → Prop
  | limitation l =>
    l.keyword = .add ∧ (∃ n, l.name = List.replicate n '_' ++ "range".toList) ∧
      ∃ (u v : Text) (c : Char) (rest : Text), AllBlank u ∧ AllBlank v ∧
        line = u ++ "add".toList ++ v ++ l.name ++ c :: rest ∧ (isBlank c = true ∨ c = ':')
  | methodCall m => RangeName m.methodName ∧ BlankAfter m.methodName line
  | propertyList p => RangeName p.name
  | property p => ∃ w x : Text, RangeWord w ∧ p.name = w ++ x ∧ x.atBlank = true
  | word w => RangeName w.name
  | _ => False

/-- The payload is also a limitation: its name is a keyword and a token. -/
def ReadAsLimitation (l : Limitation) : Payload → Prop
  | property p =>
    p.val = l.val ∧ l.name.isToken = true ∧
      ∃ v, AllBlank v ∧ v ≠ [] ∧ p.name = l.keyword.name ++ v ++ l.name
  | _ => False

/-- The line of this payload is taken by a limitation, which rejects it. -/
def RejectedAsLimitation (line : Text) : Payload → Prop
  | methodCall m =>
    ∃ (k : Keyword) (u : Text) (c : Char) (rest : Text), m.methodName = k.name ∧ AllBlank u ∧
      line = u ++ m.methodName ++ c :: rest ∧ isBlank c = true ∧ (':' ∈ rest ∨ '=' ∈ rest)
  | propertyList p => ∃ k : Keyword, p.name = k.name ∧ BlankAfter p.name line
  | property p =>
    (∃ k : Keyword, BlankAfter k.name line) ∧ ∀ l, ¬ (property p).ReadAsLimitation l
  | _ => False

/-- The payload is also a property list: its name is one token. -/
def ReadAsList (q : PropertyList) : Payload → Prop
  | property p => p.name.isToken = true ∧ q = ⟨p.name, [p.val]⟩
  | _ => False

end Payload

/-! ## Address ranges -/

/-- A call is claimed by its name and the blank after it. -/
theorem MethodCall.announced_iff_takenByRange {line : Text} {m : MethodCall}
    (hread : MethodCall.read line = .accepted m) :
    Announced line ↔ (Payload.methodCall m).TakenByRange line := by
  obtain ⟨u, gap, rest, hu, hgap, hname, hline⟩ := MethodCall.line_of_read hread
  constructor
  · intro h
    rw [hline, announced_iff_of_token hu hname hgap (stops_cons.2 (by decide))] at h
    obtain ⟨hrange, hends⟩ := h
    refine ⟨hrange, ?_⟩
    cases gap with
    | nil => simp [Ends, show isBlank '(' = false by decide] at hends
    | cons c gap => exact ⟨u, c, _, hu, hline, hgap c List.mem_cons_self⟩
  · intro h
    obtain ⟨hrange, u', c, rest', hu', hline', hc⟩ := h
    exact ⟨u', m.methodName, c :: rest', hu', hrange.rangeWord, hline',
      Or.inr ⟨c, rest', rfl, Or.inl hc⟩⟩

/-- A limitation is claimed by its keyword, its name and the character after it. -/
theorem Limitation.announced_iff_takenByRange {line : Text} {l : Limitation} (hone : '\n' ∉ line)
    (hread : Limitation.read line = .accepted l) :
    AddressRange.Announced line ↔ (Payload.limitation l).TakenByRange line := by
  obtain ⟨u, v, gap, c, after, hu, hv, -, hgap, hline, hc, -, hname, -⟩ :=
    (Limitation.read_accepted_iff hone).1 hread
  constructor
  · intro h
    rw [hline, List.append_assoc _ gap, announced_iff_of_keyword hu hv hname hgap
      (stops_cons.2 (by simp [isMark_of_isSeparator hc]))] at h
    obtain ⟨hkeyword, hrange, hends⟩ := h
    refine ⟨hkeyword, hrange, ?_⟩
    rcases hends with hnil | ⟨d, rest, hrest, hd⟩
    · simp at hnil
    · refine ⟨u, v, d, rest, hu, hv, ?_, hd⟩
      rw [hline, List.append_assoc _ gap, hrest, hkeyword]
      simp [Keyword.name]
  · intro h
    obtain ⟨hkeyword, ⟨n, hrange⟩, u', v', d, rest, hu', hv', hline', hd⟩ := h
    refine ⟨u', "add".toList ++ (v' ++ List.replicate n '_') ++ "range".toList, d :: rest, hu',
      Or.inr ⟨_, ?_, rfl⟩, ?_, Or.inr ⟨d, rest, rfl, hd⟩⟩
    · intro x hx
      rcases List.mem_append.1 hx with hx | hx
      · exact Or.inl (hv' x hx)
      · exact Or.inr (Or.inl (List.eq_of_mem_replicate hx))
    · rw [hline', hrange]
      simp

/-- A property list is claimed by its name. -/
theorem PropertyList.announced_iff_takenByRange {line : Text} {p : PropertyList}
    (hread : PropertyList.read line = .accepted p) :
    Announced line ↔ (Payload.propertyList p).TakenByRange line := by
  obtain ⟨before, rest, hline, -, -, htrim, htoken, -⟩ := PropertyList.read_eq_accepted.1 hread
  obtain ⟨u, gap, hu, hgap, hbefore⟩ := exists_trim before
  rw [hline, hbefore, htrim, List.append_assoc _ gap,
    announced_iff_of_token hu htoken hgap (stops_cons.2 (by decide))]
  exact and_iff_left (ends_colon hgap)

/-- A property is claimed by the start of its name. -/
theorem Property.announced_iff_takenByRange {line : Text} {p : Property}
    (hread : Property.read line = .accepted p) :
    Announced line ↔ (Payload.property p).TakenByRange line := by
  obtain ⟨before, rest, hline, -, -, htrim, hphrase, -, -⟩ := Property.read_eq_accepted.1 hread
  obtain ⟨u, gap, hu, hgap, hbefore⟩ := exists_trim before
  have hplain := Property.plain_of_isPhrase hphrase
  have hstops : Stops isBlank (p.name ++ (gap ++ ':' :: rest)) := by
    obtain ⟨c, more, hname, hc, -⟩ := Property.isPhrase_iff.1 hphrase
    rw [hname]
    exact stops_cons.2 (isBlank_of_isWord hc)
  rw [hline, hbefore, htrim, List.append_assoc _ gap,
    announced_iff hu hstops hgap (stops_cons.2 (by decide))]
  -- What is left of the name is empty, or starts with a character that is no colon.
  have hends : ∀ w x : Text, p.name = w ++ x →
      (Ends (x ++ (gap ++ ':' :: rest)) ↔ x.atBlank = true) := by
    intro w x hname
    cases x with
    | nil => exact iff_of_true (ends_colon hgap) rfl
    | cons c x =>
        have hcolon : c ≠ ':' := by
          intro heq
          subst heq
          cases hplain ':' (by rw [hname]; simp)
        simp [Ends, Text.atBlank, hcolon]
  constructor
  · intro h
    obtain ⟨w, x, hw, hname, h⟩ := h
    exact ⟨w, x, hw, hname, (hends w x hname).1 h⟩
  · intro h
    obtain ⟨w, x, hw, hname, h⟩ := h
    exact ⟨w, x, hw, hname, (hends w x hname).2 h⟩

/-- A word is claimed if it is the keyword. -/
theorem Word.announced_iff_takenByRange {line : Text} {w : Word}
    (hread : Word.read line = .accepted w) :
    Announced line ↔ (Payload.word w).TakenByRange line := by
  obtain ⟨htrim, hname⟩ := Word.read_eq_accepted.1 hread
  obtain ⟨u, gap, hu, hgap, hline⟩ := exists_trim line
  have hends : Ends (gap ++ []) := by
    rw [List.append_nil]
    cases gap with
    | nil => exact Or.inl rfl
    | cons c gap => exact Or.inr ⟨c, gap, rfl, Or.inl (hgap c List.mem_cons_self)⟩
  rw [hline, htrim, ← List.append_nil gap,
    announced_iff_of_token hu (isToken_of_isName hname) hgap stops_nil]
  exact and_iff_left hends

/-- **The range keyword claims exactly the listed readings.** -/
theorem Kind.announced_iff_takenByRange [PatternCompiler] {k : Kind}
    (hk : (.addressRange, k) ∈ Kind.overlaps) {line : Text} (hline : '\n' ∉ line) {p : Payload}
    (hread : k.read line = .accepted p) :
    AddressRange.Announced line ↔ p.TakenByRange line := by
  cases k with
  | limitation =>
      obtain ⟨l, hl, rfl⟩ := Verdict.map_eq_accepted.1 hread
      exact Limitation.announced_iff_takenByRange hline hl
  | methodCall =>
      obtain ⟨m, hm, rfl⟩ := Verdict.map_eq_accepted.1 hread
      exact MethodCall.announced_iff_takenByRange hm
  | propertyList =>
      obtain ⟨q, hq, rfl⟩ := Verdict.map_eq_accepted.1 hread
      exact PropertyList.announced_iff_takenByRange hq
  | property =>
      obtain ⟨q, hq, rfl⟩ := Verdict.map_eq_accepted.1 hread
      exact Property.announced_iff_takenByRange hq
  | word =>
      obtain ⟨w, hw, rfl⟩ := Verdict.map_eq_accepted.1 hread
      exact Word.announced_iff_takenByRange hw
  | _ => exact absurd hk (by decide)

/-- A limitation, a property list, a property and a word hold no dot. -/
theorem Kind.dotless_of_accepted [PatternCompiler] {k : Kind}
    (hk : (.addressRange, k) ∈ Kind.overlaps) (hcall : k ≠ .methodCall) {line : Text}
    (hline : '\n' ∉ line) {p : Payload} (hread : k.read line = .accepted p) : '.' ∉ line := by
  have hplain : ∀ {t : Text}, Plain t → '.' ∉ t := by
    intro t ht hmem
    cases ht '.' hmem
  have htoken : ∀ {t : Text}, t.trim.isToken = true → '.' ∉ t := by
    intro t ht
    exact hplain (plain_of_trim (plain_of_isWord (isToken_iff.1 ht).2))
  cases k with
  | limitation =>
      obtain ⟨l, hl, rfl⟩ := Verdict.map_eq_accepted.1 hread
      obtain ⟨u, v, gap, c, after, hu, hv, -, hgap, rfl, hc, hval, hname, hvalToken⟩ :=
        (Limitation.read_accepted_iff hline).1 hl
      intro hmem
      rcases List.mem_append.1 hmem with hmem | hmem
      · exact hplain (Limitation.plain_front hu hv hname hgap) hmem
      · rcases List.mem_cons.1 hmem with rfl | hmem
        · cases hc
        · exact htoken (by rw [hval]; exact hvalToken) hmem
  | propertyList =>
      obtain ⟨q, hq, rfl⟩ := Verdict.map_eq_accepted.1 hread
      obtain ⟨before, rest, rfl, -, -, htrim, hname, hvals⟩ := PropertyList.read_eq_accepted.1 hq
      intro hmem
      rcases List.mem_append.1 hmem with hmem | hmem
      · exact htoken (by rw [htrim]; exact hname) hmem
      · rcases List.mem_cons.1 hmem with heq | hmem
        · cases heq
        · cases isMark_of_tokens? hvals hmem (by decide)
  | property =>
      obtain ⟨q, hq, rfl⟩ := Verdict.map_eq_accepted.1 hread
      obtain ⟨before, rest, rfl, -, -, htrim, hname, hval, hvalToken⟩ :=
        Property.read_eq_accepted.1 hq
      intro hmem
      rcases List.mem_append.1 hmem with hmem | hmem
      · exact hplain (plain_of_trim (htrim ▸ Property.plain_of_isPhrase hname)) hmem
      · rcases List.mem_cons.1 hmem with heq | hmem
        · cases heq
        · exact htoken (by rw [hval]; exact hvalToken) hmem
  | word =>
      obtain ⟨w, hw, rfl⟩ := Verdict.map_eq_accepted.1 hread
      obtain ⟨htrim, hname⟩ := Word.read_eq_accepted.1 hw
      exact htoken (by rw [htrim]; exact isToken_of_isName hname)
  | methodCall => exact absurd rfl hcall
  | _ => exact absurd hk (by decide)

/-- An address range rejects what it takes, for want of bounds. -/
theorem Kind.addressRange_rejects [PatternCompiler] {k : Kind}
    (hk : (.addressRange, k) ∈ Kind.overlaps) {line : Text} (hline : '\n' ∉ line) {p : Payload}
    (hread : k.read line = .accepted p) (htaken : p.TakenByRange line) :
    ∃ text, Kind.read .addressRange line = .rejected (.malformedRange text) := by
  have hannounced := (Kind.announced_iff_takenByRange hk hline hread).2 htaken
  have hrejected : ∃ text, AddressRange.read line = .rejected (.malformedRange text) := by
    by_cases hcall : k = .methodCall
    · subst hcall
      obtain ⟨front, rest, rfl, hfront⟩ :=
        Kind.first_mark_of_methodCall (Kind.marked_of_accepted hread)
      exact AddressRange.read_of_announced_of_paren hline hfront hannounced
    · have hdot := Kind.dotless_of_accepted hk hcall hline hread
      exact AddressRange.read_of_announced_of_dotless hline hdot hannounced
  obtain ⟨text, htext⟩ := hrejected
  refine ⟨text, ?_⟩
  rw [Kind.read, htext]
  rfl

/-- An address range leaves the other readings alone. -/
theorem Kind.addressRange_passes [PatternCompiler] {k : Kind}
    (hk : (.addressRange, k) ∈ Kind.overlaps) {line : Text} (hline : '\n' ∉ line) {p : Payload}
    (hread : k.read line = .accepted p) (htaken : ¬ p.TakenByRange line) :
    (Kind.read .addressRange line).isDecisive = false := by
  have hbounds : AddressRange.bounds? line = none := by
    by_cases hcall : k = .methodCall
    · subst hcall
      obtain ⟨front, rest, rfl, hfront⟩ :=
        Kind.first_mark_of_methodCall (Kind.marked_of_accepted hread)
      exact AddressRange.bounds?_of_paren hfront
    · exact AddressRange.bounds?_of_dotless (Kind.dotless_of_accepted hk hcall hline hread)
  rw [Kind.read, Verdict.isDecisive_map]
  refine AddressRange.isDecisive_eq_false hbounds ?_
  intro hannounced
  exact htaken ((Kind.announced_iff_takenByRange hk hline hread).1 hannounced)

/-! ## Limitations -/

/-- A blank after a keyword announces a limitation, if the line has a colon. -/
theorem Limitation.announced_of_blankAfter {line : Text} {k : Keyword} (hcolon : ':' ∈ line)
    (h : BlankAfter k.name line) : Limitation.Announced line := by
  obtain ⟨u, c, rest, hu, rfl, hc⟩ := h
  refine ⟨u, k, c, rest, hu, rfl, hc, Or.inl ?_⟩
  rcases List.mem_append.1 hcolon with hmem | hmem
  · cases (plain_append.2 ⟨hu.plain, plain_of_isWord k.isWord_name⟩) ':' hmem
  · rcases List.mem_cons.1 hmem with rfl | hmem
    · cases hc
    · exact hmem

/-- A limitation is announced by a keyword with a blank behind it. -/
theorem Limitation.blankAfter_of_announced {line : Text} (h : Limitation.Announced line) :
    ∃ k : Keyword, BlankAfter k.name line := by
  obtain ⟨u, k, c, rest, hu, hline, hc, -⟩ := h
  exact ⟨k, u, c, rest, hu, hline, hc⟩

/-- **Of the other readings a limitation shares only some properties.** -/
theorem Kind.limitation_read_accepted_iff [PatternCompiler] {k : Kind}
    (hk : (.limitation, k) ∈ Kind.overlaps) {line : Text} (hline : '\n' ∉ line) {p : Payload}
    (hread : k.read line = .accepted p) (l : Limitation) :
    Limitation.read line = .accepted l ↔ p.ReadAsLimitation l := by
  cases k with
  | methodCall =>
      obtain ⟨front, rest, rfl, hfront⟩ :=
        Kind.first_mark_of_methodCall (Kind.marked_of_accepted hread)
      obtain ⟨m, -, rfl⟩ := Verdict.map_eq_accepted.1 hread
      exact iff_of_false (Limitation.read_ne_accepted_of_paren hline hfront l) id
  | propertyList =>
      obtain ⟨q, hq, rfl⟩ := Verdict.map_eq_accepted.1 hread
      obtain ⟨before, rest, rfl, -, -, htrim, hname, -⟩ := PropertyList.read_eq_accepted.1 hq
      have hword := (isToken_iff.1 hname).2
      rw [Limitation.read_accepted_iff_head hline
        (plain_of_trim (htrim ▸ plain_of_isWord hword)), htrim]
      refine iff_of_false ?_ id
      intro h
      obtain ⟨-, -, -, v, hv, hne, heq⟩ := h
      obtain ⟨c, v, rfl⟩ := List.exists_cons_of_ne_nil hne
      have hblank := isBlank_of_isWord (hword c (by rw [heq]; simp))
      rw [hv c List.mem_cons_self] at hblank
      cases hblank
  | property =>
      obtain ⟨q, hq, rfl⟩ := Verdict.map_eq_accepted.1 hread
      obtain ⟨before, rest, rfl, -, -, htrim, hphrase, hval, hvalToken⟩ :=
        Property.read_eq_accepted.1 hq
      rw [Limitation.read_accepted_iff_head hline
        (plain_of_trim (htrim ▸ Property.plain_of_isPhrase hphrase)), htrim, hval]
      constructor
      · intro h
        obtain ⟨heq, -, hname, hparts⟩ := h
        exact ⟨heq, hname, hparts⟩
      · intro h
        obtain ⟨heq, hname, hparts⟩ := h
        exact ⟨heq, heq ▸ hvalToken, hname, hparts⟩
  | _ => exact absurd hk (by decide)

/-- A limitation claims the readings that it shares and the listed ones. -/
theorem Kind.announced_iff_limitation [PatternCompiler] {k : Kind}
    (hk : (.limitation, k) ∈ Kind.overlaps) {line : Text} (hline : '\n' ∉ line) {p : Payload}
    (hread : k.read line = .accepted p) :
    Limitation.Announced line ↔ p.RejectedAsLimitation line ∨ ∃ l, p.ReadAsLimitation l := by
  have hshared : (∃ l, p.ReadAsLimitation l) → Limitation.Announced line := by
    intro h
    obtain ⟨l, hl⟩ := h
    apply Limitation.announced_of_isDecisive
    rw [(Kind.limitation_read_accepted_iff hk hline hread l).2 hl]
    rfl
  cases k with
  | methodCall =>
      obtain ⟨m, hm, rfl⟩ := Verdict.map_eq_accepted.1 hread
      obtain ⟨u, gap, rest, hu, hgap, hname, hcall⟩ := MethodCall.line_of_read hm
      constructor
      · intro h
        rw [hcall, Limitation.announced_iff_of_token hu hname
          (stops_isWord_of_allBlank hgap (stops_cons.2 (by decide)))] at h
        obtain ⟨k, c, more, hk, htail, hc, hsep⟩ := h
        exact Or.inl ⟨k, u, c, more, hk, hu, by rw [← htail]; exact hcall, hc, hsep⟩
      · intro h
        rcases h with ⟨k, u, c, rest, hk, hu, hparts, hc, hsep⟩ | h
        · exact ⟨u, k, c, rest, hu, hk ▸ hparts, hc, hsep⟩
        · exact hshared h
  | propertyList =>
      obtain ⟨q, hq, rfl⟩ := Verdict.map_eq_accepted.1 hread
      obtain ⟨before, rest, hparts, -, -, htrim, hname, -⟩ := PropertyList.read_eq_accepted.1 hq
      obtain ⟨u, gap, hu, hgap, hbefore⟩ := exists_trim before
      constructor
      · intro h
        have hlist : line = u ++ q.name ++ (gap ++ ':' :: rest) := by
          rw [hparts, hbefore, htrim]
          simp
        rw [hlist, Limitation.announced_iff_of_token hu hname
          (stops_isWord_of_allBlank hgap (stops_cons.2 (by decide)))] at h
        obtain ⟨k, c, more, hk, htail, hc, -⟩ := h
        exact Or.inl ⟨k, hk, u, c, more, hu, by rw [← htail]; exact hlist, hc⟩
      · intro h
        rcases h with ⟨k, hk, hblank⟩ | h
        · exact Limitation.announced_of_blankAfter (by rw [hparts]; simp) (hk ▸ hblank)
        · exact hshared h
  | property =>
      obtain ⟨q, hq, rfl⟩ := Verdict.map_eq_accepted.1 hread
      obtain ⟨before, rest, hparts, -, -, -, -, -, -⟩ := Property.read_eq_accepted.1 hq
      constructor
      · intro h
        by_cases hl : ∃ l, (Payload.property q).ReadAsLimitation l
        · exact Or.inr hl
        · exact Or.inl ⟨Limitation.blankAfter_of_announced h, not_exists.1 hl⟩
      · intro h
        rcases h with ⟨⟨k, hblank⟩, -⟩ | h
        · exact Limitation.announced_of_blankAfter (by rw [hparts]; simp) hblank
        · exact hshared h
  | _ => exact absurd hk (by decide)

/-- A reading that is rejected as a limitation is not one that limitations share. -/
theorem Payload.not_readAsLimitation {line : Text} {p : Payload}
    (h : p.RejectedAsLimitation line) (l : Limitation) : ¬ p.ReadAsLimitation l := by
  cases p with
  | property q => exact h.2 l
  | _ => exact id

/-- A limitation reads what it shares. -/
theorem Kind.limitation_reads [PatternCompiler] {k : Kind} (hk : (.limitation, k) ∈ Kind.overlaps)
    {line : Text} (hline : '\n' ∉ line) {p : Payload} (hread : k.read line = .accepted p)
    {l : Limitation} (h : p.ReadAsLimitation l) :
    Kind.read .limitation line = .accepted (.limitation l) := by
  rw [Kind.read, (Kind.limitation_read_accepted_iff hk hline hread l).2 h]
  rfl

/-- A limitation rejects what it takes and does not share. -/
theorem Kind.limitation_rejects [PatternCompiler] {k : Kind} (hk : (.limitation, k) ∈ Kind.overlaps)
    {line : Text} (hline : '\n' ∉ line) {p : Payload} (hread : k.read line = .accepted p)
    (h : p.RejectedAsLimitation line) :
    Kind.read .limitation line = .rejected (.badLimitation line.trim) := by
  have hannounced := (Kind.announced_iff_limitation hk hline hread).2 (Or.inl h)
  have hshared : ∀ l, Limitation.read line ≠ .accepted l := by
    intro l hl
    exact p.not_readAsLimitation h l ((Kind.limitation_read_accepted_iff hk hline hread l).1 hl)
  rw [Kind.read, Limitation.read_eq_rejected hline hannounced hshared]
  rfl

/-- A limitation leaves the other readings alone. -/
theorem Kind.limitation_passes [PatternCompiler] {k : Kind} (hk : (.limitation, k) ∈ Kind.overlaps)
    {line : Text} (hline : '\n' ∉ line) {p : Payload} (hread : k.read line = .accepted p)
    (hrejected : ¬ p.RejectedAsLimitation line) (hshared : ∀ l, ¬ p.ReadAsLimitation l) :
    (Kind.read .limitation line).isDecisive = false := by
  rw [Kind.read, Verdict.isDecisive_map]
  by_contra hdecisive
  have hannounced := Limitation.announced_of_isDecisive (by simpa using hdecisive)
  rcases (Kind.announced_iff_limitation hk hline hread).1 hannounced with h | ⟨l, h⟩
  · exact hrejected h
  · exact hshared l h

/-! ## Property lists -/

/-- A property is a property list if and only if its name is one token. -/
theorem PropertyList.read_of_property {line : Text} {p : Property}
    (hread : Property.read line = .accepted p) :
    (p.name.isToken = true → PropertyList.read line = .accepted ⟨p.name, [p.val]⟩) ∧
      (p.name.isToken = false → (PropertyList.read line).isDecisive = false) := by
  obtain ⟨before, rest, hline, hcolon, hone, htrim, hphrase, hval, hvalToken⟩ :=
    Property.read_eq_accepted.1 hread
  constructor
  · intro hname
    refine PropertyList.read_eq_accepted.2
      ⟨before, rest, hline, hcolon, hone, htrim, hname, ?_⟩
    rw [← hval]
    exact tokens?_of_isToken (by rw [hval]; exact hvalToken)
  · intro hname
    have hhead : Property.head? Text.isToken line = none := by
      rw [Option.eq_none_iff_forall_ne_some]
      intro head heq
      obtain ⟨name, rest'⟩ := head
      obtain ⟨before', hline', hcolon', rfl, htoken, -⟩ := Property.head?_eq_some.1 heq
      have hplain : Plain before := plain_of_trim (htrim ▸ Property.plain_of_isPhrase hphrase)
      have hplain' : Plain before' := plain_of_trim (plain_of_isWord (isToken_iff.1 htoken).2)
      obtain ⟨hsame, -, -⟩ :=
        first_mark_unique hplain hplain' rfl rfl (hline.symm.trans hline')
      rw [← hsame, htrim, hname] at htoken
      cases htoken
    simp [PropertyList.read_eq, hhead]

/-- A property list reads the properties that it shares. -/
theorem Kind.propertyList_reads [PatternCompiler] {k : Kind}
    (hk : (.propertyList, k) ∈ Kind.overlaps) {line : Text} {p : Payload}
    (hread : k.read line = .accepted p) {q : PropertyList} (h : p.ReadAsList q) :
    Kind.read .propertyList line = .accepted (.propertyList q) := by
  cases k with
  | property =>
      obtain ⟨p', hp', rfl⟩ := Verdict.map_eq_accepted.1 hread
      obtain ⟨hname, rfl⟩ := h
      rw [Kind.read, (PropertyList.read_of_property hp').1 hname]
      rfl
  | _ => exact absurd hk (by decide)

/-- A property list leaves the other properties alone. -/
theorem Kind.propertyList_passes [PatternCompiler] {k : Kind}
    (hk : (.propertyList, k) ∈ Kind.overlaps) {line : Text} {p : Payload}
    (hread : k.read line = .accepted p) (h : ∀ q, ¬ p.ReadAsList q) :
    (Kind.read .propertyList line).isDecisive = false := by
  cases k with
  | property =>
      obtain ⟨q, hq, rfl⟩ := Verdict.map_eq_accepted.1 hread
      rw [Kind.read, Verdict.isDecisive_map]
      refine (PropertyList.read_of_property hq).2 ?_
      by_contra hname
      exact h _ ⟨by simpa using hname, rfl⟩
  | _ => exact absurd hk (by decide)

/-! ## Dispatch -/

theorem Payload.mem_overlaps_of_takenByRange {line : Text} {p : Payload}
    (h : p.TakenByRange line) : (.addressRange, p.kind) ∈ Kind.overlaps := by
  cases p with
  | propertyAnyValue _ | blockTag _ | addressRange _ | patternLiteral _ => cases h
  | _ => simp [Payload.kind, Kind.overlaps]

theorem Payload.mem_overlaps_of_limitation (line : Text) {p : Payload}
    (h : p.RejectedAsLimitation line ∨ ∃ l, p.ReadAsLimitation l) :
    (.limitation, p.kind) ∈ Kind.overlaps := by
  cases p with
  | methodCall _ | propertyList _ | property _ => simp [Payload.kind, Kind.overlaps]
  | _ => rcases h with h | ⟨l, h⟩ <;> cases h

theorem Payload.mem_overlaps_of_readAsList {p : Payload} {q : PropertyList} (h : p.ReadAsList q) :
    (.propertyList, p.kind) ∈ Kind.overlaps := by
  cases p with
  | property _ => simp [Payload.kind, Kind.overlaps]
  | _ => cases h

/-- The kinds that can take a line before it is tried as another kind. -/
theorem Kind.taker_of_overlaps {a k : Kind} (h : (a, k) ∈ Kind.overlaps) :
    a = .addressRange ∨ a = .limitation ∨ a = .propertyList := by
  have hall : ∀ pair ∈ Kind.overlaps,
      pair.1 = .addressRange ∨ pair.1 = .limitation ∨ pair.1 = .propertyList := by
    decide
  exact hall (a, k) h

/-- A kind that takes lines from another takes them from all those that the other takes from. -/
theorem Kind.overlaps_trans {a b k : Kind} (hab : (a, b) ∈ Kind.overlaps)
    (hbk : (b, k) ∈ Kind.overlaps) : (a, k) ∈ Kind.overlaps := by
  have hall : ∀ pair ∈ Kind.overlaps, ∀ pair' ∈ Kind.overlaps, pair.2 = pair'.1 →
      (pair.1, pair'.2) ∈ Kind.overlaps := by
    decide
  exact hall (a, b) hab (b, k) hbk rfl

/-- **What the default order hides.**  A line that a kind of the default order reads is dispatched
to that kind with what it read, unless one of the listed exceptions holds: it is taken and rejected
by an address range; else taken and rejected, or read, by a limitation; else read as a property
list. -/
theorem Kind.default_order_shadowing [PatternCompiler] {line : Text} (hline : '\n' ∉ line)
    {k : Kind} (hk : k ∈ Kind.defaultOrder) {p : Payload} (hread : k.read line = .accepted p)
    (r : Record) :
    (p.TakenByRange line → ∃ text, r.tryParse line Kind.defaultOrder =
      (.error, ⟨.addressRange, .error, some (.malformedRange text), none⟩)) ∧
    (¬ p.TakenByRange line → p.RejectedAsLimitation line → r.tryParse line Kind.defaultOrder =
      (.error, ⟨.limitation, .error, some (.badLimitation line.trim), none⟩)) ∧
    (∀ l, ¬ p.TakenByRange line → p.ReadAsLimitation l → r.tryParse line Kind.defaultOrder =
      (.ok, ⟨.limitation, .ok, none, some (.limitation l)⟩)) ∧
    (∀ q, ¬ p.TakenByRange line → ¬ p.RejectedAsLimitation line → (∀ l, ¬ p.ReadAsLimitation l) →
      p.ReadAsList q → r.tryParse line Kind.defaultOrder =
        (.ok, ⟨.propertyList, .ok, none, some (.propertyList q)⟩)) ∧
    (¬ p.TakenByRange line → ¬ p.RejectedAsLimitation line → (∀ l, ¬ p.ReadAsLimitation l) →
      (∀ q, ¬ p.ReadAsList q) →
      r.tryParse line Kind.defaultOrder = (.ok, ⟨k, .ok, none, some p⟩)) := by
  obtain rfl := Kind.kind_of_read hread
  -- Only address ranges are tried before limitations.
  have hbefore : ¬ p.TakenByRange line → (.limitation, p.kind) ∈ Kind.overlaps →
      ∀ a, (a, Kind.limitation) ∈ Kind.overlaps → (a.read line).isDecisive = false := by
    intro htaken hmem a ha
    obtain rfl : a = .addressRange := by simpa [Kind.overlaps] using ha
    exact Kind.addressRange_passes (Kind.overlaps_trans ha hmem) hline hread htaken
  refine ⟨?_, ?_, ?_, ?_, ?_⟩
  · intro htaken
    have hmem := p.mem_overlaps_of_takenByRange htaken
    obtain ⟨text, htext⟩ := Kind.addressRange_rejects hmem hline hread htaken
    refine ⟨text, Record.tryParse_of_rejected (by decide) htext ?_ r⟩
    intro a ha
    simp [Kind.overlaps] at ha
  · intro htaken hrejected
    have hmem := Payload.mem_overlaps_of_limitation line (Or.inl hrejected)
    exact Record.tryParse_of_rejected (by decide)
      (Kind.limitation_rejects hmem hline hread hrejected) (hbefore htaken hmem) r
  · intro l htaken hl
    have hmem := Payload.mem_overlaps_of_limitation line (Or.inr ⟨l, hl⟩)
    exact Record.tryParse_of_accepted (by decide)
      (Kind.limitation_reads hmem hline hread hl) (hbefore htaken hmem) r
  · intro q htaken hrejected hshared hq
    have hmem := p.mem_overlaps_of_readAsList hq
    refine Record.tryParse_of_accepted (by decide) (Kind.propertyList_reads hmem hread hq) ?_ r
    intro a ha
    have hmem' := Kind.overlaps_trans ha hmem
    obtain rfl | rfl : a = .addressRange ∨ a = .limitation := by simpa [Kind.overlaps] using ha
    · exact Kind.addressRange_passes hmem' hline hread htaken
    · exact Kind.limitation_passes hmem' hline hread hrejected hshared
  · intro htaken hrejected hshared hlist
    refine Record.tryParse_of_accepted hk hread ?_ r
    intro a ha
    rcases Kind.taker_of_overlaps ha with rfl | rfl | rfl
    · exact Kind.addressRange_passes ha hline hread htaken
    · exact Kind.limitation_passes ha hline hread hrejected hshared
    · exact Kind.propertyList_passes ha hread hlist

/-- A limit of this name can be added, but not with a blank before the equals sign. -/
theorem Kind.default_order_shadowing_add_range :
    Kind.read .limitation "add _range = 5".toList =
        .accepted (.limitation ⟨.add, "_range".toList, "5".toList⟩) ∧
      ∃ text, (Record.new .unknown).tryParse "add _range = 5".toList Kind.defaultOrder =
        (.error, ⟨.addressRange, .error, some (.malformedRange text), none⟩) := by
  have hread : Kind.read .limitation "add _range = 5".toList =
      .accepted (.limitation ⟨.add, "_range".toList, "5".toList⟩) := by
    decide
  refine ⟨hread, (Kind.default_order_shadowing (by decide) (by decide) hread _).1 ?_⟩
  exact ⟨rfl, ⟨1, rfl⟩, [], [' '], ' ', "= 5".toList, allBlank_nil, by decide, rfl, Or.inl rfl⟩

end MacroBody

import MacroBody.Proofs.Grammar.Shape
import MacroBody.Proofs.Record.Order

/-!
# The three property grammars side by side

A line may be read as a property, as a property with any text as its value, or as a property list.
The three readers look for a name before the first colon, and a name that two of them take is found
by both (`Property.head?_of_accept`).  On a line whose name is one token they therefore differ in
their view of the same rest of the line (`Property.readings_of_head`).

So the reader that takes any text claims what the property list claims and nothing else
(`Property.readers_agree`).  In a list of kinds it is never reached behind a property list, and it
makes no difference whether it stands there (`Record.tryParse_anyValue_insert`).
-/

namespace MacroBody

open Text

/-! ## One head for three readers -/

namespace Property

variable {accept accept' : Text → Bool} {line name rest : Text}

/-- A name that another reader takes as well is found by it. -/
theorem head?_of_accept (h : head? accept line = some (name, rest)) (hname : accept' name = true) :
    head? accept' line = some (name, rest) := by
  obtain ⟨before, hline, hcolon, htrim, -, hone⟩ := head?_eq_some.1 h
  exact head?_eq_some.2 ⟨before, hline, hcolon, htrim, hname, hone⟩

/-- **What the three readers say of one line.**  Its name is one token, so all of them find it. -/
theorem readings_of_head (h : head? Text.isToken line = some (name, rest)) :
    Property.read line =
        (if rest.trim.isToken then .accepted ⟨name, rest.trim⟩
          else .rejected (.expectedValue rest.trim)) ∧
      readAnyValue line = .accepted ⟨name, rest.trim⟩ ∧
      PropertyList.read line =
        match rest.tokens? with
        | some vals => .accepted ⟨name, vals⟩
        | none => .rejected (.expectedValueList rest.trim) := by
  obtain ⟨-, -, -, -, hname, -⟩ := head?_eq_some.1 h
  have hphrase := head?_of_accept h (isPhrase_of_isToken hname)
  refine ⟨?_, ?_, ?_⟩
  · rw [Property.read_eq, hphrase]
  · rw [readAnyValue_eq, h]
  · cases hvals : rest.tokens? <;> simp [PropertyList.read_eq, h, hvals]

/-- Without such a name two of them do not match. -/
theorem readings_of_no_head (h : head? Text.isToken line = none) :
    readAnyValue line = .noMatch ∧ PropertyList.read line = .noMatch := by
  constructor
  · rw [readAnyValue_eq, h]
  · rw [PropertyList.read_eq, h]

/-- A name that is one token is found by the readers of such names. -/
theorem head?_of_read {p : Property} (h : Property.read line = .accepted p)
    (hname : p.name.isToken = true) :
    ∃ rest, head? Text.isToken line = some (p.name, rest) := by
  obtain ⟨before, rest, hline, hcolon, hone, htrim, -⟩ := read_eq_accepted.1 h
  exact ⟨rest, head?_eq_some.2 ⟨before, hline, hcolon, htrim, hname, hone⟩⟩

/-- A property list that is claimed has a name of one token. -/
theorem exists_head?_of_list (h : PropertyList.read line ≠ .noMatch) :
    ∃ name rest, head? Text.isToken line = some (name, rest) := by
  cases hhead : head? Text.isToken line with
  | none => exact absurd (readings_of_no_head hhead).2 h
  | some head => exact ⟨head.1, head.2, rfl⟩

/-- The values of a property list are those of the rest of its line. -/
theorem exists_rest_of_list {l : PropertyList} (h : PropertyList.read line = .accepted l) :
    ∃ rest, head? Text.isToken line = some (l.name, rest) ∧ rest.tokens? = some l.vals := by
  obtain ⟨before, rest, hline, hcolon, hone, htrim, hname, hvals⟩ :=
    PropertyList.read_eq_accepted.1 h
  exact ⟨rest, head?_eq_some.2 ⟨before, hline, hcolon, htrim, hname, hone⟩, hvals⟩

/-! ## The readers compared -/

/-- Any text is claimed as a value where a list is, and never rejected. -/
theorem readAnyValue_claims (line : Text) :
    ((readAnyValue line).isDecisive = true ↔ (PropertyList.read line).isDecisive = true) ∧
      ∀ cause, readAnyValue line ≠ .rejected cause := by
  cases hhead : head? Text.isToken line with
  | none =>
      obtain ⟨hany, hlist⟩ := readings_of_no_head hhead
      simp [hany, hlist]
  | some head =>
      obtain ⟨-, hany, hlist⟩ := readings_of_head hhead
      rw [hany, hlist]
      refine ⟨?_, by simp⟩
      cases head.2.tokens? <;> simp

/-- What is read as any text and as a list has one name. -/
theorem name_eq_of_list {p : Property} {l : PropertyList} (hany : readAnyValue line = .accepted p)
    (hlist : PropertyList.read line = .accepted l) : p.name = l.name := by
  obtain ⟨rest, hhead, -⟩ := exists_rest_of_list hlist
  rw [(readings_of_head hhead).2.1] at hany
  cases hany
  rfl

/-- **A property with a single word as its name is a list of one value**, which any text can be. -/
theorem read_iff_list_singleton {val : Text} :
    (Property.read line = .accepted ⟨name, val⟩ ∧ name.isToken = true ↔
        PropertyList.read line = .accepted ⟨name, [val]⟩) ∧
      (PropertyList.read line = .accepted ⟨name, [val]⟩ →
        readAnyValue line = .accepted ⟨name, val⟩) := by
  refine ⟨⟨?_, ?_⟩, ?_⟩
  · intro h
    obtain ⟨hread, hname⟩ := h
    obtain ⟨rest, hhead⟩ := head?_of_read hread hname
    obtain ⟨hone, -, hlist⟩ := readings_of_head hhead
    rw [hread] at hone
    split at hone
    · rename_i htoken
      cases hone
      rw [hlist, tokens?_of_isToken htoken]
    · cases hone
  · intro h
    obtain ⟨rest, hhead, hvals⟩ := exists_rest_of_list h
    obtain ⟨rfl, htoken⟩ := tokens?_eq_singleton.1 hvals
    obtain ⟨-, -, -, -, hname, -⟩ := head?_eq_some.1 hhead
    refine ⟨?_, hname⟩
    rw [(readings_of_head hhead).1, if_pos htoken]
  · intro h
    obtain ⟨rest, hhead, hvals⟩ := exists_rest_of_list h
    obtain ⟨rfl, -⟩ := tokens?_eq_singleton.1 hvals
    exact (readings_of_head hhead).2.1

/-- A list of two values is no value. -/
theorem read_of_longer_list {l : PropertyList} (h : PropertyList.read line = .accepted l)
    (hlength : 2 ≤ l.vals.length) : ∃ got, Property.read line = .rejected (.expectedValue got) := by
  obtain ⟨rest, hhead, hvals⟩ := exists_rest_of_list h
  have hne : rest.tokens? ≠ some [rest.trim] := by
    intro hone
    rw [hvals] at hone
    have hvals' : l.vals = [rest.trim] := Option.some.inj hone
    simp [hvals'] at hlength
  refine ⟨rest.trim, ?_⟩
  rw [(readings_of_head hhead).1, isToken_trim_eq_false hne]
  rfl

/-- What is no list is no value, and the same text is quoted. -/
theorem read_of_rejected_list {cause : GrammarError}
    (h : PropertyList.read line = .rejected cause) :
    ∃ got, cause = .expectedValueList got ∧
      Property.read line = .rejected (.expectedValue got) := by
  have hclaimed : PropertyList.read line ≠ .noMatch := by
    simp [h]
  obtain ⟨name, rest, hhead⟩ := exists_head?_of_list hclaimed
  obtain ⟨hone, -, hlist⟩ := readings_of_head hhead
  rw [h] at hlist
  split at hlist
  · cases hlist
  · rename_i hnone
    cases hlist
    refine ⟨rest.trim, rfl, ?_⟩
    rw [hone, isToken_trim_eq_false (by simp [hnone])]
    rfl

end Property

/-! ## A kind behind one that claims the same lines -/

/-- **The reader of any text is idle behind the reader of lists.** -/
theorem Record.tryParse_anyValue_insert [PatternCompiler] (r : Record) (line : Text)
    (before middle after : List Kind) :
    r.tryParse line (before ++ .propertyList :: (middle ++ .propertyAnyValue :: after)) =
      r.tryParse line (before ++ .propertyList :: (middle ++ after)) := by
  let claims : Kind → Bool := fun k => (k.read line).isDecisive
  have hclaims : claims .propertyAnyValue = true → claims .propertyList = true := by
    simp only [claims, Kind.read, Verdict.isDecisive_map]
    exact (Property.readAnyValue_claims line).1.1
  exact tryParse_congr r (find?_insert hclaims before middle after)

/-- **The three readers agree.**  Where one token is the name, the reader of any text and the reader
of lists claim the same lines and find the same name, and the former never rejects.  A property with
such a name is a list of one value, which is also its text.  A longer list is no single value, and
neither is what is no list, which both reject for the same text.  In dispatch the reader of any text
is idle behind the reader of lists. -/
theorem Property.readers_agree [PatternCompiler] (line : Text) :
    ((readAnyValue line).isDecisive = true ↔ (PropertyList.read line).isDecisive = true) ∧
    (∀ cause, readAnyValue line ≠ .rejected cause) ∧
    (∀ p l, readAnyValue line = .accepted p → PropertyList.read line = .accepted l →
      p.name = l.name) ∧
    (∀ name val, Property.read line = .accepted ⟨name, val⟩ ∧ name.isToken = true ↔
      PropertyList.read line = .accepted ⟨name, [val]⟩) ∧
    (∀ name val, PropertyList.read line = .accepted ⟨name, [val]⟩ →
      readAnyValue line = .accepted ⟨name, val⟩) ∧
    (∀ l, PropertyList.read line = .accepted l → 2 ≤ l.vals.length →
      ∃ got, Property.read line = .rejected (.expectedValue got)) ∧
    (∀ cause, PropertyList.read line = .rejected cause →
      ∃ got, cause = .expectedValueList got ∧
        Property.read line = .rejected (.expectedValue got)) ∧
    ∀ (r : Record) (before middle after : List Kind),
      r.tryParse line (before ++ .propertyList :: (middle ++ .propertyAnyValue :: after)) =
        r.tryParse line (before ++ .propertyList :: (middle ++ after)) := by
  obtain ⟨hclaims, hnever⟩ := readAnyValue_claims line
  refine ⟨hclaims, hnever, ?_, ?_, ?_, ?_, ?_, ?_⟩
  · intro p l hany hlist
    exact name_eq_of_list hany hlist
  · intro name val
    exact read_iff_list_singleton.1
  · intro name val
    exact read_iff_list_singleton.2
  · intro l hlist hlength
    exact read_of_longer_list hlist hlength
  · intro cause hrejected
    exact read_of_rejected_list hrejected
  · intro r before middle after
    exact r.tryParse_anyValue_insert line before middle after

/-- Two values are a list and a text, and no property. -/
example :
    PropertyList.read "n : a , b".toList = .accepted ⟨['n'], [['a'], ['b']]⟩ ∧
      Property.readAnyValue "n : a , b".toList = .accepted ⟨['n'], "a , b".toList⟩ ∧
      Property.read "n : a , b".toList = .rejected (.expectedValue "a , b".toList) := by
  decide

end MacroBody

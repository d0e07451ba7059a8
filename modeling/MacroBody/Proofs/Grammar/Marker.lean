import MacroBody.Grammar.Payload
import MacroBody.Proofs.Grammar.Shape

/-!
# What commits a line to a grammar

A grammar claims a line on the strength of a marker, before it knows whether the line is well
formed.  `Kind.Marked` says for each kind what the marker is, in terms of the written line only.

There are two halves.

1.  A claimed line carries the marker, whatever else it holds (`Kind.marked_of_isDecisive`).
2.  On one line the marker is enough (`Kind.isDecisive_of_marked`).  A line feed can stop the
    reader behind the marker, so this half needs the line to be one line.
-/

namespace MacroBody

open Text

/-- The trimmed text before the first colon of the line is a name of the given form. -/
def Property.Headed (name : Text → Prop) (line : Text) : Prop :=
  ∃ before rest : Text, line = before ++ ':' :: rest ∧ ':' ∉ before ∧ name before.trim

/-- The text has at least two characters, of which `o` is the first and `c` the last. -/
def Text.Bracketed (o c : Char) (t : Text) : Prop :=
  2 ≤ t.length ∧ t.head? = some o ∧ t.getLast? = some c

/-- After leading blanks there is a keyword, a blank, and somewhere later a separator. -/
def Limitation.Announced (line : Text) : Prop :=
  ∃ (blanks : Text) (k : Keyword) (c : Char) (more : Text),
    AllBlank blanks ∧ line = blanks ++ k.name ++ c :: more ∧ isBlank c = true ∧
      (':' ∈ more ∨ '=' ∈ more)

/-- After leading blanks there is the range keyword, and it ends there. -/
def AddressRange.Announced (line : Text) : Prop :=
  ∃ blanks w rest : Text, AllBlank blanks ∧ RangeWord w ∧ line = blanks ++ w ++ rest ∧ Ends rest

/-- After leading blanks there are word characters, two dots and a word character, with blanks
around the dots if at all. -/
def AddressRange.Bare (line : Text) : Prop :=
  ∃ (u first v w : Text) (c : Char) (rest : Text),
    AllBlank u ∧ AllBlank v ∧ AllBlank w ∧ first ≠ [] ∧ (∀ x ∈ first, isWord x = true) ∧
      isWord c = true ∧ line = u ++ first ++ v ++ '.' :: '.' :: (w ++ c :: rest)

/-- The line carries the marker of the kind. -/
def Kind.Marked : Kind → Text → Prop
  | .unknown, _ => False
  | .word, line =>
    ∃ c rest, line.trim = c :: rest ∧ c.isAlpha = true ∧ ∀ x ∈ rest, isWord x = true
  | .property, line =>
    Property.Headed
      (fun name => ∃ c rest, name = c :: rest ∧ isWord c = true ∧
        ∀ x ∈ rest, isWord x = true ∨ x = ' ' ∨ x = '\t' ∨ x = '-')
      line
  | .propertyAnyValue, line =>
    Property.Headed (fun name => name ≠ [] ∧ ∀ x ∈ name, isWord x = true) line
  | .propertyList, line =>
    Property.Headed (fun name => name ≠ [] ∧ ∀ x ∈ name, isWord x = true) line
  | .blockTag, line => Bracketed '<' '>' line.trim
  | .limitation, line => Limitation.Announced line
  | .addressRange, line => AddressRange.Announced line ∨ AddressRange.Bare line
  | .patternLiteral, line => Bracketed '"' '"' line.trim
  | .methodCall, line =>
    ∃ (c : Char) (rest gap args : Text),
      line.trim = c :: rest ++ gap ++ '(' :: args ++ [')'] ∧ c.isAlpha = true ∧
        (∀ x ∈ rest, isWord x = true) ∧ AllBlank gap

/-! ## Property heads and brackets -/

/-- A head that is found is in the line. -/
theorem Property.headed_of_head? {accept : Text → Bool} {line name rest : Text}
    (h : Property.head? accept line = some (name, rest)) :
    Property.Headed (fun name => accept name = true) line := by
  obtain ⟨before, hline, hcolon, rfl, haccept, -⟩ := Property.head?_eq_some.1 h
  exact ⟨before, rest, hline, hcolon, haccept⟩

/-- On one line a head is found where there is one. -/
theorem Property.exists_head? {accept : Text → Bool} {line : Text} (hline : '\n' ∉ line)
    (h : Property.Headed (fun name => accept name = true) line) :
    ∃ name rest, Property.head? accept line = some (name, rest) := by
  obtain ⟨before, rest, rfl, hcolon, haccept⟩ := h
  refine ⟨before.trim, rest, Property.head?_eq_some.2 ?_⟩
  refine ⟨before, rfl, hcolon, rfl, haccept, ?_⟩
  intro hmem
  exact hline (List.mem_append_right _ (List.mem_cons_of_mem _ hmem))

/-- A line with a name of one form has a name of any wider form. -/
theorem Property.Headed.mono {name name' : Text → Prop} {line : Text}
    (h : Property.Headed name line) (himp : ∀ t, name t → name' t) :
    Property.Headed name' line := by
  obtain ⟨before, rest, hline, hcolon, hname⟩ := h
  exact ⟨before, rest, hline, hcolon, himp _ hname⟩

/-- Two characters at the ends of a text enclose the rest of it. -/
theorem Text.bracketed_iff {o c : Char} {t : Text} :
    Bracketed o c t ↔ ∃ inner, t = o :: inner ++ [c] := by
  constructor
  · intro h
    obtain ⟨hlength, hhead, hlast⟩ := h
    cases t with
    | nil => cases hhead
    | cons x rest =>
        obtain rfl : x = o := by simpa using hhead
        have hne : rest ≠ [] := by
          intro heq
          subst heq
          simp at hlength
        have hlast' : rest.getLast? = some c := by
          rwa [List.getLast?_cons_of_ne_nil hne] at hlast
        exact ⟨rest.dropLast, by rw [List.cons_append, List.dropLast_append_getLast? c hlast']⟩
  · intro h
    obtain ⟨inner, rfl⟩ := h
    exact ⟨by simp, rfl, List.getLast?_concat⟩

/-- An enclosed text of one line has its enclosing characters at the ends, and conversely. -/
theorem Text.bracketed_of_enclosed {o c : Char} {t inner : Text}
    (h : (t.enclosed? o c).filter Text.isOneLine = some inner) : Bracketed o c t :=
  bracketed_iff.2 ⟨inner, (enclosed_filter_eq_some.1 h).1⟩

/-- On one line the text between two characters is found. -/
theorem Text.exists_enclosed {o c : Char} {line : Text} (hline : '\n' ∉ line)
    (h : Bracketed o c line.trim) :
    ∃ inner, (line.trim.enclosed? o c).filter Text.isOneLine = some inner := by
  obtain ⟨inner, htrim⟩ := bracketed_iff.1 h
  refine ⟨inner, enclosed_filter_eq_some.2 ⟨htrim, ?_⟩⟩
  intro hmem
  obtain ⟨u, v, -, -, hparts⟩ := exists_trim line
  rw [hparts, htrim] at hline
  simp [hmem] at hline

/-! ## Limitations and address ranges -/

/-- A line that is claimed as a limitation has a keyword, a blank and a separator. -/
theorem Limitation.announced_of_isDecisive {line : Text}
    (h : (Limitation.read line).isDecisive = true) : Limitation.Announced line := by
  unfold Limitation.read at h
  split at h
  · cases h
  · rename_i k rest hkeyword
    split at h
    · rename_i hseparator
      obtain ⟨c, more, hstart, hc, rfl⟩ := Limitation.keyword?_eq_some.1 hkeyword
      obtain ⟨blanks, hblanks, hline⟩ := exists_trimStart line
      obtain ⟨gap, -, hmore⟩ := exists_trimStart more
      obtain ⟨x, hx, hsep⟩ := List.any_eq_true.1 hseparator
      have hmem : x ∈ more := by
        rw [hmore]
        exact List.mem_append_right _ ((List.takeWhile_prefix _).mem hx)
      refine ⟨blanks, k, c, more, hblanks, ?_, hc, ?_⟩
      · rw [List.append_assoc, ← hstart]
        exact hline
      · rcases Limitation.isSeparator_iff.1 hsep with rfl | rfl
        · exact Or.inl hmem
        · exact Or.inr hmem
    · cases h

/-- With a keyword and a separator on the same line, only the assignment can be wrong. -/
theorem Limitation.read_of_separator {line rest : Text} {k : Keyword} {c : Char}
    (hkeyword : Limitation.keyword? line = some (k, rest)) (hone : '\n' ∉ rest) (hmem : c ∈ rest)
    (hc : Limitation.isSeparator c = true) :
    Limitation.read line =
      match Limitation.assignment? rest with
      | some (name, val) => .accepted ⟨k, name, val⟩
      | none => .rejected (.badLimitation line.trim) := by
  have hwhole : rest.takeWhile (· ≠ '\n') = rest := by
    refine List.takeWhile_eq_self_iff.2 ?_
    intro x hx
    simpa using fun heq : x = '\n' => hone (heq ▸ hx)
  have hseparator : (rest.takeWhile (· ≠ '\n')).any isSeparator = true := by
    rw [hwhole]
    exact List.any_eq_true.2 ⟨c, hmem, hc⟩
  unfold Limitation.read
  rw [hkeyword]
  exact if_pos hseparator

/-- On one line a keyword, a blank and a separator are enough for a limitation to be claimed. -/
theorem Limitation.isDecisive_of_announced {line : Text} (hline : '\n' ∉ line)
    (h : Limitation.Announced line) : (Limitation.read line).isDecisive = true := by
  obtain ⟨blanks, k, c, more, hblanks, rfl, hc, hsep⟩ := h
  have hkeyword : Limitation.keyword? (blanks ++ k.name ++ c :: more) =
      some (k, trimStart more) := by
    refine Limitation.keyword?_eq_some.2 ⟨c, more, ?_, hc, rfl⟩
    rw [List.append_assoc]
    exact trimStart_append hblanks (k.stops_name _)
  obtain ⟨gap, hgap, hmore⟩ := exists_trimStart more
  have hone : '\n' ∉ trimStart more := by
    intro hmem
    apply hline
    rw [hmore]
    simp [hmem]
  obtain ⟨x, hx, hmem⟩ : ∃ x, isSeparator x = true ∧ x ∈ more := by
    rcases hsep with hmem | hmem
    · exact ⟨':', rfl, hmem⟩
    · exact ⟨'=', rfl, hmem⟩
  -- The separator is not blank, so it stands after the blanks that are skipped.
  have hafter : x ∈ trimStart more := by
    rw [hmore] at hmem
    rcases List.mem_append.1 hmem with hmem | hmem
    · rcases isSeparator_iff.1 hx with rfl | rfl <;> cases hgap _ hmem
    · exact hmem
  rw [Limitation.read_of_separator hkeyword hone hafter hx]
  split <;> rfl

namespace AddressRange

/-- An expression is found behind a range keyword only. -/
theorem announced_of_afterKeyword? {line expression : Text}
    (h : afterKeyword? line = some expression) : Announced line := by
  obtain ⟨w, rest, hw, hstart, hends, -, -⟩ := afterKeyword?_eq_some.1 h
  obtain ⟨blanks, hblanks, hline⟩ := exists_trimStart line
  refine ⟨blanks, w, rest, hblanks, hw, ?_, hends⟩
  rw [List.append_assoc, ← hstart]
  exact hline

/-- On one line an announced range has its expression. -/
theorem afterKeyword?_of_announced {line blanks w rest : Text} (hline : '\n' ∉ line)
    (hblanks : AllBlank blanks) (hw : RangeWord w) (hparts : line = blanks ++ w ++ rest)
    (hends : Ends rest) : afterKeyword? line = some (expressionOf rest) := by
  refine afterKeyword?_eq_some.2 ⟨w, rest, hw, ?_, hends, rfl, ?_⟩
  · rw [hparts, List.append_assoc]
    exact trimStart_append hblanks (hw.stops rest)
  · intro hmem
    apply hline
    rw [hparts]
    exact List.mem_append_right _ ((expressionOf_suffix rest).mem hmem)

/-- Bounds that are found stand in the line, the dots between word characters. -/
theorem bare_of_bounds? {line first last tail : Text}
    (h : bounds? line = some (first, last, tail)) : Bare line := by
  obtain ⟨u, v, w, hu, hv, hw, rfl, hfirst, hlast, -, -⟩ := bounds?_eq_some.1 h
  obtain ⟨hfirstNe, hfirstWord⟩ := isToken_iff.1 hfirst
  obtain ⟨hlastNe, hlastWord⟩ := isToken_iff.1 hlast
  obtain ⟨c, more, rfl⟩ := List.exists_cons_of_ne_nil hlastNe
  exact ⟨u, first, v, w, c, more ++ tail, hu, hv, hw, hfirstNe, hfirstWord,
    hlastWord c List.mem_cons_self, by simp⟩

/-- On one line bounds are found where dots stand between word characters. -/
theorem exists_bounds? {line : Text} (hline : '\n' ∉ line) (h : Bare line) :
    ∃ first last tail, bounds? line = some (first, last, tail) := by
  obtain ⟨u, first, v, w, c, rest, hu, hv, hw, hne, hword, hc, rfl⟩ := h
  refine ⟨first, c :: rest.takeWhile isWord, rest.dropWhile isWord, bounds?_eq_some.2 ?_⟩
  refine ⟨u, v, w, hu, hv, hw, ?_, isToken_iff.2 ⟨hne, hword⟩, isToken_iff.2 ⟨by simp, ?_⟩,
    stops_dropWhile isWord rest, ?_⟩
  · simp
  · intro x hx
    rcases List.mem_cons.1 hx with rfl | hx
    · exact hc
    · exact List.mem_takeWhile_imp hx
  · intro hmem
    have hrest : '\n' ∈ rest := (List.dropWhile_suffix isWord).mem hmem
    exact hline (by simp [hrest])

/-- A line that is claimed as an address range is announced as one, or it has bounds. -/
theorem marked_of_isDecisive {line : Text} (h : (read line).isDecisive = true) :
    Announced line ∨ Bare line := by
  unfold read at h
  split at h
  · rename_i expression hkeyword
    exact Or.inl (announced_of_afterKeyword? hkeyword)
  · split at h
    · rename_i first last tail hbounds
      exact Or.inr (bare_of_bounds? hbounds)
    · cases h

/-- On one line either of these is enough for an address range to be claimed. -/
theorem isDecisive_of_marked {line : Text} (hline : '\n' ∉ line)
    (h : Announced line ∨ Bare line) : (read line).isDecisive = true := by
  unfold read
  split
  · split <;> simp
  · rename_i hkeyword
    rcases h with ⟨blanks, w, rest, hblanks, hw, hparts, hends⟩ | hbare
    · rw [afterKeyword?_of_announced hline hblanks hw hparts hends] at hkeyword
      cases hkeyword
    · obtain ⟨first, last, tail, hbounds⟩ := exists_bounds? hline hbare
      rw [hbounds]
      simp

end AddressRange

/-! ## All kinds -/

/-- A head of one token, spelled out in characters. -/
theorem Property.headed_isToken_iff {line : Text} :
    Property.Headed (fun name => name.isToken = true) line ↔
      Property.Headed (fun name => name ≠ [] ∧ ∀ x ∈ name, isWord x = true) line :=
  ⟨fun h => h.mono fun _ => isToken_iff.1, fun h => h.mono fun _ => isToken_iff.2⟩

/-- A head of one or more words is the marker of a property. -/
theorem Property.headed_isPhrase_iff {line : Text} :
    Property.Headed (fun name => Property.isPhrase name = true) line ↔
      Kind.Marked .property line := by
  constructor
  · intro h
    exact h.mono fun _ => isPhrase_iff.1
  · intro h
    unfold Kind.Marked at h
    exact h.mono fun _ => isPhrase_iff.2

/-- **A claimed line carries the marker of the kind that claims it.**  No assumption is made on the
line. -/
theorem Kind.marked_of_isDecisive [PatternCompiler] {kind : Kind} {line : Text}
    (h : (kind.read line).isDecisive = true) : kind.Marked line := by
  cases kind with
  | unknown => cases h
  | word =>
      simp only [Kind.read, Verdict.isDecisive_map, Word.read] at h
      split at h
      · rename_i hname
        exact isName_iff.1 hname
      · cases h
  | property =>
      simp only [Kind.read, Verdict.isDecisive_map, Property.read_eq] at h
      split at h
      · cases h
      · rename_i name rest hhead
        exact Property.headed_isPhrase_iff.1 (Property.headed_of_head? hhead)
  | propertyAnyValue =>
      simp only [Kind.read, Verdict.isDecisive_map, Property.readAnyValue_eq] at h
      split at h
      · cases h
      · rename_i name rest hhead
        exact Property.headed_isToken_iff.1 (Property.headed_of_head? hhead)
  | propertyList =>
      simp only [Kind.read, Verdict.isDecisive_map, PropertyList.read_eq] at h
      split at h
      · cases h
      · rename_i name rest hhead
        exact Property.headed_isToken_iff.1 (Property.headed_of_head? hhead)
  | blockTag =>
      simp only [Kind.read, Verdict.isDecisive_map, BlockTagLine.read] at h
      split at h
      · cases h
      · rename_i inner hinner
        exact bracketed_of_enclosed hinner
  | limitation =>
      rw [Kind.read, Verdict.isDecisive_map] at h
      exact Limitation.announced_of_isDecisive h
  | addressRange =>
      rw [Kind.read, Verdict.isDecisive_map] at h
      exact AddressRange.marked_of_isDecisive h
  | patternLiteral =>
      simp only [Kind.read, Verdict.isDecisive_map, PatternLiteral.read] at h
      split at h
      · cases h
      · rename_i inner hinner
        exact bracketed_of_enclosed hinner
  | methodCall =>
      simp only [Kind.read, Verdict.isDecisive_map, MethodCall.read] at h
      split at h
      · cases h
      · rename_i name args hshape
        obtain ⟨gap, hgap, htrim, hname, -⟩ := MethodCall.shape?_eq_some.1 hshape
        obtain ⟨c, rest, rfl, hc, hrest⟩ := isName_iff.1 hname
        exact ⟨c, rest, gap, args, htrim, hc, hrest, hgap⟩

/-- In particular a line that is read carries the marker. -/
theorem Kind.marked_of_accepted [PatternCompiler] {kind : Kind} {line : Text} {p : Payload}
    (h : kind.read line = .accepted p) : kind.Marked line := by
  apply Kind.marked_of_isDecisive
  rw [h]
  rfl

/-- **On one line the marker is enough.** -/
theorem Kind.isDecisive_of_marked [PatternCompiler] {kind : Kind} {line : Text}
    (hline : '\n' ∉ line) (h : kind.Marked line) : (kind.read line).isDecisive = true := by
  cases kind with
  | unknown => cases h
  | word =>
      have hname : line.trim.isName = true := isName_iff.2 h
      simp [Kind.read, Word.read, hname]
  | property =>
      obtain ⟨name, rest, hhead⟩ :=
        Property.exists_head? hline (Property.headed_isPhrase_iff.2 h)
      simp only [Kind.read, Verdict.isDecisive_map, Property.read_eq, hhead]
      split <;> rfl
  | propertyAnyValue =>
      obtain ⟨name, rest, hhead⟩ :=
        Property.exists_head? hline (Property.headed_isToken_iff.2 h)
      simp [Kind.read, Property.readAnyValue_eq, hhead]
  | propertyList =>
      obtain ⟨name, rest, hhead⟩ :=
        Property.exists_head? hline (Property.headed_isToken_iff.2 h)
      simp only [Kind.read, Verdict.isDecisive_map, PropertyList.read_eq, hhead]
      split <;> rfl
  | blockTag =>
      obtain ⟨inner, hinner⟩ := exists_enclosed hline h
      simp only [Kind.read, Verdict.isDecisive_map, BlockTagLine.read, hinner]
      split
      · rfl
      · split <;> rfl
  | limitation =>
      rw [Kind.read, Verdict.isDecisive_map]
      exact Limitation.isDecisive_of_announced hline h
  | addressRange =>
      rw [Kind.read, Verdict.isDecisive_map]
      exact AddressRange.isDecisive_of_marked hline h
  | patternLiteral =>
      obtain ⟨inner, hinner⟩ := exists_enclosed hline h
      simp only [Kind.read, Verdict.isDecisive_map, PatternLiteral.read, hinner]
      split <;> rfl
  | methodCall =>
      obtain ⟨c, rest, gap, args, htrim, hc, hrest, hgap⟩ := h
      have hargs : '\n' ∉ args := by
        intro hmem
        obtain ⟨u, v, -, -, hparts⟩ := exists_trim line
        rw [hparts, htrim] at hline
        simp [hmem] at hline
      have hshape : MethodCall.shape? line = some (c :: rest, args) :=
        MethodCall.shape?_eq_some.2
          ⟨gap, hgap, htrim, isName_iff.2 ⟨c, rest, rfl, hc, hrest⟩, hargs⟩
      simp [Kind.read, MethodCall.read, hshape]

/-- **Commitment.**  On one line a grammar accepts or rejects exactly when the line carries its
marker.  The unknown kind has no grammar, and no line is marked for it. -/
theorem Kind.isDecisive_iff_marked [PatternCompiler] (kind : Kind) {line : Text}
    (hline : '\n' ∉ line) : (kind.read line).isDecisive = true ↔ kind.Marked line :=
  ⟨Kind.marked_of_isDecisive, Kind.isDecisive_of_marked hline⟩

/-- The marker is the range keyword, here written with joints; what stands behind it is no range. -/
theorem Kind.isDecisive_iff_marked_add_range :
    '\n' ∉ " add -_range: 1".toList ∧
      ((Kind.addressRange.read " add -_range: 1".toList).isDecisive = true ↔
        Kind.addressRange.Marked " add -_range: 1".toList) :=
  ⟨by decide, Kind.isDecisive_iff_marked .addressRange (by decide)⟩

end MacroBody

import MacroBody.Proofs.Grammar.CallForm
import MacroBody.Proofs.Grammar.Padding
import MacroBody.Proofs.Grammar.RangeForm
import MacroBody.Proofs.Grammar.RangeWord
import MacroBody.Proofs.Text.Parts

/-!
# Where results come from

Nothing that a grammar says about a line is made up.  The texts of a payload stand in the line, one
after the other in the order of its parts, and the fragment that a rejection quotes stands in the
line as it is quoted.

There are two exceptions.  The bounds of an address range are kept as numbers, so it is their tokens
that stand in the line (`AddressRange.BoundsAt`); and the reason for refusing a pattern is the summary
of the report that the compiler writes on it.

A reader has one lemma, on its whole verdict (`Verdict.Drawn`).  Most readers cut the line once and
their lemma reads off the cut.  An address range is cut in stages, each of which goes on with the end
of the text before it: `AddressRange.read_cases` finds the bounds in the line, and
`AddressRange.withQualifiers_cases` the tags and the bus interfaces in what follows them.
-/

namespace MacroBody

open Text

/-- The first dots of the line stand between these two tokens, and `tail` follows the second one.
The tokens are whole: no word character stands before the first or after the second. -/
def AddressRange.BoundsAt (line first last tail : Text) : Prop :=
  ∃ front v w : Text,
    line = front ++ first ++ v ++ '.' :: '.' :: (w ++ last ++ tail) ∧ '.' ∉ front ∧
      Stops isWord front.reverse ∧ AllBlank v ∧ AllBlank w ∧ first.isToken = true ∧
      last.isToken = true ∧ Stops isWord tail

/-- The texts of the payload stand in the line, in the order of its parts. -/
def Payload.DrawnFrom (line : Text) : Payload → Prop
  | word w => InOrder [w.name] line
  | property p => InOrder [p.name, p.val] line
  | propertyAnyValue p => InOrder [p.name, p.val] line
  | propertyList p => InOrder (p.name :: p.vals) line
  | blockTag b => InOrder [b.tag.name] line
  | limitation l => InOrder [l.keyword.name, l.name, l.val] line
  | addressRange r =>
    ∃ first last tail, AddressRange.BoundsAt line first last tail ∧
      Numeral.read? first = some r.min ∧ Numeral.read? last = some r.max ∧
      InOrder (first :: last :: (r.tags ++ r.busInterfaces)) line
  | patternLiteral p => InOrder [p.pattern] line
  | methodCall m => InOrder (m.methodName :: m.arguments) line

/-- The fragment that the cause quotes stands in the line. -/
def GrammarError.DrawnFrom [PatternCompiler] (line : Text) : GrammarError → Prop
  | expectedValue text | expectedValueList text | malformedBlockTag text | unknownBlockTag text
  | badLimitation text | malformedRange text | nonNumeric text | malformedTags text
  | malformedBusInterfaces text | duplicateBusInterfaces text | unexpectedCloseParen text
  | mismatchedDelimiters text => text <:+: line
  | reversedRange min max =>
    max < min ∧ ∃ first last tail, AddressRange.BoundsAt line first last tail ∧
      Numeral.read? first = some min ∧ Numeral.read? last = some max
  | invalidPattern pattern reason =>
    pattern <:+: line ∧
      ∃ report, PatternCompiler.report? pattern = some report ∧ reason = report.summary

/-- A cause is drawn from the line, and a value is as `drawn` says. -/
def Verdict.Drawn [PatternCompiler] {α : Type} (line : Text) (drawn : α → Prop) : Verdict α → Prop
  | noMatch => True
  | rejected cause => cause.DrawnFrom line
  | accepted a => drawn a

/-- What is drawn from a line stays so in another form. -/
theorem Verdict.Drawn.map [PatternCompiler] {α β : Type} {line : Text} {drawn : β → Prop}
    {f : α → β} {v : Verdict α} (h : v.Drawn line fun a => drawn (f a)) :
    (v.map f).Drawn line drawn := by
  cases v <;> exact h

variable {line : Text}

/-! ## Words, properties and limitations -/

/-- A word is the trimmed line. -/
theorem Word.read_drawn [PatternCompiler] (line : Text) :
    (Word.read line).Drawn line fun w => (Payload.word w).DrawnFrom line := by
  unfold Word.read
  split
  · exact inOrder_singleton.2 (isInfix_trim line)
  · trivial

section Properties

variable {accept : Text → Bool} {name rest : Text} {parts : List Text}

/-- What stands behind the head is an end of the line. -/
theorem Property.suffix_of_head? (h : Property.head? accept line = some (name, rest)) :
    rest <:+ line := by
  obtain ⟨before, rfl, -⟩ := Property.head?_eq_some.1 h
  exact ⟨before ++ [':'], by simp⟩

/-- The name stands before the colon, and what is read of the rest behind it. -/
theorem Property.inOrder_of_head? (h : Property.head? accept line = some (name, rest))
    (hparts : InOrder parts rest) : InOrder (name :: parts) line := by
  obtain ⟨before, rfl, -, rfl, -⟩ := Property.head?_eq_some.1 h
  have hname : InOrder [before.trim] before := inOrder_singleton.2 (isInfix_trim before)
  exact hname.append (hparts.append_left [':'])

/-- A property is a name and a value of its line.  What is rejected is the text behind the colon. -/
theorem Property.read_drawn [PatternCompiler] (line : Text) :
    (Property.read line).Drawn line fun p => (Payload.property p).DrawnFrom line := by
  rw [Property.read_eq]
  split
  · trivial
  · rename_i name rest hhead
    split
    · exact Property.inOrder_of_head? hhead (inOrder_singleton.2 (isInfix_trim rest))
    · exact (isInfix_trim rest).trans (Property.suffix_of_head? hhead).isInfix

/-- The text of a property is a part of its line behind the name. -/
theorem Property.readAnyValue_drawn [PatternCompiler] (line : Text) :
    (Property.readAnyValue line).Drawn line fun p => (Payload.propertyAnyValue p).DrawnFrom line := by
  rw [Property.readAnyValue_eq]
  split
  · trivial
  · rename_i name rest hhead
    exact Property.inOrder_of_head? hhead (inOrder_singleton.2 (isInfix_trim rest))

/-- The values of a property list stand in its line behind the name, one after the other. -/
theorem PropertyList.read_drawn [PatternCompiler] (line : Text) :
    (PropertyList.read line).Drawn line fun p => (Payload.propertyList p).DrawnFrom line := by
  rw [PropertyList.read_eq]
  split
  · trivial
  · rename_i name rest hhead
    split
    · rename_i vals hvals
      obtain ⟨rfl, -⟩ := tokens?_eq_some.1 hvals
      exact Property.inOrder_of_head? hhead (inOrder_items rest)
    · exact (isInfix_trim rest).trans (Property.suffix_of_head? hhead).isInfix

end Properties

/-- An assignment is cut into a name and a value. -/
theorem Limitation.inOrder_of_assignment? {text name val : Text}
    (h : Limitation.assignment? text = some (name, val)) : InOrder [name, val] text := by
  obtain ⟨before, c, after, rfl, -, -, rfl, rfl, -⟩ := Limitation.assignment?_eq_some.1 h
  have hname : InOrder [before.trim] before := inOrder_singleton.2 (isInfix_trim before)
  have hval : InOrder [after.trim] after := inOrder_singleton.2 (isInfix_trim after)
  exact hname.append (hval.append_left [c])

/-- A limitation is a name and a value of its line.  A line that is rejected is quoted whole, but
for the blanks around it. -/
theorem Limitation.read_drawn [PatternCompiler] (line : Text) :
    (Limitation.read line).Drawn line fun l => (Payload.limitation l).DrawnFrom line := by
  unfold Limitation.read
  split
  · trivial
  · rename_i k rest hkeyword
    split
    · split
      · rename_i name val hassignment
        obtain ⟨c, more, hstart, -, rfl⟩ := Limitation.keyword?_eq_some.1 hkeyword
        obtain ⟨u, -, hline⟩ := exists_trimStart line
        have hmore : InOrder [name, val] (c :: more) :=
          ((Limitation.inOrder_of_assignment? hassignment).mono
            (trimStart_suffix more).isInfix).append_left [c]
        rw [hline, hstart, ← List.append_assoc]
        exact hmore.cons u k.name
      · exact isInfix_trim line
    · trivial

/-! ## Enclosed texts -/

section Enclosed

variable {o c : Char} {inner : Text}

/-- What is enclosed stands in the line. -/
theorem Text.isInfix_of_enclosed
    (h : (line.trim.enclosed? o c).filter Text.isOneLine = some inner) : inner <:+: line := by
  have htrim := (enclosed_filter_eq_some.1 h).1
  have hinner : inner <:+: line.trim := ⟨[o], [c], by rw [htrim]; rfl⟩
  exact hinner.trans (isInfix_trim line)

/-- The name of a block tag stands at the end of what the brackets enclose. -/
theorem BlockTagLine.suffix_of_word? {name : Text} {enter : Bool}
    (h : BlockTagLine.word? inner = some (name, enter)) : name <:+ inner := by
  unfold BlockTagLine.word? at h
  split at h
  · split at h
    · cases h
      exact List.suffix_cons '/' name
    · cases h
  · split at h
    · cases h
      exact List.suffix_rfl
    · cases h

/-- The tag of a name is the one that has this name. -/
theorem BlockTag.name_of_ofName? {name : Text} {tag : BlockTag}
    (h : BlockTag.ofName? name = some tag) : tag.name = name := by
  simpa using List.find?_some h

/-- The name of a block tag is a part of its line. -/
theorem BlockTagLine.read_drawn [PatternCompiler] (line : Text) :
    (BlockTagLine.read line).Drawn line fun b => (Payload.blockTag b).DrawnFrom line := by
  unfold BlockTagLine.read
  split
  · trivial
  · rename_i inner hinner
    split
    · have htrim := (enclosed_filter_eq_some.1 hinner).1
      exact htrim ▸ isInfix_trim line
    · rename_i name enter hword
      have hname := (BlockTagLine.suffix_of_word? hword).isInfix.trans (isInfix_of_enclosed hinner)
      split
      · exact hname
      · rename_i tag htag
        obtain rfl := BlockTag.name_of_ofName? htag
        exact inOrder_singleton.2 hname

/-- A pattern is what the quotes of its line enclose.  The reason for refusing it is the summary of
the report on it. -/
theorem PatternLiteral.read_drawn [PatternCompiler] (line : Text) :
    (PatternLiteral.read line).Drawn line fun p => (Payload.patternLiteral p).DrawnFrom line := by
  unfold PatternLiteral.read
  split
  · trivial
  · rename_i pattern hpattern
    have hwithin := isInfix_of_enclosed hpattern
    split
    · exact inOrder_singleton.2 hwithin
    · rename_i report hreport
      exact ⟨hwithin, report, hreport, rfl⟩

end Enclosed

/-! ## Method calls -/

/-- Arguments stand in order in the argument list, and a fault quotes a start of it. -/
theorem Arguments.split_drawn (args : Text) :
    (∃ arguments, split args = .ok arguments ∧ InOrder arguments args) ∨
      ∃ q, q <+: args ∧ (split args = .error (.unexpectedCloseParen q) ∨
        split args = .error (.mismatchedDelimiters q)) := by
  rcases split_cases args with ⟨r, rfl, hok⟩ | ⟨q, hclose, herror⟩ | herror
  · have hpieces := inOrder_map_trim_join [','] r.pieces
    rw [r.join_pieces] at hpieces
    exact Or.inl ⟨_, hok, hpieces⟩
  · exact Or.inr ⟨q, hclose.1, Or.inl herror⟩
  · exact Or.inr ⟨args, List.prefix_rfl, Or.inr herror⟩

/-- A method call is a name and arguments of its line.  What splitting rejects is a part of the line
as well. -/
theorem MethodCall.read_drawn [PatternCompiler] (line : Text) :
    (MethodCall.read line).Drawn line fun m => (Payload.methodCall m).DrawnFrom line := by
  unfold MethodCall.read
  split
  · trivial
  · rename_i name args hshape
    obtain ⟨gap, -, htrim, -⟩ := MethodCall.shape?_eq_some.1 hshape
    have hline : name ++ gap ++ '(' :: args ++ [')'] <:+: line := htrim ▸ isInfix_trim line
    have hargs : args <:+: line :=
      List.IsInfix.trans ⟨name ++ gap ++ ['('], [')'], by simp⟩ hline
    rcases Arguments.split_drawn args with ⟨arguments, hok, horder⟩ | ⟨q, hq, herror | herror⟩
    · rw [hok]
      have hname : InOrder (name :: arguments) (name ++ (gap ++ '(' :: args)) := by
        simpa using (horder.append_left (gap ++ ['('])).cons [] name
      exact (hname.append_right [')']).mono (by simpa using hline)
    · rw [herror]
      exact hq.isInfix.trans hargs
    · rw [herror]
      exact hq.isInfix.trans hargs

/-! ## Address ranges -/

namespace AddressRange

variable {first last tail rest : Text} {tags : List Text}

/-- The expression is apart from the keyword: only blanks and a colon stand between them. -/
theorem exists_gap (rest : Text) :
    ∃ gap, (∀ c ∈ gap, isBlank c = true ∨ c = ':') ∧ rest = gap ++ expressionOf rest := by
  obtain ⟨u, hu, hrest⟩ := exists_trimStart rest
  by_cases hcolon : ∃ text, rest.trimStart = ':' :: text
  · obtain ⟨text, htext⟩ := hcolon
    obtain ⟨v, hv, htext'⟩ := exists_trimStart text
    refine ⟨u ++ ':' :: v, ?_, ?_⟩
    · intro c hc
      rcases List.mem_append.1 hc with hc | hc
      · exact Or.inl (hu c hc)
      · rcases List.mem_cons.1 hc with rfl | hc
        · exact Or.inr rfl
        · exact Or.inl (hv c hc)
    · rw [expressionOf_colon htext, List.append_assoc, List.cons_append, ← htext', ← htext]
      exact hrest
  · refine ⟨u, fun c hc => Or.inl (hu c hc), ?_⟩
    rw [expressionOf_other (not_exists.1 hcolon)]
    exact hrest

/-- Bounds of the expression behind the keyword are those of the line. -/
theorem boundsAt_of_keyword {blanks w : Text} (hblanks : AllBlank blanks) (hw : RangeWord w)
    (hends : Ends rest) (h : bounds? (expressionOf rest) = some (first, last, tail)) :
    BoundsAt (blanks ++ w ++ rest) first last tail := by
  obtain ⟨u, v, v', hu, hv, hv', hexpression, hfirst, hlast, htail, -⟩ := bounds?_eq_some.1 h
  obtain ⟨gap, hgap, hrest⟩ := exists_gap rest
  have hapart : ∀ c ∈ gap ++ u, isBlank c = true ∨ c = ':' := by
    intro c hc
    rcases List.mem_append.1 hc with hc | hc
    · exact hgap c hc
    · exact Or.inl (hu c hc)
  have hword : ∀ c ∈ gap ++ u, isWord c = false := by
    intro c hc
    rcases hapart c hc with hblank | rfl
    · exact isWord_of_isBlank hblank
    · exact isWord_of_isMark rfl
  -- A keyword that ends is not followed by a word character at once.
  have hne : gap ++ u ≠ [] := by
    intro hnil
    obtain ⟨rfl, rfl⟩ := List.append_eq_nil_iff.1 hnil
    rw [hrest, hexpression, List.nil_append, List.nil_append, List.append_assoc] at hends
    exact (isToken_iff.1 hfirst).1 (eq_nil_of_ends (isToken_iff.1 hfirst).2 hends)
  refine ⟨blanks ++ w ++ (gap ++ u), v, v', ?_, ?_, ?_, hv, hv', hfirst, hlast, htail⟩
  · rw [hrest, hexpression]
    simp
  · intro hmem
    rcases List.mem_append.1 hmem with hmem | hmem
    · cases (plain_append.2 ⟨hblanks.plain, hw.plain⟩) '.' hmem
    · rcases hapart '.' hmem with hblank | hcolon
      · cases hblank
      · cases hcolon
  · obtain ⟨init, c, hconcat⟩ := (List.eq_nil_or_concat (gap ++ u)).resolve_left hne
    rw [List.concat_eq_append] at hconcat
    rw [List.reverse_append, hconcat, List.reverse_append]
    exact stops_cons.2 (hword c (by rw [hconcat]; simp))

/-- What is cut as bounds stands in the line as bounds. -/
theorem boundsAt_of_bounds? {line : Text} (h : bounds? line = some (first, last, tail)) :
    BoundsAt line first last tail := by
  obtain ⟨u, v, w, hu, hv, hw, hline, hfirst, hlast, htail, -⟩ := bounds?_eq_some.1 h
  refine ⟨u, v, w, hline, ?_, ?_, hv, hw, hfirst, hlast, htail⟩
  · intro hmem
    cases hu '.' hmem
  · intro c hc
    exact isWord_of_isBlank (hu.reverse c (List.mem_of_mem_head? hc))

/-- **The bounds stand in the line.**  A line without bounds is left alone, or what stands behind its
keyword is malformed. -/
theorem read_cases (line : Text) :
    read line = .noMatch ∨
      (∃ expression, expression <:+: line ∧
        read line = .rejected (.malformedRange expression)) ∨
      ∃ first last tail, BoundsAt line first last tail ∧
        read line = .ofExcept (ofBounds first last tail) := by
  unfold read
  split
  · rename_i expression hkeyword
    obtain ⟨w, rest, hw, hstart, hends, rfl, -⟩ := afterKeyword?_eq_some.1 hkeyword
    obtain ⟨blanks, hblanks, hline⟩ := exists_trimStart line
    rw [hstart, ← List.append_assoc] at hline
    split
    · rename_i first last tail hbounds
      have hat := boundsAt_of_keyword hblanks hw hends hbounds
      rw [← hline] at hat
      exact Or.inr (Or.inr ⟨first, last, tail, hat, rfl⟩)
    · have hrest : rest <:+ line := ⟨blanks ++ w, hline.symm⟩
      have hwithin := (isInfix_trim _).trans ((expressionOf_suffix rest).trans hrest).isInfix
      exact Or.inr (Or.inl ⟨_, hwithin, rfl⟩)
  · split
    · rename_i first last tail hbounds
      exact Or.inr (Or.inr ⟨first, last, tail, boundsAt_of_bounds? hbounds, rfl⟩)
    · exact Or.inl rfl

/-- The bound tokens stand before what is found behind them. -/
theorem BoundsAt.inOrder {line : Text} {parts : List Text} (h : BoundsAt line first last tail)
    (hparts : InOrder parts tail) : InOrder (first :: last :: parts) line := by
  obtain ⟨front, v, w, rfl, -⟩ := h
  have hlast : InOrder (last :: parts) (v ++ '.' :: '.' :: (w ++ last ++ tail)) := by
    simpa using hparts.cons (v ++ '.' :: '.' :: w) last
  simpa using hlast.cons front first

/-- The qualifiers stand at the end of the line. -/
theorem BoundsAt.suffix {line : Text} (h : BoundsAt line first last tail) : tail <:+ line := by
  obtain ⟨front, v, w, rfl, -⟩ := h
  exact ⟨front ++ first ++ v ++ '.' :: '.' :: (w ++ last), by simp⟩

/-- The tags stand in order before the text that is left. -/
theorem exists_of_tagList? {segments : List Text} (h : tagList? segments = some (tags, rest)) :
    ∃ front, Text.join [','] segments = front ++ rest ∧ InOrder tags front := by
  induction segments generalizing tags with
  | nil => cases h
  | cons segment more ih =>
      obtain ⟨u, tag, after, -, rfl, -, hmore⟩ := tagList?_cons_eq_some h
      have hfirst : InOrder [tag] (u ++ tag) :=
        inOrder_singleton.2 (List.suffix_append u tag).isInfix
      rcases hmore with ⟨later, -, rfl, hlater⟩ | ⟨rfl, rfl, -⟩
      · obtain ⟨front, hjoin, hfront⟩ := ih hlater
        obtain ⟨second, more, rfl⟩ : ∃ second more', more = second :: more' :=
          List.exists_cons_of_ne_nil (by rintro rfl; cases hlater)
        refine ⟨u ++ tag ++ (after ++ [','] ++ front), ?_,
          hfirst.append (hfront.append_left (after ++ [',']))⟩
        rw [join_cons_cons, hjoin]
        simp
      · refine ⟨u ++ tag, ?_, hfirst⟩
        cases more <;> simp [Text.join, List.intercalate]

/-- The tags stand in order before the text that is left. -/
theorem exists_of_tags? (h : tags? tail = some (tags, rest)) :
    ∃ front, tail = front ++ rest ∧ InOrder tags front := by
  obtain ⟨text, htext, hlist⟩ := tags?_eq_some.1 h
  have hsuffix : text <:+ tail.trimStart := by
    rcases htext with hcolon | ⟨w, -, hafter⟩
    · exact hcolon ▸ List.suffix_cons ':' text
    · exact suffix_of_afterWord? hafter
  obtain ⟨before, rfl⟩ := hsuffix.trans (trimStart_suffix tail)
  obtain ⟨front, hjoin, hfront⟩ := exists_of_tagList? hlist
  have hsegments : Text.join [','] (text.splitOn ',') = text := List.intercalate_splitOn ','
  refine ⟨before ++ front, ?_, hfront.append_left before⟩
  rw [List.append_assoc, ← hjoin, hsegments]

/-- The list of bus interfaces is a part of what stands behind the tags. -/
theorem isInfix_of_busInterfaces? {list : Text} {inverse : Bool}
    (h : busInterfaces? rest = some (list, inverse)) : list <:+: rest := by
  have hafter := busInterfaces?_eq_some.1 h
  exact (suffix_of_afterWord? hafter).isInfix.trans (isInfix_trim rest)

/-- A fault in what follows the bounds; it quotes a part of that. -/
def FaultIn (tail : Text) (cause : GrammarError) : Prop :=
  ∃ t, t <:+: tail ∧ (cause = .malformedTags t ∨ cause = .malformedBusInterfaces t ∨
    cause = .duplicateBusInterfaces t)

/-- A fault in a part is a fault in the whole. -/
theorem FaultIn.mono {cause : GrammarError} (h : FaultIn rest cause) (hwithin : rest <:+: tail) :
    FaultIn tail cause := by
  obtain ⟨t, ht, hcause⟩ := h
  exact ⟨t, ht.trans hwithin, hcause⟩

/-- A fault in the qualifiers quotes what stands there. -/
theorem FaultIn.drawnFrom [PatternCompiler] {cause : GrammarError} (h : FaultIn tail cause) :
    cause.DrawnFrom tail := by
  obtain ⟨t, ht, rfl | rfl | rfl⟩ := h
  · exact ht
  · exact ht
  · exact ht

/-- Bus interfaces are added as they stand in the text. -/
theorem withBusInterfaces_cases (range : AddressRange) (hrange : range.busInterfaces = [])
    (rest : Text) :
    (∃ names inverse, range.withBusInterfaces rest =
        .ok { range with busInterfaces := names, inverse := inverse } ∧ InOrder names rest) ∨
      ∃ cause, range.withBusInterfaces rest = .error cause ∧ FaultIn rest cause := by
  unfold withBusInterfaces
  split
  · left
    refine ⟨[], range.inverse, ?_, inOrder_nil rest⟩
    rw [← hrange]
  · split
    · exact Or.inr ⟨_, rfl, rest.trim, isInfix_trim rest, Or.inr (Or.inl rfl)⟩
    · rename_i list inverse hlist
      have hwithin := isInfix_of_busInterfaces? hlist
      split
      · exact Or.inr ⟨_, rfl, rest.trim, isInfix_trim rest, Or.inr (Or.inl rfl)⟩
      · rename_i names hnames
        obtain ⟨rfl, -⟩ := tokens?_eq_some.1 hnames
        split
        · exact Or.inl ⟨_, inverse, rfl, (inOrder_items list).mono hwithin⟩
        · exact Or.inr ⟨_, rfl, list, hwithin, Or.inr (Or.inr rfl)⟩

/-- **Tags and bus interfaces are added in the order in which they stand behind the bounds.** -/
theorem withQualifiers_cases (min max : UInt64) (tail : Text) :
    (∃ tags names inverse, withQualifiers ⟨min, max, [], [], false⟩ tail =
        .ok ⟨min, max, tags, names, inverse⟩ ∧ InOrder (tags ++ names) tail) ∨
      ∃ cause, withQualifiers ⟨min, max, [], [], false⟩ tail = .error cause ∧
        FaultIn tail cause := by
  unfold withQualifiers
  split
  · exact Or.inl ⟨[], [], false, rfl, inOrder_nil tail⟩
  · split
    · exact Or.inr ⟨_, rfl, tail.trim, isInfix_trim tail, Or.inl rfl⟩
    · rename_i tags rest htags
      obtain ⟨front, rfl, hfront⟩ := exists_of_tags? htags
      rcases withBusInterfaces_cases ⟨min, max, tags, [], false⟩ rfl rest with
        ⟨names, inverse, hok, hnames⟩ | ⟨cause, herror, hfault⟩
      · exact Or.inl ⟨tags, names, inverse, hok, hfront.append hnames⟩
      · exact Or.inr ⟨cause, herror, hfault.mono (List.suffix_append front rest).isInfix⟩

/-- A bound has a value, or it is rejected as it is written. -/
theorem bound_cases (token : Text) :
    (∃ n, Numeral.read? token = some n ∧ bound token = .ok n) ∨
      bound token = .error (.nonNumeric token) := by
  unfold bound
  cases hread : Numeral.read? token with
  | some n => exact Or.inl ⟨n, rfl, rfl⟩
  | none => exact Or.inr rfl

/-- What is read from the bounds on is drawn from the line in which they stand. -/
theorem BoundsAt.ofBounds_drawn [PatternCompiler] {line : Text}
    (h : BoundsAt line first last tail) :
    (Verdict.ofExcept (ofBounds first last tail)).Drawn line fun r =>
      (Payload.addressRange r).DrawnFrom line := by
  have htokens : InOrder [first, last] line := h.inOrder (inOrder_nil tail)
  unfold ofBounds
  rcases bound_cases first with ⟨min, hmin, hfirst⟩ | hfirst
  · rcases bound_cases last with ⟨max, hmax, hlast⟩ | hlast
    · simp only [hfirst, hlast, bind, Except.bind]
      split
      · rename_i hreversed
        exact ⟨hreversed, first, last, tail, h, hmin, hmax⟩
      · rcases withQualifiers_cases min max tail with
          ⟨tags, names, inverse, hok, horder⟩ | ⟨cause, herror, hfault⟩
        · rw [hok]
          exact ⟨first, last, tail, h, hmin, hmax, h.inOrder horder⟩
        · rw [herror]
          exact (hfault.mono h.suffix.isInfix).drawnFrom
    · simp only [hfirst, hlast, bind, Except.bind]
      exact htokens.isInfix (by simp)
  · simp only [hfirst, bind, Except.bind]
    exact htokens.isInfix (by simp)

/-- **An address range is drawn from its line**, which it was cut from in stages. -/
theorem read_drawn [PatternCompiler] (line : Text) :
    (read line).Drawn line fun r => (Payload.addressRange r).DrawnFrom line := by
  rcases read_cases line with hnone | ⟨expression, hwithin, hrejected⟩ | ⟨_, _, _, hat, hread⟩
  · rw [hnone]
    trivial
  · rw [hrejected]
    exact hwithin
  · rw [hread]
    exact hat.ofBounds_drawn

end AddressRange

/-! ## Every kind -/

/-- Whatever a grammar says about a line is drawn from the line. -/
theorem Kind.read_drawn [PatternCompiler] (kind : Kind) (line : Text) :
    (kind.read line).Drawn line (Payload.DrawnFrom line) := by
  cases kind with
  | unknown => trivial
  | word => exact (Word.read_drawn line).map
  | property => exact (Property.read_drawn line).map
  | propertyAnyValue => exact (Property.readAnyValue_drawn line).map
  | propertyList => exact (PropertyList.read_drawn line).map
  | blockTag => exact (BlockTagLine.read_drawn line).map
  | limitation => exact (Limitation.read_drawn line).map
  | addressRange => exact (AddressRange.read_drawn line).map
  | patternLiteral => exact (PatternLiteral.read_drawn line).map
  | methodCall => exact (MethodCall.read_drawn line).map

/-- **Nothing in a result is made up.**  The texts of a payload stand in the line in the order of its
parts, without overlapping; for an address range these include the tokens of its bounds.  A rejection
quotes a part of the line, or tells the two bounds of the line that are reversed. -/
theorem Kind.read_invents_nothing [PatternCompiler] (kind : Kind) (line : Text) :
    (∀ p, kind.read line = .accepted p → p.DrawnFrom line) ∧
      ∀ cause, kind.read line = .rejected cause → cause.DrawnFrom line := by
  have hdrawn := kind.read_drawn line
  constructor
  · intro p hp
    rwa [hp] at hdrawn
  · intro cause hcause
    rwa [hcause] at hdrawn

end MacroBody

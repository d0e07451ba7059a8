import MacroBody.Grammar.AddressRange
import MacroBody.Grammar.BlockTag
import MacroBody.Grammar.Limitation
import MacroBody.Grammar.MethodCall
import MacroBody.Grammar.Word
import MacroBody.Proofs.Grammar.PropertyHead

/-!
# The shapes that the readers look for

One equation for each reader that takes a line apart: it returns its parts exactly when the line is
those parts, written one after the other with blanks and marks between them.  Later files cite these
equations and do not look into the readers again.

* `Property.read_eq_accepted`, `PropertyList.read_eq_accepted` — a name, the first colon of the line
  and a value;
* `Limitation.keyword?_eq_some`, `Limitation.assignment?_eq_some` — a keyword with a blank after
  it, and a name and a value around the first separator;
* `AddressRange.afterKeyword?_eq_some`, `AddressRange.bounds?_eq_some` — the range keyword in one of
  its spellings, and two tokens around two dots;
* `MethodCall.shape?_eq_some` — a name and an enclosed argument list.
-/

namespace MacroBody

namespace Verdict

variable {α β : Type}

@[simp]
theorem isDecisive_noMatch : (noMatch : Verdict α).isDecisive = false := rfl

@[simp]
theorem isDecisive_rejected (e : GrammarError) : (rejected e : Verdict α).isDecisive = true := rfl

@[simp]
theorem isDecisive_accepted (a : α) : (accepted a).isDecisive = true := rfl

/-- A line that is claimed already is accepted with the value that its parts have. -/
@[simp]
theorem ofExcept_eq_accepted {e : Except GrammarError α} {value : α} :
    ofExcept e = .accepted value ↔ e = .ok value := by
  cases e <;> simp [ofExcept]

/-- A line that is claimed already is accepted or rejected. -/
@[simp]
theorem isDecisive_ofExcept (e : Except GrammarError α) : (ofExcept e).isDecisive = true := by
  cases e <;> rfl

/-- What is read after a map was read before it. -/
theorem map_eq_accepted {f : α → β} {v : Verdict α} {b : β} :
    v.map f = .accepted b ↔ ∃ a, v = .accepted a ∧ f a = b := by
  cases v <;> simp [map]

end Verdict

open Text

/-! ## Properties -/

/-- What a property line is. -/
theorem Property.read_eq_accepted {line : Text} {p : Property} :
    Property.read line = .accepted p ↔
      ∃ before rest : Text, line = before ++ ':' :: rest ∧ ':' ∉ before ∧ '\n' ∉ rest ∧
        before.trim = p.name ∧ Property.isPhrase p.name = true ∧
        rest.trim = p.val ∧ p.val.isToken = true := by
  constructor
  · intro h
    rw [Property.read_eq] at h
    split at h
    · cases h
    · rename_i name rest hhead
      obtain ⟨before, hline, hcolon, hname, hphrase, hone⟩ := Property.head?_eq_some.1 hhead
      split at h
      · rename_i htoken
        cases h
        exact ⟨before, rest, hline, hcolon, hone, hname, hphrase, rfl, htoken⟩
      · cases h
  · intro h
    obtain ⟨before, rest, hline, hcolon, hone, hname, hphrase, hval, htoken⟩ := h
    have hhead : Property.head? Property.isPhrase line = some (p.name, rest) :=
      Property.head?_eq_some.2 ⟨before, hline, hcolon, hname, hphrase, hone⟩
    simp [Property.read_eq, hhead, hval, htoken]

/-- What a property list line is. -/
theorem PropertyList.read_eq_accepted {line : Text} {p : PropertyList} :
    PropertyList.read line = .accepted p ↔
      ∃ before rest : Text, line = before ++ ':' :: rest ∧ ':' ∉ before ∧ '\n' ∉ rest ∧
        before.trim = p.name ∧ p.name.isToken = true ∧ rest.tokens? = some p.vals := by
  constructor
  · intro h
    rw [PropertyList.read_eq] at h
    split at h
    · cases h
    · rename_i name rest hhead
      obtain ⟨before, hline, hcolon, hname, htoken, hone⟩ := Property.head?_eq_some.1 hhead
      split at h
      · rename_i vals hvals
        cases h
        exact ⟨before, rest, hline, hcolon, hone, hname, htoken, hvals⟩
      · cases h
  · intro h
    obtain ⟨before, rest, hline, hcolon, hone, hname, htoken, hvals⟩ := h
    have hhead : Property.head? Text.isToken line = some (p.name, rest) :=
      Property.head?_eq_some.2 ⟨before, hline, hcolon, hname, htoken, hone⟩
    simp [PropertyList.read_eq, hhead, hvals]

/-! ## Words -/

/-- A word line is a name between blanks. -/
theorem Word.read_eq_accepted {line : Text} {w : Word} :
    Word.read line = .accepted w ↔ line.trim = w.name ∧ w.name.isName = true := by
  obtain ⟨name⟩ := w
  constructor
  · intro h
    unfold Word.read at h
    split at h
    · rename_i hname
      cases h
      exact ⟨rfl, hname⟩
    · cases h
  · intro h
    obtain ⟨rfl, hname⟩ := h
    simp [Word.read, hname]

/-! ## Limitations -/

/-- A keyword is a word. -/
theorem Keyword.isWord_name (k : Keyword) : ∀ c ∈ k.name, isWord c = true := by
  have hall : k.name.all isWord = true := by
    cases k <;> decide
  exact List.all_eq_true.1 hall

/-- A keyword ends the blanks in front of it. -/
theorem Keyword.stops_name (k : Keyword) (rest : Text) : Stops isBlank (k.name ++ rest) := by
  cases k <;> exact stops_cons.2 (by decide)

/-- A keyword is recognised by the blank after it. -/
theorem Limitation.keyword?_eq_some {line rest : Text} {k : Keyword} :
    Limitation.keyword? line = some (k, rest) ↔
      ∃ c more, line.trimStart = k.name ++ c :: more ∧ isBlank c = true ∧
        rest = trimStart more := by
  constructor
  · intro h
    obtain ⟨k', -, hk'⟩ := List.exists_of_findSome?_eq_some h
    obtain ⟨rest', hafter, heq⟩ := Option.map_eq_some_iff.1 hk'
    cases heq
    exact afterWord?_eq_some.1 hafter
  · intro h
    obtain ⟨c, more, hline, hc, rfl⟩ := h
    have hafter : line.trimStart.afterWord? k.name = some (trimStart more) :=
      afterWord?_eq_some.2 ⟨c, more, hline, hc, rfl⟩
    -- The keywords before `k` differ from it in the first character.
    have hother : ∀ k' : Keyword, k'.name.head? ≠ k.name.head? →
        line.trimStart.afterWord? k'.name = none := by
      intro k' hne
      rw [Option.eq_none_iff_forall_ne_some]
      intro rest' heq
      obtain ⟨c', more', hline', -, -⟩ := afterWord?_eq_some.1 heq
      apply hne
      have hhead : ∀ (q : Keyword) (t : Text), q.name.head? = (q.name ++ t).head? := by
        intro q t
        cases q <;> rfl
      rw [hhead k' (c' :: more'), ← hline', hline, ← hhead]
    cases k with
    | add => simp [Limitation.keyword?, Keyword.all, hafter]
    | set =>
        simp [Limitation.keyword?, Keyword.all, hafter, hother .add (by decide)]
    | rm =>
        simp [Limitation.keyword?, Keyword.all, hafter, hother .add (by decide),
          hother .set (by decide)]

/-- There are two separators. -/
theorem Limitation.isSeparator_iff {c : Char} :
    Limitation.isSeparator c = true ↔ c = ':' ∨ c = '=' := by
  simp [Limitation.isSeparator]

/-- An assignment is made at the first separator. -/
theorem Limitation.assignment?_eq_some {text name val : Text} :
    Limitation.assignment? text = some (name, val) ↔
      ∃ (before : Text) (c : Char) (after : Text), text = before ++ c :: after ∧
        Limitation.isSeparator c = true ∧
        (∀ x ∈ before, Limitation.isSeparator x = false) ∧ before.trim = name ∧
        after.trim = val ∧ name.isToken = true ∧ val.isToken = true := by
  unfold Limitation.assignment?
  constructor
  · intro h
    split at h
    · rename_i before after hcut
      split at h
      · rename_i htoken
        simp only [Bool.and_eq_true] at htoken
        obtain ⟨rfl, rfl⟩ : before.trim = name ∧ after.trim = val := by simpa using h
        obtain ⟨c, hc, rfl, hbefore⟩ := cut?_eq_some_iff.1 hcut
        exact ⟨before, c, after, rfl, hc, hbefore, rfl, rfl, htoken⟩
      · cases h
    · cases h
  · intro h
    obtain ⟨before, c, after, rfl, hc, hbefore, rfl, rfl, hname, hval⟩ := h
    rw [cut?_eq_some_iff.2 ⟨c, hc, rfl, hbefore⟩]
    simp [hname, hval]

/-! ## Address ranges -/

namespace AddressRange

/-- One of the spellings of the range keyword. -/
def RangeWord (w : Text) : Prop :=
  w = "range".toList ∨
    ∃ joints : Text, (∀ c ∈ joints, isBlank c = true ∨ c = '_' ∨ c = '-') ∧
      w = "add".toList ++ joints ++ "range".toList

/-- The two words of the range keyword are joined by blanks, underscores and hyphens. -/
theorem isJoint_iff {c : Char} : isJoint c = true ↔ isBlank c = true ∨ c = '_' ∨ c = '-' := by
  simp [isJoint, or_assoc]

/-- The range keyword ends the blanks in front of it. -/
theorem RangeWord.stops {w : Text} (h : RangeWord w) (rest : Text) :
    Stops isBlank (w ++ rest) := by
  rcases h with rfl | ⟨joints, -, rfl⟩
  · exact stops_cons.2 (by decide)
  · exact stops_cons.2 (by decide)

/-- The keyword may be spelled in several ways, and its spelling is found. -/
theorem afterRangeWord?_eq_some {line rest : Text} :
    afterRangeWord? line = some rest ↔ ∃ w, RangeWord w ∧ line.trimStart = w ++ rest := by
  unfold afterRangeWord?
  constructor
  · intro h
    split at h
    · rename_i more hadd
      have hrange := after?_eq_some.1 h
      refine ⟨"add".toList ++ more.takeWhile isJoint ++ "range".toList, Or.inr ?_, ?_⟩
      · refine ⟨more.takeWhile isJoint, ?_, rfl⟩
        intro c hc
        exact isJoint_iff.1 (List.mem_takeWhile_imp hc)
      · rw [after?_eq_some.1 hadd, List.append_assoc, List.append_assoc, ← hrange,
          List.takeWhile_append_dropWhile]
    · exact ⟨_, Or.inl rfl, after?_eq_some.1 h⟩
  · intro h
    rcases h with ⟨w, rfl | ⟨joints, hjoints, rfl⟩, hline⟩
    · have hadd : line.trimStart.after? "add".toList = none := by
        rw [Option.eq_none_iff_forall_ne_some]
        intro more heq
        rw [after?_eq_some, hline] at heq
        simp at heq
      rw [hadd]
      exact after?_eq_some.2 hline
    · rw [List.append_assoc, List.append_assoc] at hline
      rw [after?_eq_some.2 hline]
      have hrun : (joints ++ ("range".toList ++ rest)).dropWhile isJoint =
          "range".toList ++ rest :=
        dropWhile_run (fun c hc => isJoint_iff.2 (hjoints c hc)) (stops_cons.2 (by decide))
      simp only [hrun]
      exact after?_eq_some.2 rfl

/-- What may follow the range keyword: nothing, a blank or a colon. -/
def Ends (rest : Text) : Prop :=
  rest = [] ∨ ∃ c more, rest = c :: more ∧ (isBlank c = true ∨ c = ':')

/-- The range keyword ends at a colon, with blanks before it or without. -/
theorem ends_colon {gap rest : Text} (hgap : AllBlank gap) : Ends (gap ++ ':' :: rest) := by
  cases gap with
  | nil => exact Or.inr ⟨':', rest, rfl, Or.inr rfl⟩
  | cons c gap => exact Or.inr ⟨c, _, rfl, Or.inl (hgap c List.mem_cons_self)⟩

/-- The expression that stands after the range keyword and the colon, if there is one. -/
def expressionOf (rest : Text) : Text :=
  match rest.trimStart with
  | ':' :: text => trimStart text
  | text => text

/-- The expression stands behind the colon. -/
theorem expressionOf_colon {rest text : Text} (h : rest.trimStart = ':' :: text) :
    expressionOf rest = trimStart text := by
  simp [expressionOf, h]

/-- Without a colon the expression follows the keyword. -/
theorem expressionOf_other {rest : Text} (h : ∀ text, rest.trimStart ≠ ':' :: text) :
    expressionOf rest = rest.trimStart := by
  unfold expressionOf
  split
  · rename_i text htext
    exact absurd htext (h text)
  · rfl

/-- The expression is the end of what follows the keyword. -/
theorem expressionOf_suffix (rest : Text) : expressionOf rest <:+ rest := by
  obtain ⟨gap, -, hrest⟩ := exists_trimStart rest
  unfold expressionOf
  split
  · rename_i text htext
    obtain ⟨gap', -, htext'⟩ := exists_trimStart text
    refine ⟨gap ++ ':' :: gap', ?_⟩
    rw [List.append_assoc, List.cons_append, ← htext', ← htext]
    exact hrest.symm
  · exact ⟨gap, hrest.symm⟩

/-- The keyword must end, and what follows it must be one line. -/
theorem afterKeyword?_eq_some {line expression : Text} :
    afterKeyword? line = some expression ↔
      ∃ w rest, RangeWord w ∧ line.trimStart = w ++ rest ∧ Ends rest ∧
        expression = expressionOf rest ∧ '\n' ∉ expression := by
  constructor
  · intro h
    unfold afterKeyword? at h
    split at h
    · cases h
    · rename_i rest hword
      obtain ⟨w, hw, hline⟩ := afterRangeWord?_eq_some.1 hword
      obtain ⟨hexpression, hone⟩ := Option.filter_eq_some_iff.1 h
      refine ⟨w, rest, hw, hline, ?_, ?_, isOneLine_iff.1 hone⟩
      · split at hexpression
        · rename_i text htext
          obtain ⟨gap, hgap, hrest⟩ := exists_trimStart rest
          rw [hrest, htext]
          exact ends_colon hgap
        · split at hexpression
          · rename_i hblank
            cases rest with
            | nil => exact Or.inl rfl
            | cons c more => exact Or.inr ⟨c, more, rfl, Or.inl hblank⟩
          · cases hexpression
      · split at hexpression
        · rename_i text htext
          rw [expressionOf_colon htext]
          exact (Option.some.inj hexpression).symm
        · rename_i hcolon
          split at hexpression
          · rw [expressionOf_other hcolon]
            exact (Option.some.inj hexpression).symm
          · cases hexpression
  · intro h
    obtain ⟨w, rest, hw, hline, hends, rfl, hone⟩ := h
    unfold afterKeyword?
    rw [afterRangeWord?_eq_some.2 ⟨w, hw, hline⟩]
    refine Option.filter_eq_some_iff.2 ⟨?_, isOneLine_iff.2 hone⟩
    split
    · rename_i text htext
      rw [expressionOf_colon htext]
    · rename_i hcolon
      have hblank : rest.atBlank = true := by
        rcases hends with rfl | ⟨c, more, rfl, hc | rfl⟩
        · rfl
        · exact hc
        · exact absurd (trimStart_append allBlank_nil (stops_cons.2 (by decide))) (hcolon more)
      rw [if_pos hblank, expressionOf_other hcolon]

/-- Two bounds are two tokens around two dots. -/
theorem bounds?_eq_some {expression first last tail : Text} :
    bounds? expression = some (first, last, tail) ↔
      ∃ u v w : Text, AllBlank u ∧ AllBlank v ∧ AllBlank w ∧
        expression = u ++ first ++ v ++ '.' :: '.' :: (w ++ last ++ tail) ∧
        first.isToken = true ∧ last.isToken = true ∧ Stops isWord tail ∧ '\n' ∉ tail := by
  constructor
  · intro h
    unfold bounds? at h
    obtain ⟨u, hu, hexpression⟩ := exists_trimStart expression
    generalize hspan : expression.trimStart.spanWord = span at h
    obtain ⟨token, rest⟩ := span
    have htoken : expression.trimStart = token ++ rest := by
      rw [← spanWord_append expression.trimStart, hspan]
    obtain ⟨v, hv, hrest⟩ := exists_trimStart rest
    simp only at h
    split at h
    · rename_i more hdots
      obtain ⟨w, hw, hmore⟩ := exists_trimStart more
      generalize hspan' : (trimStart more).spanWord = span' at h
      obtain ⟨token', rest'⟩ := span'
      have htoken' : trimStart more = token' ++ rest' := by
        rw [← spanWord_append (trimStart more), hspan']
      simp only at h
      split at h
      · rename_i hok
        simp only [Bool.and_eq_true, Bool.not_eq_true', List.isEmpty_eq_false_iff] at hok
        obtain ⟨rfl, rfl, rfl⟩ : token = first ∧ token' = last ∧ rest' = tail := by
          simpa using h
        refine ⟨u, v, w, hu, hv, hw, ?_, ?_, ?_, ?_, isOneLine_iff.1 hok.2⟩
        · rw [hexpression, htoken, hrest, hdots, hmore, htoken']
          simp
        · exact isToken_iff.2 ⟨hok.1.1, isWord_of_mem_spanWord hspan⟩
        · exact isToken_iff.2 ⟨hok.1.2, isWord_of_mem_spanWord hspan'⟩
        · exact stops_of_spanWord hspan'
      · cases h
    · cases h
  · intro h
    obtain ⟨u, v, w, hu, hv, hw, rfl, hfirst, hlast, htail, hline⟩ := h
    obtain ⟨hfirstNe, hfirstWord⟩ := isToken_iff.1 hfirst
    obtain ⟨hlastNe, hlastWord⟩ := isToken_iff.1 hlast
    have hstart : trimStart (u ++ first ++ v ++ '.' :: '.' :: (w ++ last ++ tail)) =
        first ++ (v ++ '.' :: '.' :: (w ++ last ++ tail)) := by
      rw [List.append_assoc, List.append_assoc]
      exact trimStart_append hu (stops_isBlank_token hfirst _)
    have hspan := spanWord_run hfirstWord (stops_isWord_of_allBlank hv
      (stops_cons.2 (by decide) : Stops isWord ('.' :: '.' :: (w ++ last ++ tail))))
    have hdots : trimStart (v ++ '.' :: '.' :: (w ++ last ++ tail)) =
        '.' :: '.' :: (w ++ last ++ tail) :=
      trimStart_append hv (stops_cons.2 (by decide))
    have hmore : trimStart (w ++ last ++ tail) = last ++ tail := by
      rw [List.append_assoc]
      exact trimStart_append hw (stops_isBlank_token hlast tail)
    simp only [bounds?, hstart, hspan, hdots, hmore, spanWord_run hlastWord htail]
    simp [hfirstNe, hlastNe, isOneLine_iff.2 hline]

end AddressRange

/-! ## Method calls -/

/-- The text between two enclosing characters, if it stays on one line. -/
theorem Text.enclosed_filter_eq_some {o c : Char} {t inner : Text} :
    (t.enclosed? o c).filter Text.isOneLine = some inner ↔
      t = o :: inner ++ [c] ∧ '\n' ∉ inner := by
  rw [Option.filter_eq_some_iff, enclosed?_eq_some, isOneLine_iff]

/-- A call is a name, blanks and an enclosed argument list. -/
theorem MethodCall.shape?_eq_some {line name args : Text} :
    MethodCall.shape? line = some (name, args) ↔
      ∃ gap : Text, AllBlank gap ∧ line.trim = name ++ gap ++ '(' :: args ++ [')'] ∧
        name.isName = true ∧ '\n' ∉ args := by
  unfold MethodCall.shape?
  constructor
  · intro h
    generalize hspan : line.trim.spanWord = span at h
    obtain ⟨word, rest⟩ := span
    simp only at h
    split at h
    · rename_i hname
      obtain ⟨args', hargs, heq⟩ := Option.map_eq_some_iff.1 h
      obtain ⟨rfl, rfl⟩ : word = name ∧ args' = args := by simpa using heq
      obtain ⟨henclosed, hline⟩ := enclosed_filter_eq_some.1 hargs
      obtain ⟨gap, hgap, hrest⟩ := exists_trimStart rest
      refine ⟨gap, hgap, ?_, hname, hline⟩
      rw [← spanWord_append line.trim, hspan, hrest, henclosed]
      simp
    · cases h
  · intro h
    obtain ⟨gap, hgap, htrim, hname, hline⟩ := h
    have hword := (isToken_iff.1 (isToken_of_isName hname)).2
    have hspan := spanWord_run hword (stops_isWord_of_allBlank hgap
      (stops_cons.2 (by decide) : Stops isWord ('(' :: (args ++ [')']))))
    have hrest : trimStart (gap ++ '(' :: (args ++ [')'])) = '(' :: args ++ [')'] :=
      trimStart_append hgap (stops_cons.2 (by decide))
    have hline' : line.trim = name ++ (gap ++ '(' :: (args ++ [')'])) := by
      rw [htrim]
      simp
    rw [hline', hspan]
    simp only [hname, if_true]
    rw [hrest, enclosed_filter_eq_some.2 ⟨rfl, hline⟩]
    rfl

/-- A call that is read starts with its name, blanks and the opening parenthesis. -/
theorem MethodCall.line_of_read {line : Text} {m : MethodCall}
    (h : MethodCall.read line = .accepted m) :
    ∃ u gap rest : Text, AllBlank u ∧ AllBlank gap ∧ m.methodName.isToken = true ∧
      line = u ++ m.methodName ++ (gap ++ '(' :: rest) := by
  have hshape : ∃ args, MethodCall.shape? line = some (m.methodName, args) := by
    unfold MethodCall.read at h
    split at h
    · cases h
    · rename_i name args hshape
      cases hsplit : Arguments.split args with
      | error cause =>
          rw [hsplit] at h
          cases h
      | ok arguments =>
          rw [hsplit] at h
          cases h
          exact ⟨args, hshape⟩
  obtain ⟨args, hshape⟩ := hshape
  obtain ⟨gap, hgap, htrim, hname, -⟩ := MethodCall.shape?_eq_some.1 hshape
  obtain ⟨u, v, hu, -, hline⟩ := exists_trim line
  refine ⟨u, gap, args ++ [')'] ++ v, hu, hgap, isToken_of_isName hname, ?_⟩
  rw [hline, htrim]
  simp

end MacroBody

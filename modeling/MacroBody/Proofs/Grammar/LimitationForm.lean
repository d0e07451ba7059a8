import MacroBody.Proofs.Grammar.Limitation
import MacroBody.Proofs.Text.TokenList

/-!
# Limitation lines in one step

A limitation line is read in two steps: a line is claimed if it starts with a keyword and has a
separator later on, and a claimed line is read if it has the whole shape.  `Limitation.Form` is the
whole shape, a limitation line taken apart.

Reading in two steps is the same as looking for a form (`read_in_one_step`).  A line that has a form
is claimed (`Form.announced`), so the first step hides none; and a line has one form at most
(`Form.eq_of_text_eq`), so the keyword, the name and the value are settled by the line.  What is
rejected is what is claimed and has no form.
-/

namespace MacroBody

theorem Keyword.name_injective {k k' : Keyword} (h : k.name = k'.name) : k = k' := by
  revert h
  cases k <;> cases k' <;> decide

namespace Limitation

open Text

/-- A limitation line taken apart.  The blanks `u` and `v` stand around the separator. -/
@[ext]
structure Form where
  before : Blanks
  keyword : Keyword
  gap : Gap
  name : Token
  u : Blanks
  separator : Char
  hseparator : separator = ':' ∨ separator = '='
  v : Blanks
  val : Token
  after : Blanks

namespace Form

/-- What stands behind the name. -/
def assigned (f : Form) : Text :=
  f.u.text ++ f.separator :: (f.v.text ++ (f.val.text ++ f.after.text))

/-- The line that is put together. -/
def text (f : Form) : Text :=
  f.before.text ++ (f.keyword.name ++ (f.gap.text ++ (f.name.text ++ f.assigned)))

/-- The limitation that the line describes. -/
def limitation (f : Form) : Limitation where
  keyword := f.keyword
  name := f.name.text
  val := f.val.text

end Form

/-! ## Taking a line apart -/

namespace Form

variable {f g : Form}

theorem isMark_separator (f : Form) : isMark f.separator = true :=
  isMark_of_isSeparator (isSeparator_iff.2 f.hseparator)

theorem stops_separator (f : Form) (rest : Text) : Stops isBlank (f.separator :: rest) :=
  stops_cons.2 (isBlank_of_isMark f.isMark_separator)

/-- The name ends before the blanks and the separator. -/
theorem stops_assigned (f : Form) : Stops isWord f.assigned :=
  stops_isWord_of_allBlank f.u.blank (stops_cons.2 (isWord_of_isMark f.isMark_separator))

/-- **A line can be taken apart in one way only.** -/
theorem eq_of_text_eq (h : f.text = g.text) : f = g := by
  obtain ⟨hbefore, h⟩ := Blanks.unique h (f.keyword.stops_name _) (g.keyword.stops_name _)
  obtain ⟨hkeyword, h⟩ := span_unique f.keyword.isWord_name g.keyword.isWord_name (f.gap.stops _)
    (g.gap.stops _) h
  obtain ⟨hgap, h⟩ := Gap.unique h (f.name.stops _) (g.name.stops _)
  obtain ⟨hname, h⟩ := Token.unique h f.stops_assigned g.stops_assigned
  obtain ⟨hu, h⟩ := Blanks.unique h (f.stops_separator _) (g.stops_separator _)
  obtain ⟨hseparator, h⟩ := List.cons.inj h
  obtain ⟨hv, h⟩ := Blanks.unique h (f.val.stops _) (g.val.stops _)
  obtain ⟨hval, hafter⟩ := Token.unique h f.after.stops g.after.stops
  exact Form.ext hbefore (Keyword.name_injective hkeyword) hgap hname hu hseparator hv hval
    (Blanks.ext hafter)

/-- **A line that has a form is claimed.** -/
theorem announced (f : Form) : Announced f.text := by
  obtain ⟨c, more, hgap⟩ := List.exists_cons_of_ne_nil f.gap.ne
  have hc : isBlank c = true := f.gap.blank c (hgap ▸ List.mem_cons_self)
  have hmem : f.separator ∈ more ++ (f.name.text ++ f.assigned) := by
    simp [assigned]
  refine ⟨f.before.text, f.keyword, c, more ++ (f.name.text ++ f.assigned), f.before.blank, ?_, hc,
    ?_⟩
  · rw [text, hgap]
    simp
  · rcases f.hseparator with heq | heq
    · exact Or.inl (heq ▸ hmem)
    · exact Or.inr (heq ▸ hmem)

end Form

/-! ## Reading in two steps -/

variable {line : Text} {l : Limitation}

/-- **What is read has a form,** and what has a form is read as the form describes it. -/
theorem read_accepted_iff_form (hline : '\n' ∉ line) :
    read line = .accepted l ↔ ∃ f : Form, f.text = line ∧ f.limitation = l := by
  rw [read_accepted_iff hline]
  constructor
  · intro h
    obtain ⟨u, v, gap, c, after, hu, hv, hne, hgap, rfl, hc, hval, hname, hvalToken⟩ := h
    obtain ⟨left, right, hleft, hright, hafter⟩ := exists_trim after
    rw [hval] at hafter
    refine ⟨⟨⟨u, hu⟩, l.keyword, ⟨⟨v, hv⟩, hne⟩, ⟨l.name, hname⟩, ⟨gap, hgap⟩, c,
      isSeparator_iff.1 hc, ⟨left, hleft⟩, ⟨l.val, hvalToken⟩, ⟨right, hright⟩⟩, ?_, rfl⟩
    rw [hafter]
    simp [Form.text, Form.assigned]
  · intro h
    obtain ⟨f, rfl, rfl⟩ := h
    refine ⟨f.before.text, f.gap.text, f.u.text, f.separator,
      f.v.text ++ f.val.text ++ f.after.text, f.before.blank, f.gap.blank, f.gap.ne, f.u.blank, ?_,
      isSeparator_iff.2 f.hseparator, ?_, f.name.isToken, f.val.isToken⟩
    · simp [Form.text, Form.assigned, Form.limitation]
    · exact trim_append f.v.blank f.after.blank (tight_of_isToken f.val.isToken)

/-- A line has a form if and only if it is read. -/
theorem exists_form_iff (hline : '\n' ∉ line) :
    (∃ f : Form, f.text = line) ↔ ∃ l, read line = .accepted l := by
  constructor
  · intro h
    obtain ⟨f, hf⟩ := h
    exact ⟨f.limitation, (read_accepted_iff_form hline).2 ⟨f, hf, rfl⟩⟩
  · intro h
    obtain ⟨l, hl⟩ := h
    obtain ⟨f, hf, -⟩ := (read_accepted_iff_form hline).1 hl
    exact ⟨f, hf⟩

/-- **Reading in two steps is looking for a form.**  A line is read if it has a form, and it has one
at most; it is rejected, as a whole, if it has none and is announced by a keyword and a separator;
and in every other case it is left alone.  A line that has a form is announced. -/
theorem read_in_one_step (hline : '\n' ∉ line) :
    (∀ l, read line = .accepted l ↔ ∃ f : Form, f.text = line ∧ f.limitation = l) ∧
    (∀ f g : Form, f.text = line → g.text = line → f = g) ∧
    (∀ cause, read line = .rejected cause ↔
      cause = .badLimitation line.trim ∧ (¬ ∃ f : Form, f.text = line) ∧ Announced line) ∧
    (read line = .noMatch ↔ (¬ ∃ f : Form, f.text = line) ∧ ¬ Announced line) ∧
    ∀ f : Form, f.text = line → Announced line := by
  refine ⟨fun l => read_accepted_iff_form hline, ?_, ?_, ?_, ?_⟩
  · intro f g hf hg
    exact Form.eq_of_text_eq (hf.trans hg.symm)
  · intro cause
    rw [exists_form_iff hline]
    constructor
    · intro h
      exact ⟨cause_of_read_rejected h, by simp [h], announced_of_isDecisive (by simp [h])⟩
    · intro h
      obtain ⟨rfl, hnone, hannounced⟩ := h
      exact read_eq_rejected hline hannounced (not_exists.1 hnone)
  · rw [exists_form_iff hline]
    constructor
    · intro h
      refine ⟨by simp [h], ?_⟩
      intro hannounced
      have hdecisive := isDecisive_of_announced hline hannounced
      rw [h] at hdecisive
      cases hdecisive
    · intro h
      obtain ⟨hnone, hleft⟩ := h
      cases hread : read line with
      | noMatch => rfl
      | rejected cause => exact absurd (announced_of_isDecisive (by simp [hread])) hleft
      | accepted l => exact absurd ⟨l, hread⟩ hnone
  · intro f hf
    exact hf ▸ f.announced

/-- A keyword as the name, and no blank before the separator; a second separator spoils the line. -/
theorem read_in_one_step_add :
    (∃ f : Form, f.text = " set\tadd= rm ".toList ∧
      f.limitation = ⟨.set, "add".toList, "rm".toList⟩) ∧
    read "rm add := x ".toList = .rejected (.badLimitation "rm add := x".toList) ∧
    ¬ ∃ f : Form, f.text = "rm add := x ".toList := by
  have hrejected :
      read "rm add := x ".toList = .rejected (.badLimitation "rm add := x".toList) := by
    decide
  exact ⟨((read_in_one_step (by decide)).1 _).1 (by decide), hrejected,
    (((read_in_one_step (by decide)).2.2.1 _).1 hrejected).2.1⟩

end Limitation

end MacroBody

import MacroBody.Proofs.Scan.Course

/-!
# Which lines are left out

A comment is meant to be a line that starts with the comment mark once it is trimmed, and a blank
line one that is empty without its terminator (`ScanOptions.LeftOut`).  The scan looks for the
comment mark later, in what the terminator leaves of the line.  For most lines this is the same.  It
is not if the terminator begins inside the mark: then the line no longer starts with the mark, and it
is read (`ScanOptions.Uncovers`).

These lines are the only exception (`ScanOptions.reads_iff`), so the lines of a report are those that
are not left out by the rule, and these (`scan_leaves_out_comments`).  With `;;` before a comment and
`;` after a line there is one of them, the comment without any text
(`scan_reads_comment_without_text`).
-/

namespace MacroBody

open Text

namespace Text

/-- An ending is dropped off the text before it. -/
theorem dropEnding_append (front ending : Text) : dropEnding (front ++ ending) ending = front := by
  simp [dropEnding]

/-- Either the text is left as it is, or it ends with the ending. -/
theorem dropEnding_cases (t ending : Text) :
    t.dropEnding ending = t ∨ t = t.dropEnding ending ++ ending := by
  by_cases h : ending <:+ t
  · obtain ⟨front, rfl⟩ := h
    rw [dropEnding_append]
    exact Or.inr rfl
  · left
    rw [dropEnding, if_neg (by simpa using h)]

end Text

namespace ScanOptions

/-- A line is meant to be left out: trimmed, it starts with the comment mark `start`, or blank lines
are skipped and it is empty without its terminator. -/
def LeftOut (o : ScanOptions) (start raw : Text) : Prop :=
  start <+: raw.trim ∨ o.skipBlank = true ∧ o.prepare raw = []

/-- The terminator of the line begins inside the comment mark `start` with which the line starts, and
what is before it is not skipped as a blank line. -/
def Uncovers (o : ScanOptions) (start raw : Text) : Prop :=
  ∃ terminator front rest, o.terminator = some terminator ∧ raw.trim = front ++ terminator ∧
    start = front ++ rest ∧ rest ≠ [] ∧ rest <+: terminator ∧ (front = [] → o.skipBlank = false)

variable {o : ScanOptions} {start raw text terminator front : Text}

/-! ## One line -/

theorem prepare_of_terminator (h : o.terminator = some terminator)
    (hraw : raw.trim = front ++ terminator) : o.prepare raw = front := by
  rw [prepare, h]
  simp only [hraw, dropEnding_append]

/-- A prepared line is the trimmed line, or the trimmed line ends with the terminator. -/
theorem prepare_cases (o : ScanOptions) (raw : Text) :
    o.prepare raw = raw.trim ∨
      ∃ terminator, o.terminator = some terminator ∧ raw.trim = o.prepare raw ++ terminator := by
  unfold prepare
  cases h : o.terminator with
  | none => exact Or.inl rfl
  | some terminator =>
      rcases dropEnding_cases raw.trim terminator with hsame | hends
      · exact Or.inl hsame
      · exact Or.inr ⟨terminator, rfl, hends⟩

theorem prepare_prefix (o : ScanOptions) (raw : Text) : o.prepare raw <+: raw.trim := by
  rcases o.prepare_cases raw with hsame | ⟨terminator, -, hraw⟩
  · exact hsame ▸ List.prefix_rfl
  · exact ⟨terminator, hraw.symm⟩

/-- The text that is tested is skipped if it starts with the comment mark, or if it is empty and
blank lines are skipped. -/
theorem skips_iff (hstart : o.commentStart = some start) (hne : start ≠ []) :
    o.skips text = true ↔ start <+: text ∨ o.skipBlank = true ∧ text = [] := by
  cases text with
  | nil => simp [skips, hne]
  | cons c rest => simp [skips, hstart]

/-- **A line is read if it is not to be left out, or if its terminator uncovers it.** -/
theorem reads_iff (hstart : o.commentStart = some start) (hne : start ≠ []) :
    o.skips (o.prepare raw) = false ↔ ¬ o.LeftOut start raw ∨ o.Uncovers start raw := by
  rw [← Bool.not_eq_true, skips_iff hstart hne]
  constructor
  · intro hreads
    obtain ⟨hmark, hblank⟩ := not_or.1 hreads
    by_cases hcomment : start <+: raw.trim
    · rcases o.prepare_cases raw with hsame | ⟨terminator, hterminator, hraw⟩
      · exact absurd (hsame ▸ hcomment) hmark
      · -- Both the mark and what is prepared start the line, so one of them starts the other.
        obtain ⟨rest, hrest⟩ : o.prepare raw <+: start :=
          (List.prefix_or_prefix_of_prefix hcomment (o.prepare_prefix raw)).resolve_left hmark
        refine Or.inr ⟨terminator, o.prepare raw, rest, hterminator, hraw, hrest.symm, ?_, ?_, ?_⟩
        · rintro rfl
          rw [List.append_nil] at hrest
          exact hmark (hrest ▸ List.prefix_rfl)
        · rw [← hrest, hraw] at hcomment
          exact (List.prefix_append_right_inj _).1 hcomment
        · intro hempty
          exact Bool.eq_false_iff.2 fun hskip => hblank ⟨hskip, hempty⟩
    · exact Or.inl (not_or.2 ⟨hcomment, hblank⟩)
  · intro h
    rcases h with hkept | ⟨terminator, front, rest, hterminator, hraw, rfl, hrest, -, hblank⟩
    · obtain ⟨hcomment, hblank⟩ := not_or.1 hkept
      exact not_or.2 ⟨fun hmark => hcomment (hmark.trans (o.prepare_prefix raw)), hblank⟩
    · rw [prepare_of_terminator hterminator hraw]
      refine not_or.2 ⟨?_, ?_⟩
      · intro hmark
        have hlength := hmark.length_le
        rw [List.length_append] at hlength
        exact hrest (List.length_eq_zero_iff.1 (by omega))
      · intro h
        obtain ⟨hskip, hempty⟩ := h
        rw [hblank hempty] at hskip
        cases hskip

/-- A line that is uncovered was meant to be left out. -/
theorem Uncovers.leftOut (h : o.Uncovers start raw) : o.LeftOut start raw := by
  obtain ⟨terminator, front, rest, -, hraw, rfl, -, hrest, -⟩ := h
  left
  rw [hraw]
  exact (List.prefix_append_right_inj front).2 hrest

/-- No line is uncovered if no end of the comment mark starts the terminator. -/
theorem not_uncovers (h : ∀ terminator rest, o.terminator = some terminator → rest ≠ [] →
    rest <:+ start → ¬ rest <+: terminator) : ¬ o.Uncovers start raw := by
  intro huncovers
  obtain ⟨terminator, front, rest, hterminator, -, rfl, hne, hrest, -⟩ := huncovers
  exact h terminator rest hterminator hne (List.suffix_append front rest) hrest

/-! ## All lines -/

/-- The numbers of the lines that are reported are those of the lines that are not skipped. -/
theorem Course.map_line [PatternCompiler] {number : Nat} {scope final : Scope}
    {lines : List Text} {reports : List LineReport} (h : Course o number scope lines reports final) :
    reports.map (·.line) =
      ((lines.zipIdx (number + 1)).filter fun l => !o.skips (o.prepare l.1)).map (·.2) := by
  induction h with
  | done number scope => rfl
  | skipped hskips tail ih => simpa [hskips] using ih
  | read hreads hreport tail ih =>
      rw [hreport]
      simpa [hreads, report] using ih

end ScanOptions

/-- The lines of a report are those that are not skipped. -/
theorem line_mem_scan_iff [PatternCompiler] (o : ScanOptions) (source : Text) (n : Nat) :
    (∃ r ∈ (scan o source).lines, r.line = n) ↔
      ∃ raw, (raw, n) ∈ source.lines.zipIdx 1 ∧ o.skips (o.prepare raw) = false := by
  obtain ⟨final, hcourse, -⟩ := scan_course o source
  rw [← List.mem_map, hcourse.map_line]
  simp

variable {o : ScanOptions} {start : Text}

/-- **Which lines are left out.**  A report has the lines that are not to be left out, and in
addition those that the terminator uncovers.  So it has exactly the lines that are not to be left out
if and only if no line of the body is uncovered, and none is if no end of the comment mark starts the
terminator. -/
theorem scan_leaves_out_comments [PatternCompiler] (hstart : o.commentStart = some start)
    (hne : start ≠ []) (source : Text) :
    (∀ n, (∃ r ∈ (scan o source).lines, r.line = n) ↔
      ∃ raw, (raw, n) ∈ source.lines.zipIdx 1 ∧ (¬ o.LeftOut start raw ∨ o.Uncovers start raw)) ∧
    ((∀ n, (∃ r ∈ (scan o source).lines, r.line = n) ↔
        ∃ raw, (raw, n) ∈ source.lines.zipIdx 1 ∧ ¬ o.LeftOut start raw) ↔
      ∀ raw ∈ source.lines, ¬ o.Uncovers start raw) ∧
    ((∀ terminator rest, o.terminator = some terminator → rest ≠ [] → rest <:+ start →
        ¬ rest <+: terminator) →
      ∀ raw ∈ source.lines, ¬ o.Uncovers start raw) := by
  have hlines : ∀ n, (∃ r ∈ (scan o source).lines, r.line = n) ↔
      ∃ raw, (raw, n) ∈ source.lines.zipIdx 1 ∧
        (¬ o.LeftOut start raw ∨ o.Uncovers start raw) := by
    intro n
    simp only [line_mem_scan_iff, ScanOptions.reads_iff hstart hne]
  refine ⟨hlines, ⟨?_, ?_⟩, fun h raw _ => ScanOptions.not_uncovers h⟩
  · intro hrule raw hraw huncovers
    obtain ⟨i, hi⟩ := List.mem_iff_getElem?.1 hraw
    have hmem : (raw, i + 1) ∈ source.lines.zipIdx 1 := by
      rw [List.mem_zipIdx_iff_le_and_getElem?_sub]
      exact ⟨by omega, by simpa using hi⟩
    obtain ⟨raw', hmem', hkept⟩ :=
      (hrule (i + 1)).1 ((hlines (i + 1)).2 ⟨raw, hmem, Or.inr huncovers⟩)
    have hraw' := (List.mem_zipIdx_iff_le_and_getElem?_sub.1 hmem').2
    obtain rfl : raw = raw' := by simpa [hi] using hraw'
    exact hkept huncovers.leftOut
  · intro hnone n
    rw [hlines n]
    constructor
    · intro h
      obtain ⟨raw, hmem, hkept | huncovers⟩ := h
      · exact ⟨raw, hmem, hkept⟩
      · exact absurd huncovers (hnone raw (List.fst_mem_of_mem_zipIdx hmem))
    · intro h
      obtain ⟨raw, hmem, hkept⟩ := h
      exact ⟨raw, hmem, Or.inl hkept⟩

/-- With `//` before a comment and `;` after a line the rule holds of a body that mixes both. -/
theorem scan_leaves_out_comments_slashes :
    ({} : ScanOptions).commentStart = some "//".toList ∧ "//".toList ≠ [] ∧
      ∀ n, (∃ r ∈ (scan {} "a;\n// b;\n/;/\n //;\n;\n".toList).lines, r.line = n) ↔
        ∃ raw, (raw, n) ∈ (Text.lines "a;\n// b;\n/;/\n //;\n;\n".toList).zipIdx 1 ∧
          ¬ ({} : ScanOptions).LeftOut "//".toList raw := by
  have hstart : ({} : ScanOptions).commentStart = some "//".toList := rfl
  have hne : "//".toList ≠ [] := by decide
  have happart : ∀ terminator rest : Text, ({} : ScanOptions).terminator = some terminator →
      rest ≠ [] → rest <:+ "//".toList → ¬ rest <+: terminator := by
    intro terminator rest hterminator hrest hsuffix hterm
    obtain rfl : [';'] = terminator := Option.some.inj hterminator
    obtain ⟨c, more, rfl⟩ := List.exists_cons_of_ne_nil hrest
    have hslash : c ∈ "//".toList := hsuffix.mem List.mem_cons_self
    have hsemicolon : c ∈ [';'] := hterm.mem List.mem_cons_self
    simp_all
  obtain ⟨-, hrule, hnone⟩ :=
    scan_leaves_out_comments hstart hne "a;\n// b;\n/;/\n //;\n;\n".toList
  exact ⟨hstart, hne, hrule.2 (hnone happart)⟩

/-- With `;;` before a comment and `;` after a line, a comment without text is read. -/
theorem scan_reads_comment_without_text :
    ";;".toList <+: Text.trim ";;".toList ∧
      ¬ ((∃ r ∈ (scan { commentStart := some ";;".toList } ";;".toList).lines, r.line = 1) ↔
        ∃ raw, (raw, 1) ∈ (Text.lines ";;".toList).zipIdx 1 ∧
          ¬ ScanOptions.LeftOut { commentStart := some ";;".toList } ";;".toList raw) := by
  have hcomment : ";;".toList <+: Text.trim ";;".toList := by
    decide
  have hread : (scan { commentStart := some ";;".toList } ";;".toList).lines.map (·.line) = [1] := by
    decide
  refine ⟨hcomment, ?_⟩
  intro h
  obtain ⟨raw, hmem, hkept⟩ := h.1 (List.mem_map.1 (hread ▸ List.mem_cons_self))
  obtain rfl : raw = ";;".toList := List.mem_singleton.1 (List.fst_mem_of_mem_zipIdx hmem)
  exact hkept (Or.inl hcomment)

end MacroBody

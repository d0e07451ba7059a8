import MacroBody.Proofs.Grammar.Marker

/-!
# Limitation lines in full

A claimed limitation line is either read or rejected with the whole line as its cause.  This file
says which lines are read, as one written shape, and what is left of that shape when the line is
known to have another head.

* `Limitation.read_accepted_iff` — a keyword, blanks, a token, a separator and a token;
* `Limitation.read_accepted_iff_head` — before a colon that is the first mark of the line, the shape
  is that of the trimmed text: keyword, blanks, token.
-/

namespace MacroBody.Limitation

open Text

theorem isMark_of_isSeparator {c : Char} (h : isSeparator c = true) : isMark c = true := by
  rcases isSeparator_iff.1 h with rfl | rfl
  · rfl
  · rfl

/-- No separator stands among characters that are no marks. -/
theorem isSeparator_of_plain {t : Text} (h : Plain t) : ∀ c ∈ t, isSeparator c = false := by
  intro c hc
  by_contra hsep
  have hmark := isMark_of_isSeparator (by simpa using hsep)
  rw [h c hc] at hmark
  cases hmark

/-- The keyword and the name enclose the blanks between them. -/
theorem tight_keyword_name {k : Keyword} {v name : Text} (hname : name.isToken = true) :
    Tight (k.name ++ v ++ name) := by
  constructor
  · rw [List.append_assoc]
    exact k.stops_name _
  · rw [List.reverse_append]
    have hreverse : Text.isToken name.reverse = true := by
      obtain ⟨hne, hword⟩ := isToken_iff.1 hname
      exact isToken_iff.2 ⟨by simpa using hne, fun c hc => hword c (List.mem_reverse.1 hc)⟩
    exact stops_isBlank_token hreverse _

/-- Nothing before the separator is a mark. -/
theorem plain_front {k : Keyword} {u v name gap : Text} (hu : AllBlank u) (hv : AllBlank v)
    (hname : name.isToken = true) (hgap : AllBlank gap) :
    Plain (u ++ (k.name ++ v ++ name) ++ gap) := by
  have hplain : Plain (k.name ++ v ++ name) :=
    plain_append.2 ⟨plain_append.2 ⟨plain_of_isWord k.isWord_name, hv.plain⟩,
      plain_of_isWord (isToken_iff.1 hname).2⟩
  exact plain_append.2 ⟨plain_append.2 ⟨hu.plain, hplain⟩, hgap.plain⟩

/-- **What a limitation line is**, if the text is one line. -/
theorem read_accepted_iff {line : Text} {l : Limitation} (hline : '\n' ∉ line) :
    read line = .accepted l ↔
      ∃ (u v gap : Text) (c : Char) (after : Text),
        AllBlank u ∧ AllBlank v ∧ v ≠ [] ∧ AllBlank gap ∧
        line = u ++ (l.keyword.name ++ v ++ l.name) ++ gap ++ c :: after ∧
        isSeparator c = true ∧ after.trim = l.val ∧ l.name.isToken = true ∧
        l.val.isToken = true := by
  constructor
  · intro h
    unfold read at h
    split at h
    · cases h
    · rename_i k rest hkeyword
      split at h
      · split at h
        · rename_i name val hassignment
          cases h
          obtain ⟨c₀, more, hstart, hc₀, rfl⟩ := keyword?_eq_some.1 hkeyword
          obtain ⟨before, c, after, hrest, hc, -, htrim, hval, hnameToken, hvalToken⟩ :=
            assignment?_eq_some.1 hassignment
          obtain ⟨u, hu, hu'⟩ := exists_trimStart line
          obtain ⟨skipped, hskipped, hmore⟩ := exists_trimStart more
          obtain ⟨left, gap, hleft, hgap, hbefore⟩ := exists_trim before
          refine ⟨u, c₀ :: (skipped ++ left), gap, c, after, hu, ?_, by simp, hgap, ?_, hc, hval,
            hnameToken, hvalToken⟩
          · exact List.forall_mem_cons.2 ⟨hc₀, allBlank_append.2 ⟨hskipped, hleft⟩⟩
          · rw [hu', hstart, hmore, hrest, hbefore, htrim]
            simp
        · cases h
      · cases h
  · intro h
    obtain ⟨u, v, gap, c, after, hu, hv, hne, hgap, rfl, hc, hval, hname, hvalToken⟩ := h
    obtain ⟨c₀, v, rfl⟩ := List.exists_cons_of_ne_nil hne
    obtain ⟨hc₀, hv⟩ := List.forall_mem_cons.1 hv
    have hskip : trimStart (v ++ (l.name ++ (gap ++ c :: after))) =
        l.name ++ (gap ++ c :: after) :=
      trimStart_append hv (stops_isBlank_token hname _)
    have hkeyword : keyword?
        (u ++ (l.keyword.name ++ (c₀ :: v) ++ l.name) ++ gap ++ c :: after) =
          some (l.keyword, l.name ++ (gap ++ c :: after)) := by
      refine keyword?_eq_some.2 ⟨c₀, v ++ (l.name ++ (gap ++ c :: after)), ?_, hc₀, hskip.symm⟩
      simp only [List.append_assoc, List.cons_append]
      exact trimStart_append hu (l.keyword.stops_name _)
    have hone : '\n' ∉ l.name ++ (gap ++ c :: after) := by
      intro hmem
      apply hline
      simp only [List.append_assoc, List.cons_append, List.mem_append, List.mem_cons] at hmem ⊢
      tauto
    have hplain : Plain (l.name ++ gap) :=
      plain_append.2 ⟨plain_of_isWord (isToken_iff.1 hname).2, hgap.plain⟩
    have hassignment : assignment? (l.name ++ (gap ++ c :: after)) = some (l.name, l.val) := by
      refine assignment?_eq_some.2 ⟨l.name ++ gap, c, after, by simp, hc,
        isSeparator_of_plain hplain, ?_, hval, hname, hvalToken⟩
      exact trim_append allBlank_nil hgap (tight_of_isWord (isToken_iff.1 hname).2)
    rw [read_of_separator hkeyword hone (by simp) hc, hassignment]

/-- The only rejection is that of the whole line. -/
theorem cause_of_read_rejected {line : Text} {cause : GrammarError}
    (h : read line = .rejected cause) : cause = .badLimitation line.trim := by
  unfold read at h
  split at h
  · cases h
  · split at h
    · split at h
      · cases h
      · cases h
        rfl
    · cases h

/-- A claimed line that is not read is rejected as a whole. -/
theorem read_eq_rejected {line : Text} (hline : '\n' ∉ line) (hannounced : Announced line)
    (h : ∀ l, read line ≠ .accepted l) : read line = .rejected (.badLimitation line.trim) := by
  have hdecisive := isDecisive_of_announced hline hannounced
  cases hread : read line with
  | noMatch =>
      rw [hread] at hdecisive
      cases hdecisive
  | rejected cause => rw [cause_of_read_rejected hread]
  | accepted l => exact absurd hread (h l)

/-- Before a colon that is the first mark, the trimmed text alone tells a limitation. -/
theorem read_accepted_iff_head {before rest : Text} {l : Limitation}
    (hline : '\n' ∉ before ++ ':' :: rest) (hplain : Plain before) :
    read (before ++ ':' :: rest) = .accepted l ↔
      rest.trim = l.val ∧ l.val.isToken = true ∧ l.name.isToken = true ∧
        ∃ v, AllBlank v ∧ v ≠ [] ∧ before.trim = l.keyword.name ++ v ++ l.name := by
  rw [read_accepted_iff hline]
  constructor
  · intro h
    obtain ⟨u, v, gap, c, after, hu, hv, hne, hgap, heq, hc, hval, hname, hvalToken⟩ := h
    obtain ⟨rfl, rfl, rfl⟩ := first_mark_unique hplain (plain_front hu hv hname hgap) rfl
      (isMark_of_isSeparator hc) heq
    exact ⟨hval, hvalToken, hname, v, hv, hne, trim_append hu hgap (tight_keyword_name hname)⟩
  · intro h
    obtain ⟨hval, hvalToken, hname, v, hv, hne, htrim⟩ := h
    obtain ⟨u, gap, hu, hgap, hbefore⟩ := exists_trim before
    rw [htrim] at hbefore
    exact ⟨u, v, gap, ':', rest, hu, hv, hne, hgap, by rw [← hbefore], rfl, hval, hname, hvalToken⟩

/-- No limitation has a parenthesis as its first mark. -/
theorem read_ne_accepted_of_paren {front rest : Text} (hline : '\n' ∉ front ++ '(' :: rest)
    (hplain : Plain front) (l : Limitation) : read (front ++ '(' :: rest) ≠ .accepted l := by
  rw [Ne, read_accepted_iff hline]
  intro h
  obtain ⟨u, v, gap, c, after, hu, hv, -, hgap, heq, hc, -, hname, -⟩ := h
  obtain ⟨-, rfl, -⟩ := first_mark_unique hplain (plain_front hu hv hname hgap) rfl
    (isMark_of_isSeparator hc) heq
  cases hc

/-- After a token, a limitation is announced exactly if the token is a keyword and a blank follows
it, with a separator later on. -/
theorem announced_iff_of_token {u name tail : Text} (hu : AllBlank u) (hname : name.isToken = true)
    (htail : Stops isWord tail) :
    Announced (u ++ name ++ tail) ↔
      ∃ (k : Keyword) (c : Char) (more : Text), name = k.name ∧ tail = c :: more ∧
        isBlank c = true ∧ (':' ∈ more ∨ '=' ∈ more) := by
  constructor
  · intro h
    obtain ⟨blanks, k, c, more, hblanks, heq, hc, hsep⟩ := h
    have hstart : name ++ tail = k.name ++ c :: more := by
      rw [List.append_assoc, List.append_assoc] at heq
      rw [← trimStart_append hu (stops_isBlank_token hname tail), heq,
        trimStart_append hblanks (k.stops_name _)]
    obtain ⟨hk, htail'⟩ := span_unique (isToken_iff.1 hname).2 k.isWord_name htail
      (stops_cons.2 (isWord_of_isBlank hc)) hstart
    exact ⟨k, c, more, hk, htail', hc, hsep⟩
  · intro h
    obtain ⟨k, c, more, rfl, rfl, hc, hsep⟩ := h
    exact ⟨u, k, c, more, hu, rfl, hc, hsep⟩

end MacroBody.Limitation

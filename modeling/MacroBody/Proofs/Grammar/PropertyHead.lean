import MacroBody.Grammar.Property
import MacroBody.Proofs.Text.Basic

/-!
# The head of a property line

Two scanners look for the head of a property line.  One takes the shortest name of one or more words
that a colon follows, the other one the longest token.  Both end at the same place: no name and no
blank holds a colon, so it is the first one of the line, and the name is what stands before it without
the blanks around it.

So each scanner is the cut at the first colon with a check of the name (`phraseHead?_eq`,
`tokenHead?_eq`), and the readers are three ways to go on from this cut (`Property.read_eq`,
`Property.readAnyValue_eq`, `PropertyList.read_eq`).  The key local fact is `notBefore_colon_iff`: a
name is extended no further than it has to be exactly if it does not end with a blank.
-/

namespace MacroBody

open Text

namespace Text

/-! ## Shortest runs -/

variable {α : Type} {p : Char → Bool} {next? : Text → Option α} {c : Char} {t run later : Text}
  {found : α}

/-- Nothing is found from any place within the run. -/
def NotBefore (next? : Text → Option α) (run later : Text) : Prop :=
  ∀ front back, run = front ++ back → back ≠ [] → next? (back ++ later) = none

theorem notBefore_nil (next? : Text → Option α) (later : Text) :
    NotBefore next? [] later := by
  intro front back hrun hne
  exact absurd (List.append_eq_nil_iff.1 hrun.symm).2 hne

theorem notBefore_cons :
    NotBefore next? (c :: run) later ↔
      next? (c :: (run ++ later)) = none ∧ NotBefore next? run later := by
  constructor
  · intro h
    refine ⟨h [] (c :: run) rfl (by simp), fun front back hrun hne => ?_⟩
    exact h (c :: front) back (by simp [hrun]) hne
  · intro h front back hrun hne
    obtain ⟨hfirst, hlater⟩ := h
    cases front with
    | nil =>
        obtain rfl : c :: run = back := hrun
        exact hfirst
    | cons c' front =>
        obtain ⟨-, hrun⟩ := List.cons.inj hrun
        exact hlater front back hrun hne

/-- Where something is found at once, the run is empty. -/
theorem shortest?_of_found (h : next? t = some found) :
    shortest? p next? t = some ([], found) := by
  rw [shortest?.eq_def, h]

/-- Where nothing is found, the run takes a character of the class and goes on. -/
theorem shortest?_cons_eq_some (h : next? (c :: t) = none) :
    shortest? p next? (c :: t) = some (run, found) ↔
      p c = true ∧ ∃ more, shortest? p next? t = some (more, found) ∧ run = c :: more := by
  rw [shortest?, h]
  by_cases hc : p c = true
  · simp only [hc, if_true, true_and, Option.map_eq_some_iff, Prod.exists, Prod.mk.injEq]
    constructor
    · rintro ⟨more, found', hmore, rfl, rfl⟩
      exact ⟨more, hmore, rfl⟩
    · rintro ⟨more, hmore, rfl⟩
      exact ⟨more, found, hmore, rfl, rfl⟩
  · simp [hc]

/-- **The shortest run ends at the first place where something is found.** -/
theorem shortest?_eq_some :
    shortest? p next? t = some (run, found) ↔
      ∃ later, t = run ++ later ∧ (∀ c ∈ run, p c = true) ∧ next? later = some found ∧
        NotBefore next? run later := by
  constructor
  · intro h
    induction t generalizing run with
    | nil =>
        cases hnext : next? [] with
        | none => simp [shortest?, hnext] at h
        | some found' =>
            obtain ⟨rfl, rfl⟩ : [] = run ∧ found' = found := by
              simpa [shortest?_of_found hnext] using h
            exact ⟨[], rfl, by simp, hnext, notBefore_nil next? []⟩
    | cons c t ih =>
        cases hnext : next? (c :: t) with
        | none =>
            obtain ⟨hc, more, hmore, rfl⟩ := (shortest?_cons_eq_some hnext).1 h
            obtain ⟨later, rfl, hrun, hfound, hearlier⟩ := ih hmore
            exact ⟨later, rfl, List.forall_mem_cons.2 ⟨hc, hrun⟩, hfound,
              notBefore_cons.2 ⟨hnext, hearlier⟩⟩
        | some found' =>
            obtain ⟨rfl, rfl⟩ : [] = run ∧ found' = found := by
              simpa [shortest?_of_found hnext] using h
            exact ⟨c :: t, rfl, by simp, hnext, notBefore_nil next? _⟩
  · intro h
    obtain ⟨later, rfl, hrun, hfound, hearlier⟩ := h
    induction run with
    | nil => exact shortest?_of_found hfound
    | cons c run ih =>
        obtain ⟨hc, hrun⟩ := List.forall_mem_cons.1 hrun
        obtain ⟨hnext, hearlier⟩ := notBefore_cons.1 hearlier
        exact (shortest?_cons_eq_some hnext).2 ⟨hc, run, ih hrun hearlier, rfl⟩

end Text

namespace Property

/-- Whether `t` is a word character followed by word characters, spaces, tabs and hyphens. -/
def isPhrase : Text → Bool
  | [] => false
  | c :: rest => isWord c && rest.all isNameChar

/-- The name before the first colon, if it is one that `accept` takes, and the rest of the line. -/
def head? (accept : Text → Bool) (line : Text) : Option (Text × Text) :=
  match line.cut? (· = ':') with
  | some (before, rest) =>
    if accept before.trim && rest.isOneLine then some (before.trim, rest) else none
  | none => none

/-! ## Names -/

/-- What a name of several words is made of. -/
theorem isPhrase_iff {t : Text} :
    isPhrase t = true ↔
      ∃ c rest, t = c :: rest ∧ isWord c = true ∧
        ∀ x ∈ rest, isWord x = true ∨ x = ' ' ∨ x = '\t' ∨ x = '-' := by
  cases t with
  | nil => simp [isPhrase]
  | cons c rest =>
      simp only [isPhrase, isNameChar, Bool.and_eq_true, List.all_eq_true,
        Bool.or_eq_true, decide_eq_true_eq, or_assoc]
      constructor
      · intro h
        obtain ⟨hc, hrest⟩ := h
        exact ⟨c, rest, rfl, hc, hrest⟩
      · intro h
        obtain ⟨c', rest', heq, hc, hrest⟩ := h
        cases heq
        exact ⟨hc, hrest⟩

/-- A token is a name of one word. -/
theorem isPhrase_of_isToken {t : Text} (h : t.isToken = true) :
    isPhrase t = true := by
  obtain ⟨hne, hword⟩ := isToken_iff.1 h
  obtain ⟨c, rest, rfl⟩ := List.exists_cons_of_ne_nil hne
  refine isPhrase_iff.2 ⟨c, rest, rfl, hword c List.mem_cons_self, ?_⟩
  intro x hx
  exact Or.inl (hword x (List.mem_cons_of_mem _ hx))

/-- A name of one or more words holds no mark. -/
theorem plain_of_isPhrase {t : Text} (h : isPhrase t = true) : Plain t := by
  obtain ⟨c, rest, rfl, hc, hrest⟩ := isPhrase_iff.1 h
  intro x hx
  rcases List.mem_cons.1 hx with rfl | hx
  · exact isMark_eq_false (Or.inl hc)
  · rcases hrest x hx with hx | rfl | rfl | rfl
    · exact isMark_eq_false (Or.inl hx)
    · rfl
    · rfl
    · rfl

/-! ## The cut at the first colon -/

/-- The head of a property line ends at the first colon. -/
theorem head?_eq_some {accept : Text → Bool} {line name rest : Text} :
    head? accept line = some (name, rest) ↔
      ∃ before, line = before ++ ':' :: rest ∧ ':' ∉ before ∧ before.trim = name ∧
        accept name = true ∧ '\n' ∉ rest := by
  unfold head?
  constructor
  · intro h
    split at h
    · rename_i before after hcut
      split at h
      · rename_i haccept
        simp only [Bool.and_eq_true] at haccept
        obtain ⟨rfl, rfl⟩ : before.trim = name ∧ after = rest := by simpa using h
        obtain ⟨c, hc, rfl, hbefore⟩ := cut?_eq_some_iff.1 hcut
        obtain rfl : c = ':' := by simpa using hc
        refine ⟨before, rfl, ?_, rfl, haccept.1, isOneLine_iff.1 haccept.2⟩
        intro hmem
        simpa using hbefore ':' hmem
      · cases h
    · cases h
  · intro h
    obtain ⟨before, rfl, hcolon, rfl, haccept, hline⟩ := h
    have hcut : cut? (· = ':') (before ++ ':' :: rest) = some (before, rest) := by
      refine cut?_eq_some_iff.2 ⟨':', by simp, rfl, ?_⟩
      intro x hx
      simpa using fun heq : x = ':' => hcolon (heq ▸ hx)
    rw [hcut]
    simp [haccept, isOneLine_iff.2 hline]

/-- A name that holds no mark has blanks around it and the first colon behind it. -/
theorem head?_eq_some_iff_written {accept : Text → Bool} {line name rest : Text}
    (hplain : accept name = true → Plain name) :
    head? accept line = some (name, rest) ↔
      ∃ u v, AllBlank u ∧ AllBlank v ∧ line = u ++ name ++ v ++ ':' :: rest ∧ Tight name ∧
        accept name = true ∧ '\n' ∉ rest := by
  rw [head?_eq_some]
  constructor
  · intro h
    obtain ⟨before, rfl, -, hname, haccept, hline⟩ := h
    obtain ⟨htight, u, v, hu, hv, rfl⟩ := trim_eq_iff.1 hname
    exact ⟨u, v, hu, hv, rfl, htight, haccept, hline⟩
  · intro h
    obtain ⟨u, v, hu, hv, rfl, htight, haccept, hline⟩ := h
    refine ⟨u ++ name ++ v, rfl, ?_, trim_append hu hv htight, haccept, hline⟩
    intro hmem
    have hbefore : Plain (u ++ name ++ v) :=
      plain_append.2 ⟨plain_append.2 ⟨hu.plain, hplain haccept⟩, hv.plain⟩
    cases hbefore ':' hmem

/-! ## The scanners -/

variable {c : Char} {t v more name rest line : Text}

/-- A colon is found behind blanks. -/
theorem colon?_eq_some :
    colon? t = some rest ↔ ∃ v, AllBlank v ∧ t = v ++ ':' :: rest ∧ '\n' ∉ rest := by
  unfold colon?
  constructor
  · intro h
    split at h
    · rename_i after hstart
      split at h
      · rename_i hline
        obtain rfl := Option.some.inj h
        obtain ⟨-, v, hv, ht⟩ := trimStart_eq_iff.1 hstart
        exact ⟨v, hv, ht, isOneLine_iff.1 hline⟩
      · cases h
    · cases h
  · intro h
    obtain ⟨v, hv, rfl, hline⟩ := h
    rw [trimStart_append hv (stops_cons.2 (by decide))]
    exact if_pos (isOneLine_iff.2 hline)

/-- A name of several words is its first character and characters that may stand inside a name. -/
theorem isPhrase_cons :
    isPhrase (c :: more) = true ↔ isWord c = true ∧ ∀ x ∈ more, isNameChar x = true := by
  rw [isPhrase, Bool.and_eq_true, List.all_eq_true]

/-- **The colon comes right behind the blanks after a name**, so a name that ends with a blank could
have ended before it. -/
theorem notBefore_colon_iff (hc : isWord c = true) (hmore : ∀ x ∈ more, isNameChar x = true)
    (hv : AllBlank v) (hline : '\n' ∉ rest) :
    NotBefore colon? more (v ++ ':' :: rest) ↔ Stops isBlank (c :: more).reverse := by
  have hplain : Plain (c :: more) := plain_of_isPhrase (isPhrase_cons.2 ⟨hc, hmore⟩)
  constructor
  · intro h
    rcases List.eq_nil_or_concat more with rfl | ⟨front, last, rfl⟩
    · exact stops_cons.2 (isBlank_of_isWord hc)
    · rw [List.concat_eq_append, List.reverse_cons, List.reverse_append]
      refine stops_cons.2 (Bool.eq_false_iff.2 fun hblank => ?_)
      -- A last blank would be one of the blanks before the colon, which is found from there.
      have hnone := h front [last] (List.concat_eq_append ..) (by simp)
      have hv' : AllBlank (last :: v) := List.forall_mem_cons.2 ⟨hblank, hv⟩
      cases hnone.symm.trans (colon?_eq_some.2 ⟨last :: v, hv', rfl, hline⟩)
  · intro h front back hmore hne
    refine Option.eq_none_iff_forall_ne_some.2 fun rest' hsome => ?_
    obtain ⟨u, hu, heq, -⟩ := colon?_eq_some.1 hsome
    -- The colon found from within the name is the first mark there, so it is the one behind it.
    have hback : Plain (back ++ v) := by
      refine plain_append.2 ⟨fun x hx => hplain x ?_, hv.plain⟩
      rw [hmore]
      exact List.mem_cons_of_mem _ (List.mem_append_right front hx)
    have hsplit : (back ++ v) ++ ':' :: rest = u ++ ':' :: rest' := by
      rw [List.append_assoc, heq]
    obtain ⟨rfl, -, -⟩ := first_mark_unique hback hu.plain rfl rfl hsplit
    obtain ⟨init, last, rfl⟩ := (List.eq_nil_or_concat back).resolve_left hne
    have hblank : isBlank last = true := hu last (by simp)
    rw [h last (by simp [hmore])] at hblank
    cases hblank

/-- **The shortest name of one or more words is the one before the first colon.** -/
theorem phraseHead?_eq (line : Text) : phraseHead? line = head? isPhrase line := by
  refine Option.ext fun (name, rest) => ?_
  rw [head?_eq_some_iff_written plain_of_isPhrase]
  unfold phraseHead?
  constructor
  · intro h
    split at h
    · cases h
    · rename_i c later hstart
      obtain ⟨-, u, hu, rfl⟩ := trimStart_eq_iff.1 hstart
      split at h
      · rename_i hc
        obtain ⟨⟨more, rest'⟩, hlater, heq⟩ := Option.map_eq_some_iff.1 h
        obtain ⟨rfl, rfl⟩ : c :: more = name ∧ rest' = rest := by simpa using heq
        obtain ⟨later, rfl, hmore, hcolon, hearlier⟩ := shortest?_eq_some.1 hlater
        obtain ⟨v, hv, rfl, hline⟩ := colon?_eq_some.1 hcolon
        have hend := (notBefore_colon_iff hc hmore hv hline).1 hearlier
        exact ⟨u, v, hu, hv, by simp, ⟨stops_cons.2 (isBlank_of_isWord hc), hend⟩,
          isPhrase_cons.2 ⟨hc, hmore⟩, hline⟩
      · cases h
  · intro h
    obtain ⟨u, v, hu, hv, rfl, htight, hphrase, hline⟩ := h
    cases name with
    | nil => cases hphrase
    | cons c more =>
        obtain ⟨hc, hmore⟩ := isPhrase_cons.1 hphrase
        have hstart : trimStart (u ++ (c :: more) ++ v ++ ':' :: rest) =
            c :: (more ++ (v ++ ':' :: rest)) := by
          simpa using trimStart_append hu (stops_cons.2 (stops_cons.1 htight.1))
        have hcolon : colon? (v ++ ':' :: rest) = some rest :=
          colon?_eq_some.2 ⟨v, hv, rfl, hline⟩
        have hearlier := (notBefore_colon_iff hc hmore hv hline).2 htight.2
        have hlater : shortest? isNameChar colon? (more ++ (v ++ ':' :: rest)) =
            some (more, rest) :=
          shortest?_eq_some.2 ⟨_, rfl, hmore, hcolon, hearlier⟩
        rw [hstart]
        simp [hc, hlater]

/-- **The longest token at the start of a line is the one before the first colon.** -/
theorem tokenHead?_eq (line : Text) : tokenHead? line = head? Text.isToken line := by
  refine Option.ext fun (name, rest) => ?_
  rw [head?_eq_some_iff_written fun h => plain_of_isWord (isToken_iff.1 h).2]
  unfold tokenHead?
  constructor
  · intro h
    cases hspan : line.trimStart.spanWord with
    | mk word after =>
        have happend : word ++ after = line.trimStart := by
          simpa [hspan] using spanWord_append line.trimStart
        rw [hspan] at h
        simp only at h
        split at h
        · cases h
        · rename_i hne
          obtain ⟨rest', hcolon, heq⟩ := Option.map_eq_some_iff.1 h
          obtain ⟨rfl, rfl⟩ : word = name ∧ rest' = rest := by simpa using heq
          obtain ⟨v, hv, rfl, hline⟩ := colon?_eq_some.1 hcolon
          obtain ⟨-, u, hu, rfl⟩ := trimStart_eq_iff.1 happend.symm
          have hword := isWord_of_mem_spanWord hspan
          exact ⟨u, v, hu, hv, by simp, tight_of_isWord hword,
            isToken_iff.2 ⟨by simpa using hne, hword⟩, hline⟩
  · intro h
    obtain ⟨u, v, hu, hv, rfl, -, htoken, hline⟩ := h
    obtain ⟨hne, hword⟩ := isToken_iff.1 htoken
    have hstart : trimStart (u ++ name ++ v ++ ':' :: rest) = name ++ (v ++ ':' :: rest) := by
      simpa using trimStart_append hu (stops_isBlank_token htoken (v ++ ':' :: rest))
    have hspan : spanWord (name ++ (v ++ ':' :: rest)) = (name, v ++ ':' :: rest) :=
      spanWord_run hword (stops_isWord_of_allBlank hv (stops_cons.2 rfl))
    rw [hstart, hspan]
    simp [hne, colon?_eq_some.2 ⟨v, hv, rfl, hline⟩]

/-! ## The readers -/

/-- A name of one or more words goes with a single token. -/
theorem read_eq (line : Text) :
    read line =
      match head? isPhrase line with
      | none => .noMatch
      | some (name, rest) =>
        if rest.trim.isToken then .accepted ⟨name, rest.trim⟩
        else .rejected (.expectedValue rest.trim) := by
  cases hhead : head? isPhrase line <;> simp [read, phraseHead?_eq, hhead]

/-- A one-token name goes with any text. -/
theorem readAnyValue_eq (line : Text) :
    readAnyValue line =
      match head? Text.isToken line with
      | none => .noMatch
      | some (name, rest) => .accepted ⟨name, rest.trim⟩ := by
  cases hhead : head? Text.isToken line <;> simp [readAnyValue, tokenHead?_eq, hhead]

end Property

/-- A one-token name goes with a list of tokens. -/
theorem PropertyList.read_eq (line : Text) :
    PropertyList.read line =
      match Property.head? Text.isToken line with
      | none => .noMatch
      | some (name, rest) =>
        match rest.tokens? with
        | some vals => .accepted ⟨name, vals⟩
        | none => .rejected (.expectedValueList rest.trim) := by
  cases hhead : Property.head? Text.isToken line with
  | none => simp [read, Property.tokenHead?_eq, hhead]
  | some head =>
      cases hvals : head.2.tokens? <;> simp [read, Property.tokenHead?_eq, hhead, hvals]

end MacroBody

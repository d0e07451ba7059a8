import MacroBody.Proofs.Text.Basic

/-!
# Lists with commas

A list written with a comma and a space between its items is one with a comma only and a space
before each item but the first (`join_comma_space`).  If text without a comma stands before a list,
it belongs to the first item (`splitOn_append_of_not_mem`).
-/

namespace MacroBody.Text

variable {t : Text} {parts tokens : List Text}

/-- The parts with a space before each but the first. -/
def spaced : List Text → List Text
  | [] => []
  | first :: more => first :: more.map (' ' :: ·)

/-- A space between two items can be told to belong to the second. -/
theorem join_comma_space (parts : List Text) :
    join ", ".toList parts = join [','] (spaced parts) := by
  cases parts with
  | nil => rfl
  | cons first more =>
      induction more generalizing first with
      | nil => rfl
      | cons second more ih =>
          have hrest := ih (' ' :: second)
          simp only [spaced, List.map_cons] at hrest ⊢
          rw [join_cons_cons, join_cons_cons, ← hrest]
          cases more <;> rfl

/-- A tight text is left as it is. -/
theorem trim_of_tight (h : Tight t) : t.trim = t :=
  trim_eq_iff.2 ⟨h, [], [], by simp, by simp, by simp⟩

/-- Trimming adds no character. -/
theorem mem_of_mem_trim {c : Char} (h : c ∈ t.trim) : c ∈ t := by
  obtain ⟨u, v, -, -, ht⟩ := exists_trim t
  rw [ht]
  exact List.mem_append_left _ (List.mem_append_right _ h)

/-- A token has no blanks to trim. -/
theorem tight_of_isToken (h : t.isToken = true) : Tight t :=
  tight_of_isWord (isToken_iff.1 h).2

/-- The blanks that spacing puts in are trimmed off again. -/
theorem map_trim_spaced (parts : List Text) : (spaced parts).map trim = parts.map trim := by
  cases parts with
  | nil => rfl
  | cons first more =>
      simp only [spaced, List.map_cons, List.map_map]
      rfl

/-- A list that has parts still has some once it is spaced. -/
theorem spaced_ne_nil (hne : parts ≠ []) : spaced parts ≠ [] := by
  cases parts with
  | nil => exact absurd rfl hne
  | cons first more => simp [spaced]

/-- A spaced part is a part, possibly behind a blank. -/
theorem mem_spaced {part : Text} (h : part ∈ spaced parts) :
    ∃ item ∈ parts, part = item ∨ part = ' ' :: item := by
  cases parts with
  | nil => cases h
  | cons first more =>
      rcases List.mem_cons.1 h with rfl | h
      · exact ⟨part, List.mem_cons_self, Or.inl rfl⟩
      · obtain ⟨item, hitem, rfl⟩ := List.mem_map.1 h
        exact ⟨item, List.mem_cons_of_mem _ hitem, Or.inr rfl⟩

/-- No token holds the comma that separates tokens. -/
theorem comma_not_mem_of_isToken (h : t.isToken = true) : ',' ∉ t := by
  intro hmem
  have hmark := plain_of_isWord (isToken_iff.1 h).2 ',' hmem
  cases hmark

/-- A token stays on one line. -/
theorem oneLine_of_isToken (h : t.isToken = true) : '\n' ∉ t := by
  intro hmem
  cases (isToken_iff.1 h).2 '\n' hmem

/-- Tight parts are left as they are. -/
theorem map_trim_of_tight (h : ∀ part ∈ parts, Tight part) : parts.map trim = parts := by
  calc parts.map trim
      = parts.map id := List.map_congr_left fun part hpart => trim_of_tight (h part hpart)
    _ = parts := List.map_id parts

/-- A list that is read has a token, and nothing but tokens. -/
theorem isToken_of_tokens? (h : t.tokens? = some tokens) :
    tokens ≠ [] ∧ ∀ token ∈ tokens, token.isToken = true := by
  obtain ⟨rfl, htokens⟩ := tokens?_eq_some.1 h
  exact ⟨by simp [items, List.splitOn_ne_nil], htokens⟩

/-- A list of parts that each stay on one line stays on one line. -/
theorem oneLine_join (h : ∀ part ∈ parts, '\n' ∉ part) : '\n' ∉ join ", ".toList parts := by
  intro hmem
  rcases mem_join hmem with hseparator | ⟨part, hpart, hmem⟩
  · simp at hseparator
  · exact h part hpart hmem

/-- What stands in a part stands in the whole. -/
theorem mem_join_of_mem {separator part : Text} {c : Char} (hpart : part ∈ parts) (hc : c ∈ part) :
    c ∈ join separator parts := by
  induction parts with
  | nil => cases hpart
  | cons first more ih =>
      cases more with
      | nil =>
          obtain rfl := List.mem_singleton.1 hpart
          simpa [join] using hc
      | cons second more =>
          rw [join_cons_cons]
          rcases List.mem_cons.1 hpart with rfl | hpart
          · exact List.mem_append_left _ hc
          · exact List.mem_append_right _ (List.mem_append_right _ (ih hpart))

/-- What is joined starts with its first part. -/
theorem join_cons (separator first : Text) (more : List Text) :
    ∃ rest, join separator (first :: more) = first ++ rest := by
  cases more with
  | nil => exact ⟨[], by simp [join]⟩
  | cons second more => exact ⟨_, join_cons_cons separator first second more⟩

/-- Text without a comma stands before the first piece of what follows it. -/
theorem splitOn_append_of_not_mem (h : ',' ∉ t) (tail : Text) :
    (t ++ tail).splitOn ',' = (tail.splitOn ',').modifyHead (t ++ ·) := by
  induction t with
  | nil =>
      rw [List.nil_append]
      cases tail.splitOn ',' <;> rfl
  | cons c t ih =>
      obtain ⟨hc, ht⟩ := not_or.1 (List.mem_cons.not.1 h)
      rw [List.cons_append, List.splitOn_cons_eq_if_modifyHead, if_neg (by simpa using Ne.symm hc),
        ih ht]
      cases tail.splitOn ',' <;> rfl

end MacroBody.Text

import Mathlib.Data.List.Basic
import MacroBody.Text.Basic

/-!
# The lines of a text

A text is cut at its line feeds, so no line holds one (`oneLine_of_mem_lines`), and neither does what
is quoted from a line or put together from lines.

Conversely, texts that hold no line feed can be told apart once each is ended by one: cutting at the
line feeds gives them back (`splitOn_ended`), and there are as many as there are line feeds
(`count_ended`).
-/

namespace MacroBody.Text

variable {t u piece : Text} {c : Char} {parts : List Text}

/-! ## What has one line -/

/-- What is quoted from one line has one line. -/
theorem oneLine_of_isInfix {line : Text} (h : t <:+: line) (hline : '\n' ∉ line) : '\n' ∉ t :=
  fun hmem => hline (h.subset hmem)

/-- Two texts of one line are one line together. -/
theorem oneLine_append (ht : '\n' ∉ t) (hu : '\n' ∉ u) : '\n' ∉ t ++ u := by
  rw [List.mem_append]
  exact not_or.2 ⟨ht, hu⟩

/-! ## What lies between line feeds -/

/-- A piece does not hold what the text was split at. -/
theorem not_mem_of_mem_splitOn (h : piece ∈ t.splitOn c) : c ∉ piece := by
  induction t generalizing piece with
  | nil =>
      obtain rfl : piece = [] := by simpa using h
      simp
  | cons x t ih =>
      rw [List.splitOn_cons_eq_if_modifyHead] at h
      split at h
      · rcases List.mem_cons.1 h with rfl | h
        · simp
        · exact ih h
      · rename_i hx
        have hne : c ≠ x := by
          rintro rfl
          simp at hx
        cases hpieces : t.splitOn c with
        | nil => exact absurd hpieces (List.splitOn_ne_nil c t)
        | cons first pieces =>
            rw [hpieces, List.modifyHead_cons] at h
            rw [hpieces] at ih
            rcases List.mem_cons.1 h with rfl | h
            · exact List.not_mem_cons_of_ne_of_not_mem hne (ih List.mem_cons_self)
            · exact ih (List.mem_cons_of_mem first h)

theorem dropReturn_subset (t : Text) : t.dropReturn ⊆ t := by
  unfold dropReturn
  split
  · exact List.dropLast_subset t
  · exact List.Subset.refl t

/-- No line holds a line feed. -/
theorem oneLine_of_mem_lines {source line : Text} (h : line ∈ source.lines) : '\n' ∉ line := by
  rcases List.mem_append.1 h with h | h
  · obtain ⟨piece, hpiece, rfl⟩ := List.mem_map.1 h
    intro hmem
    exact not_mem_of_mem_splitOn (List.dropLast_subset _ hpiece) (dropReturn_subset piece hmem)
  · split at h
    · rename_i last hlast
      split at h
      · cases h
      · obtain rfl := List.mem_singleton.1 h
        exact not_mem_of_mem_splitOn (List.mem_of_getLast? hlast)
    · cases h

/-- Texts of one line that are each ended by a line feed are found again between the line feeds. -/
theorem splitOn_ended (h : ∀ part ∈ parts, '\n' ∉ part) :
    ((parts.map (· ++ ['\n'])).flatten).splitOn '\n' = parts ++ [[]] := by
  induction parts with
  | nil => rfl
  | cons part parts ih =>
      rw [List.map_cons, List.flatten_cons, List.append_assoc, List.singleton_append,
        List.splitOn_append_cons_self_of_not_mem (h part List.mem_cons_self),
        ih fun part' hpart' => h part' (List.mem_cons_of_mem part hpart')]
      rfl

/-- A text has as many line feeds as parts that they end. -/
theorem count_ended (h : ∀ part ∈ parts, '\n' ∉ part) :
    (parts.map (· ++ ['\n'])).flatten.count '\n' = parts.length := by
  induction parts with
  | nil => rfl
  | cons part parts ih =>
      obtain ⟨hpart, hparts⟩ := List.forall_mem_cons.1 h
      rw [List.map_cons, List.flatten_cons, List.count_append, ih hparts, List.count_append,
        List.count_eq_zero.2 hpart, List.length_cons]
      simp [Nat.add_comm]

/-- The lines of a text whose last line is complete stay lines when more text follows. -/
theorem lines_append {a : Text} (b : Text) (ha : a = [] ∨ a.getLast? = some '\n') :
    lines (a ++ b) = a.lines ++ b.lines := by
  rcases ha with rfl | hlast
  · rfl
  · obtain ⟨front, rfl⟩ := List.getLast?_eq_some_iff.1 hlast
    have hsplit : (front ++ ['\n']).splitOn '\n' = front.splitOn '\n' ++ [[]] :=
      List.splitOn_append_cons_self front []
    have hsplit' : (front ++ '\n' :: b).splitOn '\n' = front.splitOn '\n' ++ b.splitOn '\n' :=
      List.splitOn_append_cons_self front b
    -- The first part ends with an empty piece, which is no line.
    obtain ⟨init, last, hpieces⟩ :=
      (List.eq_nil_or_concat (b.splitOn '\n')).resolve_left (List.splitOn_ne_nil '\n' b)
    simp [lines, hsplit, hsplit', hpieces]

end MacroBody.Text

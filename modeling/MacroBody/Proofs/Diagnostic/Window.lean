import MacroBody.Proofs.Diagnostic.Context

/-!
# The window of a source context

The source around a line shows the lines from two before it to two after it, as far as the source has
them.  This file says which rows these are at both ends of a source, and behind its end
(`sourceContext_shows_window`).

A window can also be walked through by positions, from one before the first row to the last one
(`contextByPosition?`).  Positions are clipped at 0 before they are made smaller, and at the number of
lines after they are made greater, so that the range may be empty or even the wrong way round.  The key
local fact is `mapM_range'`: as long as the range is inside a list, its items are found one after the
other.
-/

namespace MacroBody.Diagnostic

open Text

variable {source : Text} {line : Nat}

/-- The source around a line, found by positions that are counted from 0 and kept in 64 bits.  There is
none if a position has no line or a sum takes more bits. -/
def contextByPosition? (source : Text) (line : Nat) : Option Text :=
  let lines := source.lines
  let centre := line - 1
  let start := centre - 2
  if centre + 3 < UInt64.size then
    let stop := min (centre + 3) lines.length
    ((List.range' start (stop - start)).mapM fun position =>
      lines[position]?.map fun text =>
        contextRow (position == centre, position + 1, text)).map List.flatten
  else none

/-! ## Rows -/

/-- The rows are numbered from the first line of the window to the last one. -/
theorem map_number_contextRows (source : Text) (line : Nat) :
    (contextRows source line).map (fun row => row.2.1) =
      List.range' (max 1 (max line 1 - 2))
        (min source.lines.length (max line 1 + 2) + 1 - max 1 (max line 1 - 2)) := by
  have hnumber : ((fun row : Bool × Nat × Text => row.2.1) ∘ fun (item : Text × Nat) =>
      (item.2 == max line 1, item.2, item.1)) = Prod.snd := rfl
  rw [contextRows, List.map_map, hnumber, List.zipIdx_map_snd, List.length_take, List.length_drop]
  congr 1
  omega

/-- A row shows the line of its number, and it is marked if that is the line asked for. -/
theorem of_mem_contextRows {row : Bool × Nat × Text} (h : row ∈ contextRows source line) :
    source.lines[row.2.1 - 1]? = some row.2.2 ∧ (row.1 = true ↔ row.2.1 = max line 1) := by
  obtain ⟨⟨text, number⟩, hitem, rfl⟩ := List.mem_map.1 h
  obtain ⟨hfirst, htext⟩ := List.mk_mem_zipIdx_iff_le_and_getElem?_sub.1 hitem
  refine ⟨?_, beq_iff_eq⟩
  change source.lines[number - 1]? = some text
  have hinside := (List.getElem?_eq_some_iff.1 htext).1
  rw [List.length_take] at hinside
  rw [List.getElem?_take_of_lt (by omega), List.getElem?_drop] at htext
  rw [← htext]
  congr 1
  omega

/-! ## Positions -/

/-- **Positions inside a list lead to its items.** -/
theorem mapM_range' {α β : Type} (items : List α) (f : Nat → α → β) (start count : Nat)
    (h : count ≤ items.length - start) :
    ((List.range' start count).mapM fun position => items[position]?.map (f position)) =
      some ((((items.drop start).take count).zipIdx start).map fun item => f item.2 item.1) := by
  induction count generalizing start with
  | zero => simp
  | succ count ih =>
      have hstart : start < items.length := by omega
      have hrest := ih (start + 1) (by omega)
      rw [List.range'_succ, List.mapM_cons, hrest, List.getElem?_eq_getElem hstart,
        List.drop_eq_getElem_cons hstart]
      rfl

/-- **Every position has a line.** -/
theorem contextByPosition?_eq (source : Text) (h : line < UInt64.size - 3) :
    contextByPosition? source line = some (sourceContext source line) := by
  have hcentre : max line 1 = line - 1 + 1 := by omega
  have hfirst : max 1 (max line 1 - 2) = line - 1 - 2 + 1 := by omega
  rw [contextByPosition?, if_pos (by omega), sourceContext, contextRows, hfirst, hcentre]
  generalize line - 1 = centre at h ⊢
  generalize hstart : centre - 2 = start
  simp only [Nat.add_sub_cancel]
  have hcount : (source.lines.drop start).take (centre + 1 + 3 - (start + 1)) =
      (source.lines.drop start).take (min (centre + 3) source.lines.length - start) := by
    rw [List.take_eq_take_min, List.length_drop]
    congr 1
    omega
  rw [mapM_range' _ _ _ _ (by omega), hcount, List.zipIdx_succ, Option.map_some, List.map_map,
    List.map_map]
  congr 3
  funext item
  simp

/-- **The source around a line is the window of lines around it.**  Every position that is looked at
has a line.  There is one row for each line from two before the line asked for to two after it, as far
as the source has them, in order, with its own number and text; line 0 stands for the first line.  The
row of the line asked for is marked, and no other row is, so that there is no mark behind the end of
the source, and more than two lines behind it no row. -/
theorem sourceContext_shows_window (source : Text) (line : Nat) :
    (line < UInt64.size - 3 → contextByPosition? source line = some (sourceContext source line)) ∧
    (contextRows source line).map (fun row => row.2.1) =
      List.range' (max 1 (max line 1 - 2))
        (min source.lines.length (max line 1 + 2) + 1 - max 1 (max line 1 - 2)) ∧
    (∀ row ∈ contextRows source line,
      source.lines[row.2.1 - 1]? = some row.2.2 ∧ (row.1 = true ↔ row.2.1 = max line 1)) ∧
    (sourceContext source line).splitOn '\n' = (contextRows source line).map contextLine ++ [[]] ∧
    ((sourceContext source line).splitOn '\n').filter (">>".toList.isPrefixOf ·) =
      (source.lines[max line 1 - 1]?.map fun text => contextLine (true, max line 1, text)).toList ∧
    (source.lines.length + 2 < max line 1 → sourceContext source line = []) := by
  refine ⟨contextByPosition?_eq source, map_number_contextRows source line,
    fun row => of_mem_contextRows, splitOn_sourceContext source line,
    filter_splitOn_sourceContext source line, ?_⟩
  intro hbehind
  have hnone : (contextRows source line).map (fun row => row.2.1) = [] := by
    rw [map_number_contextRows, List.range'_eq_nil_iff]
    omega
  rw [sourceContext, List.map_eq_nil_iff.1 hnone]
  rfl

/-- Two lines behind the end of a source the window still shows its last line, unmarked. -/
theorem sourceContext_shows_window_behind :
    4 < UInt64.size - 3 ∧ contextByPosition? "a\nb".toList 4 = some "     2 | b\n".toList ∧
      (false, 2, "b".toList) ∈ contextRows "a\nb".toList 4 ∧
      (lines "a\nb".toList)[2 - 1]? = some "b".toList ∧
      (lines "a\nb".toList).length + 2 < max 5 1 ∧ sourceContext "a\nb".toList 5 = [] := by
  have hrow : (false, 2, "b".toList) ∈ contextRows "a\nb".toList 4 := by
    decide
  have hbehind : (lines "a\nb".toList).length + 2 < max 5 1 := by
    decide
  obtain ⟨hposition, -, hrows, -⟩ := sourceContext_shows_window "a\nb".toList 4
  refine ⟨by decide, ?_, hrow, (hrows _ hrow).1, hbehind,
    (sourceContext_shows_window _ 5).2.2.2.2.2 hbehind⟩
  rw [hposition (by decide)]
  decide

end MacroBody.Diagnostic

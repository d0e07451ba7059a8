import Mathlib.Data.List.Basic
import MacroBody.Diagnostic
import MacroBody.Proofs.Grammar.Numeral
import MacroBody.Proofs.Text.Lines

/-!
# The marked row of a source context

The source around a line is shown as rows, one of which is marked.  If the line is there, exactly one
row is marked, and it shows the number and the text of that line (`filter_contextRows`).

The rows are lines of the written context as well (`splitOn_sourceContext`), because no line of a
source holds a line feed.  So the mark can be found in the context as it is printed
(`filter_sourceContext`).
-/

namespace MacroBody

open Text

/-- A number stays on one line. -/
theorem Text.oneLine_decimal (n : Nat) : '\n' ∉ decimal n := by
  intro hmem
  cases isDigit_of_mem_decimal hmem

namespace Diagnostic

variable {source : Text} {line : Nat}

/-! ## Rows -/

/-- Of the numbered items, one has a given number. -/
theorem filter_zipIdx {α : Type} (items : List α) (first i : Nat) :
    (items.zipIdx first).filter (fun item => item.2 == first + i) =
      (items[i]?.map fun item => (item, first + i)).toList := by
  induction items generalizing first i with
  | nil => simp
  | cons item items ih =>
      rw [List.zipIdx_cons]
      cases i with
      | zero =>
          have hlater : ∀ other ∈ items.zipIdx (first + 1), ¬ (other.2 == first) = true := by
            intro other hother
            have hle := List.le_snd_of_mem_zipIdx hother
            simp only [beq_iff_eq]
            omega
          simpa using hlater
      | succ i =>
          have hnext := ih (first + 1) i
          rw [Nat.add_right_comm] at hnext
          simpa [Nat.add_assoc] using hnext

/-- **Of the rows around a line, the one of that line is marked, if the line is there.** -/
theorem filter_contextRows (source : Text) (line : Nat) :
    (contextRows source line).filter (·.1) =
      (source.lines[max line 1 - 1]?.map fun text => (true, max line 1, text)).toList := by
  unfold contextRows
  simp only
  generalize hcentre : max line 1 = centre
  generalize hfirst : max 1 (centre - 2) = first
  obtain ⟨i, hi⟩ : ∃ i, centre = first + i := ⟨centre - first, by omega⟩
  have hwindow : ((source.lines.drop (first - 1)).take (centre + 3 - first))[i]? =
      source.lines[centre - 1]? := by
    rw [List.getElem?_take_of_lt (by omega), List.getElem?_drop]
    congr 1
    omega
  have hmarked : ((fun row : Bool × Nat × Text => row.1) ∘ fun (item : Text × Nat) =>
      (item.2 == centre, item.2, item.1)) = fun item => item.2 == centre := rfl
  rw [List.filter_map, hmarked, hi, filter_zipIdx, ← hi, hwindow]
  cases source.lines[centre - 1]? <;> simp

/-! ## The context as text -/

/-- A row without the line feed that ends it. -/
def contextLine : Bool × Nat × Text → Text
  | (marked, number, text) =>
    (if marked then ">>".toList else "  ".toList) ++ [' '] ++
      Text.padLeft ' ' 3 (Text.decimal number) ++ " | ".toList ++ text

theorem contextRow_eq (row : Bool × Nat × Text) : contextRow row = contextLine row ++ ['\n'] :=
  rfl

/-- A row starts with the mark exactly if it is marked. -/
theorem isMarked_contextLine (row : Bool × Nat × Text) :
    ">>".toList.isPrefixOf (contextLine row) = row.1 := by
  obtain ⟨marked, number, text⟩ := row
  cases marked <;> rfl

/-- Every row around a line shows a line of the source. -/
theorem mem_lines_of_mem_contextRows {row : Bool × Nat × Text}
    (h : row ∈ contextRows source line) : row.2.2 ∈ source.lines := by
  obtain ⟨⟨text, number⟩, hitem, rfl⟩ := List.mem_map.1 h
  have hwindow := List.fst_mem_of_mem_zipIdx hitem
  exact List.mem_of_mem_drop (List.mem_of_mem_take hwindow)

/-- A row shows its line as one line. -/
theorem oneLine_contextLine {row : Bool × Nat × Text} (h : '\n' ∉ row.2.2) :
    '\n' ∉ contextLine row := by
  obtain ⟨marked, number, text⟩ := row
  have htext : '\n' ∉ text := h
  cases marked <;> simp [contextLine, padLeft, oneLine_decimal, htext]

/-- The rows are the lines of the context. -/
theorem splitOn_sourceContext (source : Text) (line : Nat) :
    (sourceContext source line).splitOn '\n' =
      (contextRows source line).map contextLine ++ [[]] := by
  have hline : ∀ part ∈ (contextRows source line).map contextLine, '\n' ∉ part := by
    intro part hpart
    obtain ⟨row, hrow, rfl⟩ := List.mem_map.1 hpart
    exact oneLine_contextLine (oneLine_of_mem_lines (mem_lines_of_mem_contextRows hrow))
  have hrow : (· ++ ['\n']) ∘ contextLine = contextRow := (funext contextRow_eq).symm
  rw [← splitOn_ended hline, List.map_map, hrow, sourceContext]

/-- The marked lines of the context are those of the line asked for, if it is there. -/
theorem filter_splitOn_sourceContext (source : Text) (line : Nat) :
    ((sourceContext source line).splitOn '\n').filter (">>".toList.isPrefixOf ·) =
      (source.lines[max line 1 - 1]?.map fun text => contextLine (true, max line 1, text)).toList := by
  have hmarked : (fun row => ">>".toList.isPrefixOf row) ∘ contextLine = fun row => row.1 :=
    funext isMarked_contextLine
  rw [splitOn_sourceContext, List.filter_append, List.filter_map, hmarked, filter_contextRows]
  cases source.lines[max line 1 - 1]? <;> rfl

/-- **One line of the context is marked**, and it shows the number and the text of the line asked
for. -/
theorem filter_sourceContext {text : Text} (h : source.lines[max line 1 - 1]? = some text) :
    ((sourceContext source line).splitOn '\n').filter (">>".toList.isPrefixOf ·) =
      [contextLine (true, max line 1, text)] := by
  rw [filter_splitOn_sourceContext, h]
  rfl

end Diagnostic

end MacroBody

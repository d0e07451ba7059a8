import Mathlib.Data.List.Basic
import MacroBody.Record

/-!
# Trying kinds in order

The dispatch loop works on a record that it overwrites at each attempt.  This file removes the
record from the picture: what a run gives its caller and leaves behind is decided by the first kind of
the list that is decisive on the line, and by nothing else (`Record.tryParse_eq`).  An attempt that
does not match leaves a fresh record (`Record.parse_noMatch`), which is why the loop can be read as a
search.
-/

namespace MacroBody.Record

variable [PatternCompiler]

/-- What reading a line as the kind found gives and leaves behind; if none was found, a fresh
record. -/
def ofFound (line : Text) : Option Kind → Outcome × Record
  | some kind => (new kind).note (kind.read line)
  | none => (.noMatch, new .unknown)

/-- Reading starts from a cleared record. -/
theorem parse_eq (r : Record) (line : Text) : r.parse line = (new r.kind).note (r.kind.read line) :=
  rfl

/-- An attempt that does not match leaves nothing but its kind. -/
theorem parse_noMatch {r : Record} {line : Text} (h : (r.kind.read line).isDecisive = false) :
    r.parse line = (.noMatch, new r.kind) := by
  rw [parse_eq]
  cases hread : r.kind.read line with
  | noMatch => rfl
  | rejected cause => simp [hread, Verdict.isDecisive, Verdict.outcome, Outcome.isDecisive] at h
  | accepted payload => simp [hread, Verdict.isDecisive, Verdict.outcome, Outcome.isDecisive] at h

/-- The caller of a reading is given the outcome of its verdict. -/
theorem fst_parse (r : Record) (line : Text) : (r.parse line).1 = (r.kind.read line).outcome := by
  rw [parse_eq]
  cases r.kind.read line <;> rfl

/-- From a fresh record the loop leaves what the first decisive kind reads. -/
theorem tryKinds_new (kind : Kind) (line : Text) (kinds : List Kind) :
    (new kind).tryKinds line kinds =
      ofFound line (kinds.find? fun k => (k.read line).isDecisive) := by
  induction kinds generalizing kind with
  | nil => rfl
  | cons first rest ih =>
      have houtcome : (((new kind).setKind first).parse line).1.isDecisive =
          (first.read line).isDecisive := by
        rw [fst_parse]
        rfl
      simp only [tryKinds, houtcome]
      cases hdecisive : (first.read line).isDecisive with
      | true =>
          rw [if_pos rfl, List.find?_cons_of_pos (by exact hdecisive)]
          rfl
      | false =>
          have hfresh : ((new kind).setKind first).parse line = (.noMatch, new first) :=
            parse_noMatch hdecisive
          rw [if_neg (by simp), List.find?_cons_of_neg (by simp [hdecisive]), hfresh]
          exact ih first

/-- **Dispatch is a search.**  What is given and left behind is that of the first decisive kind,
whatever the record held before. -/
theorem tryParse_eq (r : Record) (line : Text) (kinds : List Kind) :
    r.tryParse line kinds = ofFound line (kinds.find? fun k => (k.read line).isDecisive) :=
  tryKinds_new r.kind line kinds

/-- Orders in which the same kind is found give and leave the same. -/
theorem tryParse_congr {kinds kinds' : List Kind} {line : Text} (r : Record)
    (h : kinds.find? (fun k => (k.read line).isDecisive) =
      kinds'.find? fun k => (k.read line).isDecisive) :
    r.tryParse line kinds = r.tryParse line kinds' := by
  rw [tryParse_eq, tryParse_eq, h]

end MacroBody.Record

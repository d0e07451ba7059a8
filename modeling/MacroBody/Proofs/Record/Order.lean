import Mathlib.Data.List.Basic
import MacroBody.Proofs.Record.Dispatch

/-!
# Which kinds of an order count

A line is read as the first kind of the order that is decisive on it.  This file says what that
reading gives its caller and leaves in the record, field by field, and which changes of the order
leave it as it is.

Dispatch is a search (`Record.tryParse_eq`), so a change of the order is a change of the list that
is searched, and the record need not be looked at.  Three changes are never noticed:

* an element is removed behind one that is found wherever it is found (`find?_insert`), in
  particular behind an equal one (`find?_eraseDups`);
* elements are removed that are not found (`find?_of_sublist`);
* anything is changed behind an element that is found (`find?_append_cons`).
-/

namespace MacroBody

/-! ## Searching a changed list -/

section Search

variable {α : Type} {p : α → Bool} {a b : α} {l kept : List α}

/-- What is found only where something before it is found makes no difference. -/
theorem find?_insert (h : p b = true → p a = true) (before middle after : List α) :
    (before ++ a :: (middle ++ b :: after)).find? p =
      (before ++ a :: (middle ++ after)).find? p := by
  rw [List.find?_append, List.find?_append]
  cases ha : p a with
  | true => rw [List.find?_cons_of_pos ha, List.find?_cons_of_pos ha]
  | false =>
      have hb : ¬ p b = true := fun hb => by simp [h hb] at ha
      have hna : ¬ p a = true := by simp [ha]
      rw [List.find?_cons_of_neg hna, List.find?_cons_of_neg hna, List.find?_append,
        List.find?_append, List.find?_cons_of_neg hb]

/-- The search ends where something is found. -/
theorem find?_append_cons (ha : p a = true) (before after after' : List α) :
    (before ++ a :: after).find? p = (before ++ a :: after').find? p := by
  rw [List.find?_append, List.find?_append, List.find?_cons_of_pos ha, List.find?_cons_of_pos ha]

/-- Elements that are not found can be removed, as long as all others are kept. -/
theorem find?_of_sublist (hkept : kept.Sublist l) (hall : (l.filter p).Sublist kept) :
    kept.find? p = l.find? p := by
  have hfilter : kept.filter p = l.filter p := by
    refine (hkept.filter p).antisymm ?_
    simpa using hall.filter p
  rw [← List.head?_filter, hfilter, List.head?_filter]

/-- Elements that are not found can be removed by a filter. -/
theorem find?_filter_of_imp {keep : α → Bool} (h : ∀ x, p x = true → keep x = true) (l : List α) :
    (l.filter keep).find? p = l.find? p :=
  find?_of_sublist List.filter_sublist (List.monotone_filter_right l h)

/-- Of equal elements only the first is ever found. -/
theorem find?_eraseDups [BEq α] [LawfulBEq α] (p : α → Bool) (l : List α) :
    l.eraseDups.find? p = l.find? p := by
  match l with
  | [] => rw [List.eraseDups_nil]
  | a :: l =>
      rw [List.eraseDups_cons]
      by_cases ha : p a = true
      · rw [List.find?_cons_of_pos ha, List.find?_cons_of_pos ha]
      · -- What is removed behind `a` equals `a`, which is not found.
        rw [List.find?_cons_of_neg ha, List.find?_cons_of_neg ha, find?_eraseDups]
        refine find?_filter_of_imp ?_ l
        intro x hx
        by_contra hxa
        have : x = a := by simpa using hxa
        exact ha (this ▸ hx)
termination_by l.length
decreasing_by exact Nat.lt_succ_of_le (List.length_filter_le _ _)

end Search

theorem Verdict.isDecisive_iff_ne {α : Type} {v : Verdict α} :
    v.isDecisive = true ↔ v ≠ .noMatch := by
  cases v <;> simp [Verdict.isDecisive, Verdict.outcome, Outcome.isDecisive]

namespace Record

variable [PatternCompiler] {line : Text}

/-- The caller is given the outcome of the kind that was found, and the record shows its verdict. -/
theorem ofFound_some (line : Text) (kind : Kind) :
    ofFound line (some kind) =
      ((kind.read line).outcome,
        { kind := kind
          outcome := (kind.read line).outcome
          cause := (kind.read line).cause?
          payload := (kind.read line).value? }) := by
  change (new kind).note (kind.read line) = _
  cases kind.read line <;> rfl

/-- The first kind that does not pass the line on is found. -/
theorem find?_decisive {before after : List Kind} {kind : Kind}
    (hbefore : ∀ k ∈ before, k.read line = .noMatch) (hkind : kind.read line ≠ .noMatch) :
    (before ++ kind :: after).find? (fun k => (k.read line).isDecisive) = some kind := by
  refine List.find?_eq_some_iff_append.2
    ⟨Verdict.isDecisive_iff_ne.2 hkind, before, after, rfl, ?_⟩
  intro k hk
  rw [hbefore k hk]
  rfl

/-- **The first decisive kind decides.**  Its outcome is what the caller is given, and its verdict
fills the record; if no kind is decisive, the caller is told so and the record is a fresh one of the
unknown kind.  So a kind counts neither behind a copy of itself, nor where it does not match, nor
behind a kind that is decisive; the unknown kind never counts, and neither does what the record held
before. -/
theorem tryParse_shows_first_decisive (r : Record) (line : Text) (kinds : List Kind) :
    (∀ before kind after, kinds = before ++ kind :: after →
      (∀ k ∈ before, k.read line = .noMatch) → kind.read line ≠ .noMatch →
      r.tryParse line kinds =
        ((kind.read line).outcome,
          { kind := kind
            outcome := (kind.read line).outcome
            cause := (kind.read line).cause?
            payload := (kind.read line).value? })) ∧
    ((∀ kind ∈ kinds, kind.read line = .noMatch) →
      r.tryParse line kinds =
        (.noMatch, { kind := .unknown, outcome := .noMatch, cause := none, payload := none })) ∧
    -- Copies of a kind that stands earlier.
    (∀ before kind middle after, kinds = before ++ kind :: (middle ++ kind :: after) →
      r.tryParse line (before ++ kind :: (middle ++ after)) = r.tryParse line kinds) ∧
    r.tryParse line kinds.eraseDups = r.tryParse line kinds ∧
    -- Kinds that do not match, any number of them; among these the unknown kind.
    (∀ kept : List Kind, kept.Sublist kinds →
      (kinds.filter fun kind => kind.read line ≠ .noMatch).Sublist kept →
      r.tryParse line kept = r.tryParse line kinds) ∧
    r.tryParse line (kinds.filter (· ≠ .unknown)) = r.tryParse line kinds ∧
    -- Whatever stands behind a decisive kind.
    (∀ before kind after after', kinds = before ++ kind :: after → kind.read line ≠ .noMatch →
      r.tryParse line (before ++ kind :: after') = r.tryParse line kinds) ∧
    -- What was in the record.
    ∀ r' : Record, r'.tryParse line kinds = r.tryParse line kinds := by
  refine ⟨?_, ?_, ?_, ?_, ?_, ?_, ?_, ?_⟩
  · intro before kind after hkinds hbefore hkind
    rw [tryParse_eq, hkinds, find?_decisive hbefore hkind, ofFound_some]
  · intro hnone
    have hfind : kinds.find? (fun k => (k.read line).isDecisive) = none := by
      rw [List.find?_eq_none]
      intro kind hkind
      rw [Verdict.isDecisive_iff_ne, hnone kind hkind]
      simp
    rw [tryParse_eq, hfind]
    rfl
  · intro before kind middle after hkinds
    subst hkinds
    exact tryParse_congr r (find?_insert id before middle after).symm
  · exact tryParse_congr r (find?_eraseDups _ kinds)
  · intro kept hkept hall
    have hdecisive : (kinds.filter fun kind => (kind.read line).isDecisive).Sublist kept := by
      simpa only [← Verdict.isDecisive_iff_ne, Bool.decide_eq_true] using hall
    exact tryParse_congr r (find?_of_sublist hkept hdecisive)
  · refine tryParse_congr r (find?_filter_of_imp ?_ kinds)
    intro kind hkind
    have hne : kind ≠ .unknown := by
      rintro rfl
      cases hkind
    simpa using hne
  · intro before kind after after' hkinds hkind
    subst hkinds
    have hdecisive : (kind.read line).isDecisive = true := Verdict.isDecisive_iff_ne.2 hkind
    exact tryParse_congr r (find?_append_cons (a := kind) hdecisive before after' after)
  · intro r'
    rw [tryParse_eq, tryParse_eq]

end Record

end MacroBody

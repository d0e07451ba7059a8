import Mathlib.Data.List.Basic
import MacroBody.Proofs.Record.Dispatch

/-!
# What a record remembers

A record is reused for any number of lines, and between two readings its kind can be set and its
payload taken away.  This file compares a record with any such past to a fresh one that is given the
last reading only.

An operation writes to one or both of two places: the kind, and the content (outcome, cause and
payload).  The key local fact is that a reading overwrites the whole content
(`perform_reading`), while an operation that is no reading leaves it alone, apart from taking the
payload away (`shows_run`).  So the last write to each place decides what it holds:

* `shows_run_reading` — the content is that of the last reading;
* `kind_run_last` — the kind is the last one that was set;
* `coherent_run` — a cause is held exactly after a rejection, and a payload only after a success.
-/

namespace MacroBody

/-- No cause is worded as the empty text. -/
theorem GrammarError.message_ne_nil (e : GrammarError) : e.message ≠ [] := by
  unfold message
  split <;> simp only [ne_eq, List.append_eq_nil_iff, String.toList_eq_nil_iff, String.reduceEq,
    false_and, not_false_eq_true]

namespace Record

/-- What a caller can do to a record. -/
inductive Operation
  | setKind (kind : Kind)
  | parse (line : Text)
  | tryParse (line : Text) (kinds : List Kind)
  | takePayload
  deriving DecidableEq, Repr

namespace Operation

/-- Whether the operation reads a line. -/
def reads : Operation → Bool
  | parse _ | tryParse _ _ => true
  | setKind _ | takePayload => false

/-- Whether the operation sets the kind. -/
def setsKind : Operation → Bool
  | setKind _ | tryParse _ _ => true
  | parse _ | takePayload => false

end Operation

/-- Causes and payloads go with their outcomes. -/
structure Coherent (r : Record) : Prop where
  cause_iff : r.cause.isSome = true ↔ r.outcome = .error
  outcome_of_payload : ∀ p, r.payload = some p → r.outcome = .ok

/-- The payload is there exactly after a success, and it is of the kind of the record. -/
structure Whole (r : Record) : Prop where
  ok_iff : r.outcome = .ok ↔ r.payload.isSome = true
  kind_of_payload : ∀ p, r.payload = some p → p.kind = r.kind

/-- The record holds what `fresh` holds, apart from the kind, and from the payload if that was
taken. -/
structure Shows (r fresh : Record) (taken : Prop) : Prop where
  outcome : r.outcome = fresh.outcome
  cause : r.cause = fresh.cause
  payload_of_taken : taken → r.payload = none
  payload_of_not_taken : ¬ taken → r.payload = fresh.payload

/-! ## What a verdict leaves -/

section

variable {r : Record}

theorem coherent_new (kind : Kind) : (new kind).Coherent :=
  ⟨by simp [new], by simp [new]⟩

/-- A fresh record that notes a verdict is coherent. -/
theorem coherent_note (kind : Kind) (v : Verdict Payload) : ((new kind).note v).2.Coherent := by
  cases v with
  | noMatch => exact ⟨by simp [note, new, Verdict.outcome], by simp [note]⟩
  | rejected cause => exact ⟨by simp [note, Verdict.outcome], by simp [note, new]⟩
  | accepted p => exact ⟨by simp [note, new, Verdict.outcome], by simp [note, Verdict.outcome]⟩

/-- Nothing is read yet, so there is no payload. -/
theorem whole_new (kind : Kind) : (new kind).Whole :=
  ⟨by simp [new], by simp [new]⟩

/-- Noting a verdict leaves the kind. -/
theorem kind_note (r : Record) (v : Verdict Payload) : (r.note v).2.kind = r.kind := by
  cases v <;> rfl

/-- There is something to tell exactly after a rejection. -/
theorem Coherent.errorText_ne_nil_iff (h : r.Coherent) : r.errorText ≠ [] ↔ r.outcome = .error := by
  rw [← h.cause_iff, errorText]
  cases r.cause with
  | none => simp
  | some cause => simp [cause.message_ne_nil]

/-- No cause is held beside a payload. -/
theorem Coherent.cause_eq_none (h : r.Coherent) {p : Payload} (hp : r.payload = some p) :
    r.cause = none := by
  have hok := h.outcome_of_payload p hp
  rw [← Option.not_isSome_iff_eq_none, h.cause_iff, hok]
  simp

end

section

variable [PatternCompiler] {r : Record} {ops before after : List Operation} {op : Operation}

/-- The record after an operation. -/
def perform (r : Record) : Operation → Record
  | .setKind kind => r.setKind kind
  | .parse line => (r.parse line).2
  | .tryParse line kinds => (r.tryParse line kinds).2
  | .takePayload => r.withoutPayload

/-- The record after a sequence of operations. -/
def run (r : Record) (ops : List Operation) : Record :=
  ops.foldl perform r

/-- What is done later is done to what was left earlier. -/
theorem run_append (r : Record) (ops ops' : List Operation) :
    r.run (ops ++ ops') = (r.run ops).run ops' :=
  List.foldl_append

/-! ## Records right after a reading -/

/-- A verdict fills a fresh record. -/
theorem whole_note (kind : Kind) (line : Text) :
    ((new kind).note (kind.read line)).2.Whole := by
  cases hread : kind.read line with
  | noMatch => exact ⟨by simp [note, Verdict.outcome], by simp [note]⟩
  | rejected cause => exact ⟨by simp [note, new, Verdict.outcome], by simp [note, new]⟩
  | accepted p =>
      refine ⟨by simp [note, Verdict.outcome], ?_⟩
      intro p' hp'
      obtain rfl : p = p' := by simpa [note] using hp'
      exact Kind.kind_of_read hread

/-- Reading a line as the kind of the record leaves the kind. -/
theorem kind_parse (r : Record) (line : Text) : (r.parse line).2.kind = r.kind :=
  kind_note _ _

/-- The kind that a search leaves is the one it found. -/
theorem kind_ofFound (line : Text) (found : Option Kind) :
    (ofFound line found).2.kind = found.getD .unknown := by
  cases found with
  | none => rfl
  | some kind => exact kind_note _ _

/-- **A reading overwrites everything.**  What it leaves is what it would leave in a fresh record,
of the same kind if the reading looks at the kind. -/
theorem perform_reading (h : op.reads = true) (r : Record) {fresh : Kind}
    (hfresh : op.setsKind = false → fresh = r.kind) : r.perform op = (new fresh).perform op := by
  cases op with
  | setKind kind => cases h
  | takePayload => cases h
  | parse line =>
      obtain rfl := hfresh rfl
      exact congrArg Prod.snd (parse_eq r line)
  | tryParse line kinds =>
      calc (r.tryParse line kinds).2
          = (ofFound line (kinds.find? fun k => (k.read line).isDecisive)).2 := by
            rw [tryParse_eq]
        _ = ((new fresh).tryParse line kinds).2 := by rw [tryParse_eq]

/-- A search leaves a coherent record behind, whatever it found. -/
theorem coherent_tryParse (r : Record) (line : Text) (kinds : List Kind) :
    (r.tryParse line kinds).2.Coherent := by
  rw [tryParse_eq]
  cases kinds.find? _ with
  | none => exact coherent_new .unknown
  | some kind => exact coherent_note kind _

/-- Every reading fills the record. -/
theorem whole_perform_reading (h : op.reads = true) (r : Record) : (r.perform op).Whole := by
  cases op with
  | setKind kind => cases h
  | takePayload => cases h
  | parse line => exact whole_note r.kind line
  | tryParse line kinds =>
      rw [perform, tryParse_eq]
      cases kinds.find? _ with
      | none => exact whole_new .unknown
      | some kind => exact whole_note kind line

/-! ## Coherence -/

/-- Every operation keeps causes and payloads with their outcomes. -/
theorem Coherent.perform (h : r.Coherent) (op : Operation) : (r.perform op).Coherent := by
  cases op with
  | setKind kind => exact ⟨h.cause_iff, h.outcome_of_payload⟩
  | parse line => exact coherent_note r.kind _
  | tryParse line kinds => exact coherent_tryParse r line kinds
  | takePayload => exact ⟨h.cause_iff, by simp [Record.perform, withoutPayload]⟩

/-- **Whatever is done to a coherent record, it stays coherent.** -/
theorem Coherent.run (h : r.Coherent) (ops : List Operation) : (r.run ops).Coherent := by
  induction ops generalizing r with
  | nil => exact h
  | cons op ops ih => exact ih (h.perform op)

/-- A record that started fresh is coherent, whatever was done to it. -/
theorem coherent_run (kind : Kind) (ops : List Operation) : ((new kind).run ops).Coherent :=
  (coherent_new kind).run ops

/-! ## The last write -/

/-- Without a reading the content stays, until the payload is taken. -/
theorem shows_run (r : Record) (h : ∀ op ∈ ops, op.reads = false) :
    (r.run ops).Shows r (.takePayload ∈ ops) := by
  induction ops generalizing r with
  | nil => exact ⟨rfl, rfl, by simp, fun _ => rfl⟩
  | cons op ops ih =>
      have hop := h op List.mem_cons_self
      have hrest : ∀ op' ∈ ops, op'.reads = false := fun op' hmem =>
        h op' (List.mem_cons_of_mem _ hmem)
      cases op with
      | parse line => cases hop
      | tryParse line kinds => cases hop
      | setKind kind =>
          obtain ⟨houtcome, hcause, htaken, hkept⟩ := ih (r.setKind kind) hrest
          refine ⟨houtcome, hcause, ?_, ?_⟩
          · intro hmem
            exact htaken (by simpa using hmem)
          · intro hmem
            exact hkept (by simpa using hmem)
      | takePayload =>
          obtain ⟨houtcome, hcause, htaken, hkept⟩ := ih r.withoutPayload hrest
          refine ⟨houtcome, hcause, ?_, ?_⟩
          · intro _
            by_cases hmem : Operation.takePayload ∈ ops
            · exact htaken hmem
            · exact hkept hmem
          · intro hmem
            exact absurd List.mem_cons_self hmem

/-- The kind stays until it is set. -/
theorem kind_run (r : Record) (h : ∀ op ∈ ops, op.setsKind = false) :
    (r.run ops).kind = r.kind := by
  induction ops generalizing r with
  | nil => rfl
  | cons op ops ih =>
      have hop := h op List.mem_cons_self
      have hrest := ih (r.perform op) fun op' hmem => h op' (List.mem_cons_of_mem _ hmem)
      cases op with
      | setKind kind => cases hop
      | tryParse line kinds => cases hop
      | parse line => exact hrest.trans (kind_parse r line)
      | takePayload => exact hrest

/-- **The content is that of the last reading**, as a fresh record would hold it. -/
theorem shows_run_reading (r : Record) (hop : op.reads = true)
    (hafter : ∀ op' ∈ after, op'.reads = false) {fresh : Kind}
    (hfresh : op.setsKind = false → fresh = (r.run before).kind) :
    (r.run (before ++ op :: after)).Shows ((new fresh).perform op) (.takePayload ∈ after) := by
  rw [run_append, ← perform_reading hop (r.run before) hfresh]
  exact shows_run _ hafter

/-- **The kind is the last one that was set.** -/
theorem kind_run_last (r : Record) (hafter : ∀ op' ∈ after, op'.setsKind = false) :
    (r.run (before ++ op :: after)).kind = ((r.run before).perform op).kind := by
  rw [run_append]
  exact kind_run _ hafter

/-- A search leaves the first decisive kind, or the unknown kind. -/
theorem kind_tryParse (r : Record) (line : Text) (kinds : List Kind) :
    (r.tryParse line kinds).2.kind =
      (kinds.find? fun k => (k.read line).isDecisive).getD .unknown := by
  rw [tryParse_eq, kind_ofFound]

end

/-- **A record remembers its last reading and its last kind, and nothing else.** -/
theorem run_remembers_last_reading [PatternCompiler] (k : Kind) (ops : List Operation) :
    (((new k).run ops).errorText ≠ [] ↔ ((new k).run ops).outcome = .error) ∧
    (∀ p, ((new k).run ops).payload = some p →
      ((new k).run ops).outcome = .ok ∧ ((new k).run ops).cause = none) ∧
    -- The content is that of the last reading, if there was one.
    (∀ before line after, ops = before ++ .parse line :: after →
      (∀ op ∈ after, op.reads = false) →
      ((new k).run ops).Shows ((new ((new k).run before).kind).parse line).2
        (.takePayload ∈ after)) ∧
    (∀ before line kinds after, ops = before ++ .tryParse line kinds :: after →
      (∀ op ∈ after, op.reads = false) → ∀ fresh,
      ((new k).run ops).Shows ((new fresh).tryParse line kinds).2 (.takePayload ∈ after)) ∧
    ((∀ op ∈ ops, op.reads = false) →
      ((new k).run ops).outcome = .noMatch ∧ ((new k).run ops).cause = none ∧
        ((new k).run ops).payload = none) ∧
    -- The kind is the last one that was set, if there was one.
    (∀ before kind after, ops = before ++ .setKind kind :: after →
      (∀ op ∈ after, op.setsKind = false) → ((new k).run ops).kind = kind) ∧
    (∀ before line kinds after, ops = before ++ .tryParse line kinds :: after →
      (∀ op ∈ after, op.setsKind = false) →
      ((new k).run ops).kind =
        (kinds.find? fun kind => (kind.read line).isDecisive).getD .unknown) ∧
    ((∀ op ∈ ops, op.setsKind = false) → ((new k).run ops).kind = k) ∧
    -- Right after a reading the payload goes with the outcome and the kind.
    (∀ before op, ops = before ++ [op] → op.reads = true →
      (((new k).run ops).outcome = .ok ↔ ((new k).run ops).payload.isSome = true) ∧
      ∀ p, ((new k).run ops).payload = some p → p.kind = ((new k).run ops).kind) := by
  have hcoherent := coherent_run k ops
  refine ⟨hcoherent.errorText_ne_nil_iff, ?_, ?_, ?_, ?_, ?_, ?_, ?_, ?_⟩
  · intro p hp
    exact ⟨hcoherent.outcome_of_payload p hp, hcoherent.cause_eq_none hp⟩
  · intro before line after hops hafter
    subst hops
    exact shows_run_reading (new k) rfl hafter fun _ => rfl
  · intro before line kinds after hops hafter fresh
    subst hops
    exact shows_run_reading (new k) rfl hafter fun h => by cases h
  · intro hnone
    have hshows := shows_run (new k) hnone
    refine ⟨hshows.outcome, hshows.cause, ?_⟩
    by_cases htaken : Operation.takePayload ∈ ops
    · exact hshows.payload_of_taken htaken
    · exact hshows.payload_of_not_taken htaken
  · intro before kind after hops hafter
    subst hops
    exact kind_run_last (new k) hafter
  · intro before line kinds after hops hafter
    subst hops
    rw [kind_run_last (new k) hafter]
    exact kind_tryParse _ line kinds
  · intro hnone
    exact kind_run (new k) hnone
  · intro before op hops hop
    subst hops
    have hwhole : ((new k).run (before ++ [op])).Whole := by
      rw [run_append]
      exact whole_perform_reading hop _
    exact ⟨hwhole.ok_iff, hwhole.kind_of_payload⟩

end Record

end MacroBody

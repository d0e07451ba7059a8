import Mathlib.Data.List.Induction
import MacroBody.Proofs.Scope.Basic

/-!
# Well bracketed sequences of block tag lines

A scope is a stack machine.  This file puts the language of brackets beside it.  `Paired` are the
sequences in which opening and closing lines enclose each other, and a closing line matches an
opening one before it if a paired sequence stands between them (`Matched`).  The tags that are open
after a sequence are those of its opening lines without a match (`unmatched`).  None of this mentions
a stack or the rules of a scope.

The key local fact is `openTags_eq_unmatched`: as long as no line breaks a rule, the tags on the
stack are the unmatched ones, outermost first.  It is carried through a run by `Opened`, which
writes a sequence as paired parts with its unmatched opening lines between them; that these have no
match is seen by counting alone (`NeverBelow`).  The rules of the scope, each said of the unmatched
tags before a line, are the conditions of `WellBracketed`.
-/

namespace MacroBody

open BlockTagLine

namespace BlockTagLine

/-! ## The language of brackets -/

/-- Opening and closing lines that enclose each other. -/
inductive Paired : List BlockTagLine → Prop
  | nil : Paired []
  | block (tag : BlockTag) {inner rest : List BlockTagLine} (hinner : Paired inner)
      (hrest : Paired rest) : Paired (opening tag :: (inner ++ closing tag :: rest))

/-- Among the lines after an opening line is the closing line that matches it. -/
def Matched (tag : BlockTag) (after : List BlockTagLine) : Prop :=
  ∃ inner rest, Paired inner ∧ after = inner ++ closing tag :: rest

open Classical in
/-- The tags of the opening lines without a matching closing line, in the order of the lines. -/
noncomputable def unmatched : List BlockTagLine → List BlockTag
  | [] => []
  | line :: after =>
      if line.enter = true ∧ ¬ Matched line.tag after then line.tag :: unmatched after
      else unmatched after

/-- Every closing line closes the tag opened last among those still open, every tag is closed, no
tag is opened while it is open and, unless nesting is allowed, none while any tag is. -/
structure WellBracketed (allowNesting : Bool) (lines : List BlockTagLine) : Prop where
  closes_last : ∀ before tag after, lines = before ++ closing tag :: after →
    (unmatched before).getLast? = some tag
  all_closed : unmatched lines = []
  opens_new : ∀ before tag after, lines = before ++ opening tag :: after → tag ∉ unmatched before
  opens_outermost : allowNesting = false → ∀ before tag after,
    lines = before ++ opening tag :: after → unmatched before = []

/-- A sequence of lines with its unmatched tags: paired parts, and an opening line between each two
of them. -/
inductive Opened : List BlockTagLine → List BlockTag → Prop
  | paired {w : List BlockTagLine} (hw : Paired w) : Opened w []
  | opened {w rest : List BlockTagLine} {tags : List BlockTag} (hw : Paired w) (tag : BlockTag)
      (tail : Opened rest tags) : Opened (w ++ opening tag :: rest) (tag :: tags)

/-- With `depth` tags open before the lines, none of them closes a tag where nothing is open. -/
def NeverBelow : Nat → List BlockTagLine → Prop
  | _, [] => True
  | depth, ⟨_, true⟩ :: rest => NeverBelow (depth + 1) rest
  | 0, ⟨_, false⟩ :: _ => False
  | depth + 1, ⟨_, false⟩ :: rest => NeverBelow depth rest

variable {tag : BlockTag} {tags : List BlockTag} {w lines rest : List BlockTagLine}

/-! ## Unmatched lines -/

/-- A closing line leaves nothing open by itself. -/
theorem unmatched_closing : unmatched (closing tag :: rest) = unmatched rest := by
  simp [unmatched]

/-- An opening line that is closed later leaves nothing open. -/
theorem unmatched_of_matched (h : Matched tag rest) :
    unmatched (opening tag :: rest) = unmatched rest := by
  simp [unmatched, h]

/-- An opening line that is not closed leaves its tag open, outside of what is opened later. -/
theorem unmatched_of_not_matched (h : ¬ Matched tag rest) :
    unmatched (opening tag :: rest) = tag :: unmatched rest := by
  simp [unmatched, h]

/-- Every opening line of a paired sequence has its match there. -/
theorem Paired.unmatched_append (h : Paired w) (rest : List BlockTagLine) :
    unmatched (w ++ rest) = unmatched rest := by
  induction h generalizing rest with
  | nil => rfl
  | @block tag inner more hinner hmore ihInner ihMore =>
      have hmatched : Matched tag (inner ++ closing tag :: (more ++ rest)) :=
        ⟨inner, more ++ rest, hinner, rfl⟩
      calc unmatched (opening tag :: (inner ++ closing tag :: more) ++ rest)
          = unmatched (opening tag :: (inner ++ closing tag :: (more ++ rest))) := by simp
        _ = unmatched (inner ++ closing tag :: (more ++ rest)) := unmatched_of_matched hmatched
        _ = unmatched (more ++ rest) := by rw [ihInner, unmatched_closing]
        _ = unmatched rest := ihMore rest

/-- A paired sequence leaves as many tags open as there were. -/
theorem Paired.neverBelow_append_iff (h : Paired w) (depth : Nat) (rest : List BlockTagLine) :
    NeverBelow depth (w ++ rest) ↔ NeverBelow depth rest := by
  induction h generalizing depth rest with
  | nil => rfl
  | @block tag inner more hinner hmore ihInner ihMore =>
      have hline : opening tag :: (inner ++ closing tag :: more) ++ rest =
          opening tag :: (inner ++ closing tag :: (more ++ rest)) := by
        simp
      rw [hline, NeverBelow, ihInner, NeverBelow, ihMore]

/-- Lines that leave tags open never close more than they opened. -/
theorem Opened.neverBelow (h : Opened lines tags) (depth : Nat) : NeverBelow depth lines := by
  induction h generalizing depth with
  | @paired w hw =>
      rw [← List.append_nil w, hw.neverBelow_append_iff]
      trivial
  | opened hw tag tail ih =>
      rw [hw.neverBelow_append_iff]
      exact ih (depth + 1)

/-- An opening line before such a sequence has no match in it: the match would close a tag where
nothing is open. -/
theorem Opened.not_matched (h : Opened lines tags) (tag : BlockTag) : ¬ Matched tag lines := by
  rintro ⟨inner, rest, hinner, rfl⟩
  have hbelow := h.neverBelow 0
  rw [hinner.neverBelow_append_iff] at hbelow
  exact hbelow

/-- The tags that such lines leave open are those of their unmatched opening lines. -/
theorem Opened.unmatched_eq (h : Opened lines tags) : unmatched lines = tags := by
  induction h with
  | @paired w hw =>
      rw [← List.append_nil w, hw.unmatched_append]
      rfl
  | opened hw tag tail ih =>
      rw [hw.unmatched_append, unmatched_of_not_matched (tail.not_matched tag), ih]

/-! ## One line more -/

/-- Paired lines may follow one another. -/
theorem Paired.append (h : Paired w) (hrest : Paired rest) : Paired (w ++ rest) := by
  induction h with
  | nil => exact hrest
  | @block tag inner more hinner hmore _ ihMore =>
      have hline : opening tag :: (inner ++ closing tag :: more) ++ rest =
          opening tag :: (inner ++ closing tag :: (more ++ rest)) := by
        simp
      rw [hline]
      exact .block tag hinner ihMore

/-- One more opening line leaves one more tag open. -/
theorem Opened.opening_concat (h : Opened lines tags) (tag : BlockTag) :
    Opened (lines ++ [opening tag]) (tags ++ [tag]) := by
  induction h with
  | paired hw => exact .opened hw tag (.paired .nil)
  | opened hw first tail ih =>
      rw [List.append_assoc]
      exact .opened hw first ih

/-- A closing line makes the last unmatched opening line and all after it one block. -/
theorem Opened.closing_concat (h : Opened lines (tags ++ [tag])) :
    Opened (lines ++ [closing tag]) tags := by
  generalize hall : tags ++ [tag] = all at h
  induction h generalizing tags with
  | paired hw => simp at hall
  | @opened w rest later hw first tail ih =>
      rw [List.append_assoc, List.cons_append]
      cases tags with
      | nil =>
          obtain ⟨rfl, rfl⟩ : tag = first ∧ [] = later := by simpa using hall
          cases tail with
          | paired hrest => exact .paired (hw.append (.block tag hrest .nil))
      | cons outer tags =>
          obtain ⟨rfl, rfl⟩ : outer = first ∧ tags ++ [tag] = later := by simpa using hall
          exact .opened hw outer (ih rfl)

end BlockTagLine

namespace Scope

variable {allowNesting : Bool} {s next : Scope} {lines : List BlockTagLine}

/-! ## The stack -/

/-- A run that breaks no rule leaves the unmatched tags on the stack. -/
theorem opened_of_applyAll (h : (new allowNesting).applyAll lines = (.ok (), s)) :
    Opened lines s.openTags := by
  induction lines using List.reverseRecOn generalizing s with
  | nil =>
      obtain rfl : new allowNesting = s := by simpa using h
      exact .paired .nil
  | append_singleton lines line ih =>
      obtain ⟨mid, hmid, hline⟩ := applyAll_append_eq_ok.1 h
      have hopened := ih hmid
      rw [applyAll_singleton] at hline
      rcases apply_cases hline with ⟨hopening, -, -, rfl⟩ | ⟨hclosing, hstack, -⟩
      · rw [hopening]
        simpa [openTags] using hopened.opening_concat line.tag
      · rw [hclosing]
        apply Opened.closing_concat
        simpa [openTags, hstack] using hopened

/-- **The stack holds the unmatched tags**, outermost first. -/
theorem openTags_eq_unmatched (h : (new allowNesting).applyAll lines = (.ok (), s)) :
    s.openTags = unmatched lines :=
  (opened_of_applyAll h).unmatched_eq.symm

/-- No line changes whether nesting is allowed. -/
theorem allowNesting_of_applyAll (h : s.applyAll lines = (.ok (), next)) :
    next.allowNesting = s.allowNesting := by
  induction lines using List.reverseRecOn generalizing next with
  | nil =>
      obtain rfl : s = next := by simpa using h
      rfl
  | append_singleton lines line ih =>
      obtain ⟨mid, hmid, hline⟩ := applyAll_append_eq_ok.1 h
      rw [applyAll_singleton] at hline
      have hkept := mid.allowNesting_apply line
      rw [hline] at hkept
      exact hkept.trans (ih hmid)

/-- A line of a passing sequence passes in the scope that the lines before it have left. -/
theorem exists_of_applyAll {before after : List BlockTagLine} {line : BlockTagLine}
    (h : s.applyAll (before ++ line :: after) = (.ok (), next)) :
    ∃ mid mid', s.applyAll before = (.ok (), mid) ∧ mid.apply line = (.ok (), mid') := by
  rw [← List.singleton_append, ← List.append_assoc] at h
  obtain ⟨mid', hmid', -⟩ := applyAll_append_eq_ok.1 h
  obtain ⟨mid, hmid, hline⟩ := applyAll_append_eq_ok.1 hmid'
  rw [applyAll_singleton] at hline
  exact ⟨mid, mid', hmid, hline⟩

/-! ## The rules -/

/-- What passes and leaves nothing open is well bracketed. -/
theorem wellBracketed_of_applyAll (h : (new allowNesting).applyAll lines = (.ok (), s))
    (hclosed : s.openTags = []) : WellBracketed allowNesting lines where
  closes_last := by
    intro before tag after hlines
    obtain ⟨mid, mid', hmid, hline⟩ := exists_of_applyAll (hlines ▸ h)
    obtain ⟨hstack, -⟩ := exit_eq_ok.1 hline
    rw [← openTags_eq_unmatched hmid, openTags, hstack]
    simp
  all_closed := by
    rw [← openTags_eq_unmatched h, hclosed]
  opens_new := by
    intro before tag after hlines
    obtain ⟨mid, mid', hmid, hline⟩ := exists_of_applyAll (hlines ▸ h)
    obtain ⟨hnew, -, -⟩ := enter_eq_ok.1 hline
    rw [← openTags_eq_unmatched hmid, openTags]
    simpa using hnew
  opens_outermost := by
    intro hflat before tag after hlines
    obtain ⟨mid, mid', hmid, hline⟩ := exists_of_applyAll (hlines ▸ h)
    obtain ⟨-, hnesting, -⟩ := enter_eq_ok.1 hline
    have hkept : mid.allowNesting = allowNesting := allowNesting_of_applyAll hmid
    rw [hkept, hflat] at hnesting
    rw [← openTags_eq_unmatched hmid, openTags]
    simpa using hnesting

/-- No line of a well bracketed sequence breaks a rule. -/
theorem exists_applyAll_of_wellBracketed (h : WellBracketed allowNesting lines)
    {front : List BlockTagLine} (hfront : front <+: lines) :
    ∃ s, (new allowNesting).applyAll front = (.ok (), s) := by
  induction front using List.reverseRecOn with
  | nil => exact ⟨_, applyAll_nil _⟩
  | append_singleton before line ih =>
      obtain ⟨after, hlines⟩ := hfront
      rw [List.append_assoc, List.singleton_append] at hlines
      obtain ⟨mid, hmid⟩ := ih ⟨line :: after, hlines⟩
      have hunmatched := openTags_eq_unmatched hmid
      suffices hline : ∃ next, mid.apply line = (.ok (), next) by
        obtain ⟨next, hline⟩ := hline
        exact ⟨next, applyAll_append_eq_ok.2 ⟨mid, hmid, (applyAll_singleton mid line).trans hline⟩⟩
      obtain ⟨tag, entering⟩ := line
      cases entering with
      | true =>
          have hnew := h.opens_new before tag after hlines.symm
          rw [← hunmatched, openTags, List.mem_reverse] at hnew
          refine ⟨_, enter_eq_ok.2 ⟨hnew, ?_, rfl⟩⟩
          cases allowNesting with
          | true => exact Or.inl (allowNesting_of_applyAll hmid)
          | false =>
              have hnone := h.opens_outermost rfl before tag after hlines.symm
              rw [← hunmatched, openTags, List.reverse_eq_nil_iff] at hnone
              exact Or.inr hnone
      | false =>
          have hlast := h.closes_last before tag after hlines.symm
          rw [← hunmatched, openTags, List.getLast?_reverse, List.head?_eq_some_iff] at hlast
          obtain ⟨below, hstack⟩ := hlast
          exact ⟨{ mid with stack := below }, exit_eq_ok.2 ⟨hstack, rfl⟩⟩

/-- **A scope passes exactly the well bracketed sequences.**  If a sequence breaks no rule and
leaves tags open, the error at the end lists those of the opening lines without a match, in the
order of the lines. -/
theorem closes_iff_wellBracketed (allowNesting : Bool) (lines : List BlockTagLine) :
    ((∃ s, (new allowNesting).applyAll lines = (.ok (), s) ∧ s.unclosed? = none) ↔
        WellBracketed allowNesting lines) ∧
      ∀ s e, (new allowNesting).applyAll lines = (.ok (), s) → s.unclosed? = some e →
        e = .unclosed (unmatched lines) := by
  refine ⟨⟨?_, ?_⟩, ?_⟩
  · rintro ⟨s, hrun, hfinish⟩
    refine wellBracketed_of_applyAll hrun ?_
    by_contra hopen
    rw [unclosed?_of_ne_nil hopen] at hfinish
    cases hfinish
  · intro h
    obtain ⟨s, hrun⟩ := exists_applyAll_of_wellBracketed h (List.prefix_refl lines)
    refine ⟨s, hrun, unclosed?_of_openTags ?_⟩
    rw [openTags_eq_unmatched hrun, h.all_closed]
  · intro s e hrun hfinish
    by_cases hopen : s.openTags = []
    · rw [unclosed?_of_openTags hopen] at hfinish
      cases hfinish
    · rw [unclosed?_of_ne_nil hopen, openTags_eq_unmatched hrun] at hfinish
      exact (Option.some.inj hfinish).symm

end Scope

end MacroBody

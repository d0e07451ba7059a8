import MacroBody.Proofs.Arguments.Written
import MacroBody.Proofs.Text.Joined
import MacroBody.Proofs.Text.Padding

/-!
# Method calls written out

A method call has one plain spelling (`plainForm`): the name and, in parentheses, the arguments with
a comma and a space between them.  This file says which calls can be read at all
(`wellFormed_of_read`) and that each of them is read from its plain spelling (`read_plainForm`).

Arguments are returned without the blanks around them.  The key local fact is `OnePiece.trim`: what
is left is still balanced and still one piece, because a blank at either end of balanced text is a
character of the outermost sequence and not part of a quoted string or a group.
-/

namespace MacroBody

open Text

namespace Arguments

variable {t t' u front args : Text} {arguments : List Text}

/-- What an argument can be: balanced text on one line, without a comma of its own and without
blanks around it. -/
structure IsArgument (t : Text) : Prop where
  tight : Tight t
  onePiece : OnePiece t
  oneLine : '\n' ∉ t

/-! ## Pieces -/

theorem onePiece_nil : OnePiece [] :=
  ⟨.done, rfl, rfl⟩

/-- Text of one piece may be put before the first of several pieces. -/
theorem OnePiece.forall_mem_modifyHead {parts : List Text} (hfront : OnePiece front)
    (hparts : ∀ part ∈ parts, OnePiece part) :
    ∀ part ∈ parts.modifyHead (front ++ ·), OnePiece part := by
  cases parts with
  | nil => exact hparts
  | cons first more =>
      intro part hpart
      rcases List.mem_cons.1 hpart with rfl | hpart
      · exact hfront.append (hparts first List.mem_cons_self)
      · exact hparts part (List.mem_cons_of_mem _ hpart)

/-- The pieces of a reading are balanced. -/
theorem Reading.onePiece_of_mem_pieces (r : Reading) : ∀ piece ∈ r.pieces, OnePiece piece := by
  induction r with
  | done => simpa [pieces] using onePiece_nil
  | ordinary c hc rest ih =>
      by_cases hcomma : c = ','
      · simp only [pieces, hcomma, if_true]
        exact List.forall_mem_cons.2 ⟨onePiece_nil, ih⟩
      · simp only [pieces, hcomma, if_false]
        have hone : OnePiece [c] := ⟨.ordinary c hc .done, rfl, by simp [commas, hcomma]⟩
        exact hone.forall_mem_modifyHead ih
  | quoted string rest ih =>
      have hone : OnePiece ('"' :: string.text) :=
        ⟨.quoted string .done, by simp [text], rfl⟩
      exact hone.forall_mem_modifyHead ih
  | group inner rest _ ih =>
      have hone : OnePiece ('(' :: (inner.text ++ [')'])) := ⟨.group inner .done, rfl, rfl⟩
      exact hone.forall_mem_modifyHead ih

/-! ## Blanks around a piece -/

/-- A piece stays one without the blanks before it. -/
theorem OnePiece.of_blank_append (hu : AllBlank u) (h : OnePiece (u ++ t)) : OnePiece t := by
  induction u with
  | nil => exact h
  | cons c u ih =>
      obtain ⟨hc, hu⟩ := List.forall_mem_cons.1 hu
      obtain ⟨r, hr, hcommas⟩ := h
      apply ih hu
      cases r with
      | done => cases hr
      | ordinary c' hc' rest =>
          obtain ⟨rfl, hrest⟩ := List.cons.inj hr
          have hne : c' ≠ ',' := by
            rintro rfl
            cases hc
          exact ⟨rest, hrest, by simpa [Reading.commas, hne] using hcommas⟩
      | quoted string rest =>
          obtain ⟨rfl, -⟩ := List.cons.inj hr
          cases hc
      | group inner rest =>
          obtain ⟨rfl, -⟩ := List.cons.inj hr
          cases hc

/-- A quoted string ends with its closing quote. -/
theorem Quoted.exists_text (q : Quoted) : ∃ inner, q.text = inner ++ ['"'] := by
  induction q with
  | close => exact ⟨[], rfl⟩
  | plain c hquote hescape rest ih =>
      obtain ⟨inner, hinner⟩ := ih
      exact ⟨c :: inner, by simp [text, hinner]⟩
  | escaped c rest ih =>
      obtain ⟨inner, hinner⟩ := ih
      exact ⟨'\\' :: c :: inner, by simp [text, hinner]⟩

/-- Blanks after a text belong to the outermost sequence of its reading. -/
theorem OnePiece.of_padded (h : Padded t t') (h' : OnePiece t') : OnePiece t := by
  obtain ⟨r, rfl, hcommas⟩ := h'
  induction r generalizing t with
  | done =>
      obtain ⟨pad, -, -, hpad⟩ := h
      obtain ⟨rfl, -⟩ := List.append_eq_nil_iff.1 hpad.symm
      exact onePiece_nil
  | ordinary c hc rest ih =>
      cases t with
      | nil => exact onePiece_nil
      | cons c' t =>
          obtain ⟨tail, heq, htail⟩ := h.exists_cons
          obtain ⟨rfl, rfl⟩ := List.cons.inj heq
          have hne : c ≠ ',' := by
            rintro rfl
            simp [Reading.commas] at hcommas
          have hrest : OnePiece t := ih (by simpa [Reading.commas, hne] using hcommas) htail
          exact OnePiece.append ⟨.ordinary c hc .done, rfl, by simp [Reading.commas, hne]⟩ hrest
  | quoted string rest ih =>
      have hstops : Stops isBlank ('"' :: string.text).reverse := by
        obtain ⟨inner, hinner⟩ := string.exists_text
        rw [hinner, ← List.cons_append, List.reverse_append]
        exact stops_cons.2 (by decide)
      have hsplit : (Reading.quoted string rest).text = ('"' :: string.text) ++ rest.text := rfl
      obtain ⟨x, rfl, hx⟩ := (hsplit ▸ h).of_append hstops
      exact OnePiece.append ⟨.quoted string .done, by simp [Reading.text], rfl⟩ (ih hcommas hx)
  | group inner rest _ ih =>
      have hstops : Stops isBlank ('(' :: (inner.text ++ [')'])).reverse := by
        rw [← List.cons_append, List.reverse_append]
        exact stops_cons.2 (by decide)
      have hsplit : (Reading.group inner rest).text = '(' :: (inner.text ++ [')']) ++ rest.text := by
        simp [Reading.text]
      obtain ⟨x, rfl, hx⟩ := (hsplit ▸ h).of_append hstops
      exact OnePiece.append ⟨.group inner .done, rfl, rfl⟩ (ih hcommas hx)

/-- **A piece without the blanks around it is one piece.** -/
theorem OnePiece.trim (h : OnePiece t) (hline : '\n' ∉ t) : OnePiece t.trim := by
  obtain ⟨u, v, hu, hv, ht⟩ := exists_trim t
  have hpad : '\n' ∉ v := by
    intro hmem
    exact hline (ht ▸ List.mem_append_right _ hmem)
  rw [ht, List.append_assoc] at h
  exact (h.of_blank_append hu).of_padded (padded_append t.trim hv hpad)

/-! ## Splitting and joining -/

/-- **What a list is split into are arguments**, and there is one at least. -/
theorem isArgument_of_split (h : split args = .ok arguments) (hline : '\n' ∉ args) :
    arguments ≠ [] ∧ ∀ argument ∈ arguments, IsArgument argument := by
  obtain ⟨r, rfl, rfl⟩ := exists_reading_of_split h
  refine ⟨by simpa using r.pieces_ne_nil, ?_⟩
  intro argument hargument
  obtain ⟨piece, hpiece, rfl⟩ := List.mem_map.1 hargument
  have hpieceLine : '\n' ∉ piece := by
    intro hmem
    apply hline
    rw [← r.join_pieces]
    exact mem_join_of_mem hpiece hmem
  exact ⟨tight_trim piece, (r.onePiece_of_mem_pieces piece hpiece).trim hpieceLine,
    fun hmem => hpieceLine (mem_of_mem_trim hmem)⟩

/-- **Written arguments are split again.** -/
theorem split_join (hne : arguments ≠ []) (h : ∀ argument ∈ arguments, IsArgument argument) :
    split (Text.join ", ".toList arguments) = .ok arguments := by
  have hparts : ∀ part ∈ spaced arguments, OnePiece part := by
    intro part hpart
    obtain ⟨argument, hargument, rfl | rfl⟩ := mem_spaced hpart
    · exact (h _ hargument).onePiece
    · have hblank : AllBlank [' '] := by decide
      exact (onePiece_of_allBlank hblank).append (h _ hargument).onePiece
  obtain ⟨r, hr, hpieces⟩ := exists_reading_join (spaced_ne_nil hne) hparts
  have htrim : arguments.map Text.trim = arguments :=
    map_trim_of_tight fun argument hargument => (h argument hargument).tight
  rw [join_comma_space, ← hr, split_text, hpieces, map_trim_spaced, htrim]

end Arguments

namespace MethodCall

open Arguments

variable {m : MethodCall} {line : Text}

/-- The plain spelling of a call. -/
def plainForm (m : MethodCall) : Text :=
  m.methodName ++ '(' :: Text.join ", ".toList m.arguments ++ [')']

/-- What holds of every call that is read. -/
structure WellFormed (m : MethodCall) : Prop where
  name : m.methodName.isName = true
  nonempty : m.arguments ≠ []
  arguments : ∀ argument ∈ m.arguments, IsArgument argument

/-- **What is read is well formed.** -/
theorem wellFormed_of_read (h : read line = .accepted m) : m.WellFormed := by
  unfold read at h
  split at h
  · cases h
  · rename_i name args hshape
    obtain ⟨gap, -, -, hname, hline⟩ := shape?_eq_some.1 hshape
    cases hsplit : Arguments.split args with
    | error cause =>
        rw [hsplit] at h
        cases h
    | ok arguments =>
        rw [hsplit] at h
        cases h
        obtain ⟨hne, harguments⟩ := isArgument_of_split hsplit hline
        exact ⟨hname, hne, harguments⟩

/-- **A well formed call is read from its plain spelling.** -/
theorem read_plainForm (h : m.WellFormed) : read m.plainForm = .accepted m := by
  have htight : Tight m.plainForm := by
    constructor
    · rw [plainForm, List.append_assoc]
      exact stops_isBlank_token (isToken_of_isName h.name) _
    · rw [plainForm, List.reverse_append]
      exact stops_cons.2 (by decide)
  have hshape : shape? m.plainForm =
      some (m.methodName, Text.join ", ".toList m.arguments) := by
    have hline : '\n' ∉ Text.join ", ".toList m.arguments :=
      oneLine_join fun argument hargument => (h.arguments argument hargument).oneLine
    refine shape?_eq_some.2 ⟨[], allBlank_nil, ?_, h.name, hline⟩
    rw [trim_of_tight htight, plainForm, List.append_nil]
  rw [read, hshape]
  simp only [split_join h.nonempty h.arguments]
  rfl

end MethodCall

end MacroBody

import MacroBody.Proofs.Arguments.Balanced
import MacroBody.Proofs.Grammar.Shape

/-!
# Calls as they are written

A call can be written in many ways: blanks may stand around it, around its name and around each of
its arguments.  This file says that all of them read back.

The outer shape of a call is found by its ends alone, so what matters is the argument list.  Its
reading is put together from those of its parts: readings can be appended (`Reading.append`), blanks
and arguments are each one piece (`OnePiece`), and a comma between two parts starts a new piece
(`exists_reading_join`).
-/

namespace MacroBody

open Text

namespace Arguments

/-- The first reading and then the second one. -/
def Reading.append : Reading → Reading → Reading
  | done, later => later
  | ordinary c hc rest, later => ordinary c hc (rest.append later)
  | quoted string rest, later => quoted string (rest.append later)
  | group inner rest, later => group inner (rest.append later)

/-- Balanced text without a comma outside quoted strings and groups. -/
def OnePiece (t : Text) : Prop :=
  ∃ r : Reading, r.text = t ∧ r.commas = 0

/-- An argument as it stands in a call, with blanks around it. -/
structure Slot where
  left : Text
  argument : Text
  right : Text
  blank_left : AllBlank left
  blank_right : AllBlank right
  tight : Tight argument
  onePiece : OnePiece argument
  oneLine : '\n' ∉ left ++ argument ++ right

/-- The text of a slot, blanks included. -/
def Slot.text (s : Slot) : Text :=
  s.left ++ s.argument ++ s.right

/-! ## Readings put together -/

theorem Reading.text_append (r later : Reading) :
    (r.append later).text = r.text ++ later.text := by
  induction r with
  | done => rfl
  | ordinary c hc rest ih => simp [append, text, ih]
  | quoted string rest ih => simp [append, text, ih]
  | group inner rest _ ih => simp [append, text, ih]

theorem Reading.commas_append (r later : Reading) :
    (r.append later).commas = r.commas + later.commas := by
  induction r with
  | done => simp [append, commas]
  | ordinary c hc rest ih =>
      by_cases hcomma : c = ','
      · simp only [append, commas, hcomma, if_true, ih]
        omega
      · simp [append, commas, hcomma, ih]
  | quoted string rest ih => simp [append, commas, ih]
  | group inner rest _ ih => simp [append, commas, ih]

/-- The last piece of the first reading goes on in the first piece of the second one. -/
theorem Reading.pieces_append (r later : Reading) :
    (r.append later).pieces = glue r.pieces later.pieces := by
  induction r with
  | done =>
      obtain ⟨first, more, hparts⟩ := List.exists_cons_of_ne_nil later.pieces_ne_nil
      simp [append, pieces, glue, hparts]
  | ordinary c hc rest ih =>
      by_cases hcomma : c = ','
      · simp only [append, pieces, hcomma, if_true, ih]
        exact (glue_cons [] rest.pieces_ne_nil later.pieces).symm
      · simp only [append, pieces, hcomma, if_false, ih]
        exact (glue_modifyHead [c] rest.pieces_ne_nil later.pieces).symm
  | quoted string rest ih =>
      simp only [append, pieces, ih]
      exact (glue_modifyHead _ rest.pieces_ne_nil later.pieces).symm
  | group inner rest _ ih =>
      simp only [append, pieces, ih]
      exact (glue_modifyHead _ rest.pieces_ne_nil later.pieces).symm

/-- Without a comma the whole text is the only piece. -/
theorem Reading.pieces_eq_singleton {r : Reading} (h : r.commas = 0) : r.pieces = [r.text] := by
  have hlength : r.pieces.length = 1 := by
    rw [r.length_pieces, h]
  obtain ⟨piece, hpiece⟩ := List.length_eq_one_iff.1 hlength
  have hjoin := r.join_pieces
  rw [hpiece] at hjoin
  obtain rfl : piece = r.text := by simpa [Text.join] using hjoin
  exact hpiece

/-! ## Parts of an argument list -/

/-- Texts of one piece are one piece together. -/
theorem OnePiece.append {t t' : Text} (h : OnePiece t) (h' : OnePiece t') : OnePiece (t ++ t') := by
  obtain ⟨r, rfl, hr⟩ := h
  obtain ⟨r', rfl, hr'⟩ := h'
  exact ⟨r.append r', r.text_append r', by rw [r.commas_append, hr, hr']⟩

/-- Blanks are ordinary characters, and no commas. -/
theorem onePiece_of_allBlank {t : Text} (h : AllBlank t) : OnePiece t := by
  induction t with
  | nil => exact ⟨.done, rfl, rfl⟩
  | cons c t ih =>
      obtain ⟨r, rfl, hr⟩ := ih fun x hx => h x (List.mem_cons_of_mem _ hx)
      have hblank : isBlank c = true := h c List.mem_cons_self
      have hne : ∀ m : Char, isMark m = true → c ≠ m := by
        intro m hmark heq
        rw [heq, isBlank_of_isMark hmark] at hblank
        cases hblank
      have hc : isOrdinary c = true := by
        simp [isOrdinary, hne '"' rfl, hne '(' rfl, hne ')' rfl]
      exact ⟨.ordinary c hc r, rfl, by simp [Reading.commas, hne ',' rfl, hr]⟩

/-- Blanks around an argument leave it one piece. -/
theorem Slot.onePiece_text (s : Slot) : OnePiece s.text :=
  ((onePiece_of_allBlank s.blank_left).append s.onePiece).append
    (onePiece_of_allBlank s.blank_right)

/-- An argument is the trimmed text of its slot. -/
theorem Slot.trim_text (s : Slot) : s.text.trim = s.argument :=
  trim_append s.blank_left s.blank_right s.tight

/-- **Parts with commas between them are the pieces** of what they are joined to. -/
theorem exists_reading_join {parts : List Text} (hne : parts ≠ [])
    (hparts : ∀ part ∈ parts, OnePiece part) :
    ∃ r : Reading, r.text = Text.join [','] parts ∧ r.pieces = parts := by
  induction parts with
  | nil => exact absurd rfl hne
  | cons first more ih =>
      obtain ⟨r, hr, hcommas⟩ := hparts first List.mem_cons_self
      have hpieces : r.pieces = [first] := by
        rw [Reading.pieces_eq_singleton hcommas, hr]
      cases more with
      | nil => exact ⟨r, by simp [hr, Text.join], hpieces⟩
      | cons second more =>
          obtain ⟨later, hlater, hlaterPieces⟩ :=
            ih (by simp) fun part hpart => hparts part (List.mem_cons_of_mem _ hpart)
          refine ⟨r.append (.ordinary ',' rfl later), ?_, ?_⟩
          · rw [Reading.text_append, hr, join_cons_cons, ← hlater]
            rfl
          · rw [Reading.pieces_append, hpieces]
            simp [Reading.pieces, glue, hlaterPieces]

/-- An argument list is split into what its slots hold. -/
theorem split_slots {slots : List Slot} (hne : slots ≠ []) :
    split (Text.join [','] (slots.map Slot.text)) = .ok (slots.map Slot.argument) := by
  have hparts : ∀ part ∈ slots.map Slot.text, OnePiece part := by
    intro part hpart
    obtain ⟨s, -, rfl⟩ := List.mem_map.1 hpart
    exact s.onePiece_text
  obtain ⟨r, hr, hpieces⟩ := exists_reading_join (by simpa using hne) hparts
  rw [← hr, split_text, hpieces, List.map_map]
  congr 1
  exact List.map_congr_left fun s _ => s.trim_text

/-- Written arguments stay on one line. -/
theorem oneLine_slots (slots : List Slot) : '\n' ∉ Text.join [','] (slots.map Slot.text) := by
  intro hmem
  rcases mem_join hmem with hcomma | ⟨part, hpart, hmem⟩
  · simp at hcomma
  · obtain ⟨s, -, rfl⟩ := List.mem_map.1 hpart
    exact s.oneLine hmem

end Arguments

open Arguments

namespace MethodCall

/-- **However a call is written, it reads back.** -/
theorem read_written {name lead gap trail : Text} {slots : List Slot} (hname : name.isName = true)
    (hlead : AllBlank lead) (hgap : AllBlank gap) (htrail : AllBlank trail) (hslots : slots ≠ []) :
    read (lead ++ name ++ gap ++ '(' :: Text.join [','] (slots.map Slot.text) ++ ')' :: trail) =
      .accepted ⟨name, slots.map Slot.argument⟩ := by
  generalize hargs : Text.join [','] (slots.map Slot.text) = args
  -- The call stands between a letter and the closing parenthesis.
  have htight : Tight (name ++ gap ++ '(' :: args ++ [')']) := by
    constructor
    · rw [List.append_assoc, List.append_assoc]
      exact stops_isBlank_token (isToken_of_isName hname) _
    · rw [List.reverse_append]
      exact stops_cons.2 (by decide)
  have htrim : trim (lead ++ name ++ gap ++ '(' :: args ++ ')' :: trail) =
      name ++ gap ++ '(' :: args ++ [')'] := by
    have hline : lead ++ name ++ gap ++ '(' :: args ++ ')' :: trail =
        lead ++ (name ++ gap ++ '(' :: args ++ [')']) ++ trail := by
      simp
    rw [hline]
    exact trim_append hlead htrail htight
  have hshape : shape? (lead ++ name ++ gap ++ '(' :: args ++ ')' :: trail) = some (name, args) :=
    shape?_eq_some.2 ⟨gap, hgap, htrim, hname, hargs ▸ oneLine_slots slots⟩
  rw [read, hshape, ← hargs]
  simp only [split_slots hslots]
  rfl

/-- A comma and parentheses in a quoted string, an escaped quote, a group and an empty argument. -/
theorem read_written_nested :
    Text.isName "log".toList = true ∧
      read " log\t( \"x,)\\\"\" ,(b, c),)\n".toList =
        .accepted ⟨"log".toList, ["\"x,)\\\"\"".toList, "(b, c)".toList, []]⟩ := by
  have htight : ∀ t : Text, t.trim = t → Tight t := fun t h => (trim_eq_iff.1 h).1
  let string : Quoted :=
    .plain 'x' (by decide) (by decide) (.plain ',' (by decide) (by decide)
      (.plain ')' (by decide) (by decide) (.escaped '"' .close)))
  let inner : Reading :=
    .ordinary 'b' rfl (.ordinary ',' rfl (.ordinary ' ' rfl (.ordinary 'c' rfl .done)))
  let slots : List Slot :=
    [⟨[' '], _, [' '], by decide, by decide, htight _ (by decide),
        ⟨.quoted string .done, rfl, rfl⟩, by decide⟩,
      ⟨[], _, [], by decide, by decide, htight _ (by decide), ⟨.group inner .done, rfl, rfl⟩,
        by decide⟩,
      ⟨[], _, [], by decide, by decide, htight _ (by decide), ⟨.done, rfl, rfl⟩, by decide⟩]
  have hname : Text.isName "log".toList = true := by decide
  have hlead : AllBlank [' '] := by decide
  have hgap : AllBlank ['\t'] := by decide
  have htrail : AllBlank ['\n'] := by decide
  have hslots : slots ≠ [] := by simp [slots]
  exact ⟨hname, read_written hname hlead hgap htrail hslots⟩

end MethodCall

end MacroBody

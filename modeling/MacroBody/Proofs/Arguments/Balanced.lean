import Mathlib.Data.List.Basic
import MacroBody.Grammar.Arguments

/-!
# Balanced argument lists

The splitter is a stack machine.  This file puts a grammar beside it.  A `Reading` is a way to
read a text as ordinary characters, complete quoted strings and parenthesised groups, and a text is
balanced when it has a reading.  The grammar knows nothing of frames: the commas that count are
those that stand in the outermost sequence of a reading.

Every text falls into one of three classes (`course`): it is balanced, or a balanced
start of it is followed by a closing parenthesis, or it ends inside a construct (`LeftOpen`).  The
machine does something different on each class:

* `pieces_text` — on the text of a reading it returns the pieces of that reading;
* `pieces_closeUnopened` — at the parenthesis after a balanced start it stops there;
* `pieces_leftOpen` — on a text that ends inside a construct it reports that.

The key local fact is that balanced text inside an open parenthesis leaves the stack as it was
(`piecesFrom_paren_text`).
-/

namespace MacroBody.Arguments

/-- Whether `c` stands for itself outside quoted strings. -/
def isOrdinary (c : Char) : Bool :=
  c ≠ '"' && c ≠ '(' && c ≠ ')'

/-- What follows the opening quote of a complete quoted string.  A backslash takes the character
after it, whatever that is. -/
inductive Quoted
  | close
  | plain (c : Char) (hquote : c ≠ '"') (hescape : c ≠ '\\') (rest : Quoted)
  | escaped (c : Char) (rest : Quoted)

/-- The text after the opening quote, the closing quote included. -/
def Quoted.text : Quoted → Text
  | close => ['"']
  | plain c _ _ rest => c :: rest.text
  | escaped c rest => '\\' :: c :: rest.text

/-- A way to read a text as a sequence of ordinary characters, quoted strings and groups. -/
inductive Reading
  | done
  | ordinary (c : Char) (hc : isOrdinary c = true) (rest : Reading)
  | quoted (string : Quoted) (rest : Reading)
  | group (inner rest : Reading)

namespace Reading

/-- The text that is read. -/
def text : Reading → Text
  | done => []
  | ordinary c _ rest => c :: rest.text
  | quoted string rest => '"' :: (string.text ++ rest.text)
  | group inner rest => '(' :: (inner.text ++ ')' :: rest.text)

/-- The number of commas outside every quoted string and every group. -/
def commas : Reading → Nat
  | done => 0
  | ordinary c _ rest => if c = ',' then rest.commas + 1 else rest.commas
  | quoted _ rest => rest.commas
  | group _ rest => rest.commas

/-- The pieces of the text between the commas outside every quoted string and every group. -/
def pieces : Reading → List Text
  | done => [[]]
  | ordinary c _ rest => if c = ',' then [] :: rest.pieces else rest.pieces.modifyHead (c :: ·)
  | quoted string rest => rest.pieces.modifyHead ('"' :: string.text ++ ·)
  | group inner rest => rest.pieces.modifyHead ('(' :: (inner.text ++ [')']) ++ ·)

end Reading

/-- A text that can be read as balanced. -/
def Balanced (t : Text) : Prop :=
  ∃ r : Reading, r.text = t

/-- `q` is a start of `args` that consists of balanced text and a closing parenthesis. -/
def ClosesUnopened (args q : Text) : Prop :=
  q <+: args ∧ ∃ r : Reading, q = r.text ++ [')']

/-- What follows the opening quote of a quoted string that is never closed. -/
inductive OpenQuoted : Text → Prop
  | nil : OpenQuoted []
  | backslash : OpenQuoted ['\\']
  | plain {c : Char} {t : Text} (hquote : c ≠ '"') (hescape : c ≠ '\\') (rest : OpenQuoted t) :
      OpenQuoted (c :: t)
  | escaped (c : Char) {t : Text} (rest : OpenQuoted t) : OpenQuoted ('\\' :: c :: t)

/-- A text that ends inside a quoted string or a group. -/
inductive LeftOpen : Text → Prop
  | quote (r : Reading) {t : Text} (tail : OpenQuoted t) : LeftOpen (r.text ++ '"' :: t)
  | group (r inner : Reading) : LeftOpen (r.text ++ '(' :: inner.text)
  | within (r : Reading) {t : Text} (tail : LeftOpen t) : LeftOpen (r.text ++ '(' :: t)

/-- What can happen when a text is read from its start. -/
inductive Course : Text → Prop
  | balanced (r : Reading) : Course r.text
  | unopened (r : Reading) (rest : Text) : Course (r.text ++ ')' :: rest)
  | leftOpen {t : Text} (h : LeftOpen t) : Course t

/-! ## The pieces of a reading -/

/-- There is a piece even of an empty text. -/
theorem Reading.pieces_ne_nil (r : Reading) : r.pieces ≠ [] := by
  induction r with
  | done => simp [pieces]
  | ordinary c hc rest ih =>
      by_cases hcomma : c = ','
      · simp [pieces, hcomma]
      · simpa [pieces, hcomma] using ih
  | quoted string rest ih => simpa [pieces] using ih
  | group inner rest _ ih => simpa [pieces] using ih

/-- There is one more piece than there are commas between them. -/
theorem Reading.length_pieces (r : Reading) : r.pieces.length = r.commas + 1 := by
  induction r with
  | done => rfl
  | ordinary c hc rest ih =>
      by_cases hcomma : c = ','
      · simp [pieces, commas, hcomma, ih]
      · simp [pieces, commas, hcomma, ih]
  | quoted string rest ih => simp [pieces, commas, ih]
  | group inner rest _ ih => simp [pieces, commas, ih]

/-- Text before the first part is text before what the parts are joined to. -/
theorem join_modifyHead (separator front : Text) {parts : List Text} (h : parts ≠ []) :
    Text.join separator (parts.modifyHead (front ++ ·)) = front ++ Text.join separator parts := by
  cases parts with
  | nil => exact absurd rfl h
  | cons first more => cases more <;> simp [Text.join, List.intercalate]

/-- The pieces with commas between them are the text. -/
theorem Reading.join_pieces (r : Reading) : Text.join [','] r.pieces = r.text := by
  induction r with
  | done => rfl
  | ordinary c hc rest ih =>
      by_cases hcomma : c = ','
      · obtain ⟨first, more, hparts⟩ := List.exists_cons_of_ne_nil rest.pieces_ne_nil
        rw [hparts] at ih
        simp only [pieces, text, hcomma, if_true, hparts]
        rw [← ih]
        rfl
      · simp only [pieces, text, hcomma, if_false]
        rw [← ih]
        exact join_modifyHead [','] [c] rest.pieces_ne_nil
  | quoted string rest ih =>
      rw [pieces, join_modifyHead _ _ rest.pieces_ne_nil, ih]
      rfl
  | group inner rest _ ih =>
      rw [pieces, join_modifyHead _ _ rest.pieces_ne_nil, ih]
      simp [text]

/-- The pieces of a text that continues: its last piece goes on in the first of the later ones. -/
def glue : List Text → List Text → List Text
  | [], later => later
  | [last], later => later.modifyHead (last ++ ·)
  | piece :: next :: more, later => piece :: glue (next :: more) later

/-- Only the last piece goes on. -/
theorem glue_cons (piece : Text) {more : List Text} (h : more ≠ []) (later : List Text) :
    glue (piece :: more) later = piece :: glue more later := by
  cases more with
  | nil => exact absurd rfl h
  | cons next more => rfl

/-- Text before the first piece stays there when the last one goes on. -/
theorem glue_modifyHead (front : Text) {parts : List Text} (h : parts ≠ []) (later : List Text) :
    glue (parts.modifyHead (front ++ ·)) later = (glue parts later).modifyHead (front ++ ·) := by
  cases parts with
  | nil => exact absurd rfl h
  | cons first more =>
      cases more with
      | nil => cases later <;> simp [glue]
      | cons next more => rfl

/-- Nothing is added by a piece without text. -/
theorem glue_nil_piece {parts : List Text} (h : parts ≠ []) : glue parts [[]] = parts := by
  induction parts with
  | nil => exact absurd rfl h
  | cons first more ih =>
      cases more with
      | nil => simp [glue]
      | cons next more => rw [glue_cons first (by simp), ih (by simp)]

/-! ## What the machine does on each construct -/

variable {frames outer : List Frame} {piece seen rest : Text}

/-- A character that goes on is added to the piece and to what was seen. -/
theorem piecesFrom_goOn {frames' : List Frame} {c : Char} (h : step frames c = .goOn frames') :
    piecesFrom frames piece seen (c :: rest) =
      piecesFrom frames' (c :: piece) (c :: seen) rest := by
  rw [piecesFrom, h]

@[simp]
theorem step_nil_paren : step [] '(' = .goOn [.paren] := by
  decide

@[simp]
theorem step_nil_quote : step [] '"' = .goOn [.quote] := by
  decide

@[simp]
theorem step_paren_open : step (.paren :: outer) '(' = .goOn (.paren :: .paren :: outer) := by
  simp [step]

@[simp]
theorem step_paren_close : step (.paren :: outer) ')' = .goOn outer := by
  simp [step]

@[simp]
theorem step_paren_quote : step (.paren :: outer) '"' = .goOn (.quote :: .paren :: outer) := by
  simp [step]

@[simp]
theorem step_quote_close : step (.quote :: outer) '"' = .goOn outer := by
  simp [step]

/-- A backslash in a string takes the next character with it. -/
@[simp]
theorem step_quote_backslash :
    step (.quote :: outer) '\\' = .goOn (.escape :: .quote :: outer) := by
  simp [step]

/-- Whatever is taken by a backslash has no other meaning. -/
@[simp]
theorem step_escape (c : Char) : step (.escape :: outer) c = .goOn outer := rfl

/-- At the top an ordinary character other than a comma is part of the piece. -/
theorem step_nil_ordinary {c : Char} (hc : isOrdinary c = true) (hcomma : c ≠ ',') :
    step [] c = .goOn [] := by
  simp only [isOrdinary, Bool.and_eq_true, decide_eq_true_eq] at hc
  simp [step, hcomma, hc]

/-- In a group an ordinary character is part of the piece, and so is a comma. -/
theorem step_paren_ordinary {c : Char} (hc : isOrdinary c = true) :
    step (.paren :: outer) c = .goOn (.paren :: outer) := by
  simp only [isOrdinary, Bool.and_eq_true, decide_eq_true_eq] at hc
  simp [step, hc]

/-- In a string everything else stands for itself. -/
theorem step_quote_plain {c : Char} (hquote : c ≠ '"') (hescape : c ≠ '\\') :
    step (.quote :: outer) c = .goOn (.quote :: outer) := by
  simp [step, hquote, hescape]

/-- A quoted string that is closed is passed over. -/
theorem piecesFrom_quote_text (q : Quoted) :
    piecesFrom (.quote :: outer) piece seen (q.text ++ rest) =
      piecesFrom outer (q.text.reverse ++ piece) (q.text.reverse ++ seen) rest := by
  induction q generalizing piece seen with
  | close => exact piecesFrom_goOn step_quote_close
  | plain c hquote hescape tail ih =>
      rw [Quoted.text, List.cons_append, piecesFrom_goOn (step_quote_plain hquote hescape), ih]
      simp
  | escaped c tail ih =>
      rw [Quoted.text, List.cons_append, List.cons_append, piecesFrom_goOn step_quote_backslash,
        piecesFrom_goOn (step_escape c), ih]
      simp

/-- **Balanced text inside an open parenthesis is passed over.**  Whatever it opens it closes, so
the stack is the same before and after it, and its commas are part of the piece. -/
theorem piecesFrom_paren_text (r : Reading) :
    piecesFrom (.paren :: outer) piece seen (r.text ++ rest) =
      piecesFrom (.paren :: outer) (r.text.reverse ++ piece) (r.text.reverse ++ seen) rest := by
  induction r generalizing outer piece seen rest with
  | done => rfl
  | ordinary c hc tail ih =>
      rw [Reading.text, List.cons_append, piecesFrom_goOn (step_paren_ordinary hc), ih]
      simp
  | quoted string tail ih =>
      rw [Reading.text, List.cons_append, List.append_assoc, piecesFrom_goOn step_paren_quote,
        piecesFrom_quote_text, ih]
      simp
  | group inner tail ihInner ihTail =>
      rw [Reading.text, List.cons_append, List.append_assoc, piecesFrom_goOn step_paren_open,
        ihInner, List.cons_append, piecesFrom_goOn step_paren_close, ihTail]
      simp

/-- The piece so far stands before the first piece that is put out. -/
theorem piecesFrom_piece (t : Text) :
    piecesFrom frames piece seen t =
      (piecesFrom frames [] seen t).map (List.modifyHead (piece.reverse ++ ·)) := by
  induction t generalizing frames piece seen with
  | nil => cases frames <;> simp [piecesFrom, Except.map]
  | cons c rest ih =>
      simp only [piecesFrom]
      cases step frames c with
      | goOn frames' =>
          simp only
          have hsingle : piecesFrom frames' [c] (c :: seen) rest = _ := ih
          rw [ih, hsingle]
          cases piecesFrom frames' [] (c :: seen) rest with
          | error fault => rfl
          | ok parts => cases parts <;> simp [Except.map]
      | endPiece =>
          simp only
          cases piecesFrom [] [] (c :: seen) rest <;> simp [Except.map]
      | closeUnopened => rfl

/-- **Balanced text at the top is cut at its commas.**  What follows it continues its last
piece. -/
theorem piecesFrom_nil_text (r : Reading) :
    piecesFrom [] [] seen (r.text ++ rest) =
      (piecesFrom [] [] (r.text.reverse ++ seen) rest).map (glue r.pieces) := by
  have hfront : ∀ (front : Text) (tail : Reading) (result : Except Fault (List Text)),
      (result.map (glue tail.pieces)).map (List.modifyHead (front ++ ·)) =
        result.map (glue (tail.pieces.modifyHead (front ++ ·))) := by
    intro front tail result
    cases result with
    | error fault => rfl
    | ok later => simp [Except.map, glue_modifyHead front tail.pieces_ne_nil]
  induction r generalizing seen rest with
  | done =>
      cases h : piecesFrom [] [] seen rest with
      | error fault => simp [Reading.text, h, Except.map]
      | ok later => cases later <;> simp [Reading.text, Reading.pieces, h, Except.map, glue]
  | ordinary c hc tail ih =>
      by_cases hcomma : c = ','
      · subst hcomma
        simp only [Reading.text, Reading.pieces, List.cons_append, piecesFrom, step, if_true]
        rw [ih]
        simp only [List.reverse_cons, List.append_assoc, List.singleton_append]
        cases piecesFrom [] [] (tail.text.reverse ++ ',' :: seen) rest with
        | error fault => rfl
        | ok later => simp [Except.map, glue_cons _ tail.pieces_ne_nil]
      · rw [Reading.text, List.cons_append, piecesFrom_goOn (step_nil_ordinary hc hcomma),
          piecesFrom_piece, ih, hfront]
        simp [Reading.pieces, hcomma]
  | quoted string tail ih =>
      rw [Reading.text, List.cons_append, List.append_assoc, piecesFrom_goOn step_nil_quote,
        piecesFrom_quote_text, piecesFrom_piece, ih, hfront]
      simp [Reading.pieces]
  | group inner tail _ ih =>
      rw [Reading.text, List.cons_append, List.append_assoc, piecesFrom_goOn step_nil_paren,
        piecesFrom_paren_text, List.cons_append, piecesFrom_goOn step_paren_close,
        piecesFrom_piece, ih, hfront]
      simp [Reading.pieces]

/-! ## The three classes of texts -/

/-- What follows an opening quote closes the string somewhere or never does. -/
theorem quoted_or_openQuoted (t : Text) :
    (∃ (q : Quoted) (rest : Text), t = q.text ++ rest) ∨ OpenQuoted t := by
  induction h : t.length using Nat.strongRecOn generalizing t with
  | ind n ih =>
      subst h
      match t with
      | [] => exact Or.inr .nil
      | c :: t =>
          by_cases hquote : c = '"'
          · exact Or.inl ⟨.close, t, by simp [Quoted.text, hquote]⟩
          by_cases hescape : c = '\\'
          · subst hescape
            match t with
            | [] => exact Or.inr .backslash
            | d :: t =>
                rcases ih t.length (by simp only [List.length_cons]; omega) t rfl with
                  ⟨q, rest, rfl⟩ | hopen
                · exact Or.inl ⟨.escaped d q, rest, rfl⟩
                · exact Or.inr (.escaped d hopen)
          · rcases ih t.length (by simp) t rfl with ⟨q, rest, rfl⟩ | hopen
            · exact Or.inl ⟨.plain c hquote hescape q, rest, rfl⟩
            · exact Or.inr (.plain hquote hescape hopen)

/-- Text that a reading can start with, put before a text, keeps the course that text takes. -/
theorem Course.prepend {front t : Text} (h : Course t) (start : Reading → Reading)
    (hstart : ∀ r, (start r).text = front ++ r.text) : Course (front ++ t) := by
  cases h with
  | balanced r =>
      rw [← hstart]
      exact .balanced (start r)
  | unopened r rest =>
      rw [← List.append_assoc, ← hstart]
      exact .unopened (start r) rest
  | leftOpen h =>
      apply Course.leftOpen
      cases h with
      | quote r tail =>
          rw [← List.append_assoc, ← hstart]
          exact .quote (start r) tail
      | group r inner =>
          rw [← List.append_assoc, ← hstart]
          exact .group (start r) inner
      | within r tail =>
          rw [← List.append_assoc, ← hstart]
          exact .within (start r) tail

/-- **Every text takes one of the three courses.**  The induction is on the length, because after a
quoted string or a group the reading goes on behind it. -/
theorem course (t : Text) : Course t := by
  induction h : t.length using Nat.strongRecOn generalizing t with
  | ind n ih =>
      subst h
      match t with
      | [] => exact .balanced .done
      | c :: t =>
          have hlater : ∀ rest : Text, rest.length ≤ t.length → Course rest := by
            intro rest hlen
            exact ih rest.length (by simp only [List.length_cons]; omega) rest rfl
          by_cases hclose : c = ')'
          · subst hclose
            exact .unopened .done t
          by_cases hquote : c = '"'
          · subst hquote
            rcases quoted_or_openQuoted t with ⟨q, rest, rfl⟩ | hopen
            · rw [← List.cons_append]
              exact (hlater rest (by simp)).prepend (.quoted q) (fun r => rfl)
            · exact .leftOpen (.quote .done hopen)
          by_cases hparen : c = '('
          · subst hparen
            cases hlater t (Nat.le_refl _) with
            | balanced r => exact .leftOpen (.group .done r)
            | leftOpen h => exact .leftOpen (.within .done h)
            | unopened r rest =>
                have hgroup :
                    '(' :: (r.text ++ ')' :: rest) = '(' :: (r.text ++ [')']) ++ rest := by
                  simp
                rw [hgroup]
                exact (hlater rest (by simp; omega)).prepend (.group r)
                  (fun r' => by simp [Reading.text])
          · have hc : isOrdinary c = true := by simp [isOrdinary, hclose, hquote, hparen]
            rw [← List.singleton_append]
            exact (hlater t (Nat.le_refl _)).prepend (.ordinary c hc) (fun r => rfl)

/-! ## The machine on each class -/

/-- On balanced text the pieces are those of the reading. -/
theorem pieces_text (r : Reading) : pieces r.text = .ok r.pieces := by
  have h : piecesFrom [] [] [] (r.text ++ []) = _ := piecesFrom_nil_text r
  rw [List.append_nil] at h
  rw [pieces, h]
  simp [piecesFrom, Except.map, glue_nil_piece r.pieces_ne_nil]

/-- A closing parenthesis after balanced text stops the machine there. -/
theorem pieces_closeUnopened (r : Reading) (rest : Text) :
    pieces (r.text ++ ')' :: rest) = .error (.closeUnopened (')' :: r.text.reverse)) := by
  rw [pieces, piecesFrom_nil_text]
  simp [piecesFrom, step, Except.map]

/-- A string that is never closed is an error, wherever it stands. -/
theorem piecesFrom_openQuoted {t : Text} (h : OpenQuoted t) :
    piecesFrom (.quote :: outer) piece seen t = .error .leftOpen := by
  induction h generalizing piece seen with
  | nil => rfl
  | backslash => rfl
  | plain hquote hescape tail ih =>
      rw [piecesFrom_goOn (step_quote_plain hquote hescape), ih]
  | escaped c tail ih =>
      rw [piecesFrom_goOn step_quote_backslash, piecesFrom_goOn (step_escape c), ih]

/-- A parenthesis around balanced text is left open when the text ends. -/
theorem piecesFrom_paren_text_end (r : Reading) :
    piecesFrom (.paren :: outer) piece seen r.text = .error .leftOpen := by
  have h : piecesFrom (.paren :: outer) piece seen (r.text ++ []) = _ := piecesFrom_paren_text r
  rw [List.append_nil] at h
  rw [h]
  rfl

/-- Inside a parenthesis a text that ends inside a construct is never finished. -/
theorem piecesFrom_paren_leftOpen {t : Text} (h : LeftOpen t) :
    piecesFrom (.paren :: outer) piece seen t = .error .leftOpen := by
  induction h generalizing outer piece seen with
  | quote r tail =>
      rw [piecesFrom_paren_text, piecesFrom_goOn step_paren_quote,
        piecesFrom_openQuoted tail]
  | group r inner =>
      rw [piecesFrom_paren_text, piecesFrom_goOn step_paren_open,
        piecesFrom_paren_text_end]
  | within r tail ih =>
      rw [piecesFrom_paren_text, piecesFrom_goOn step_paren_open, ih]

/-- A text that ends inside a construct is reported as such. -/
theorem pieces_leftOpen {t : Text} (h : LeftOpen t) : pieces t = .error .leftOpen := by
  cases h with
  | quote r tail =>
      rw [pieces, piecesFrom_nil_text, piecesFrom_goOn step_nil_quote,
        piecesFrom_openQuoted tail]
      rfl
  | group r inner =>
      rw [pieces, piecesFrom_nil_text, piecesFrom_goOn step_nil_paren,
        piecesFrom_paren_text_end]
      rfl
  | within r tail =>
      rw [pieces, piecesFrom_nil_text, piecesFrom_goOn step_nil_paren,
        piecesFrom_paren_leftOpen tail]
      rfl

/-! ## Splitting -/

/-- Only one start of a text is balanced text and a closing parenthesis. -/
theorem ClosesUnopened.unique {args q q' : Text} (h : ClosesUnopened args q)
    (h' : ClosesUnopened args q') : q = q' := by
  obtain ⟨⟨rest, rfl⟩, r, rfl⟩ := h
  obtain ⟨⟨rest', heq⟩, r', rfl⟩ := h'
  have hstop := pieces_closeUnopened r rest
  have hstop' := pieces_closeUnopened r' rest'
  simp only [List.append_assoc, List.singleton_append] at heq
  rw [heq, hstop] at hstop'
  simpa using hstop'

/-- **Balanced text is split at its commas**, and the arguments are trimmed. -/
theorem split_text (r : Reading) : split r.text = .ok (r.pieces.map Text.trim) := by
  rw [split, pieces_text]

/-- **A group that was never opened is reported with the text up to its end.** -/
theorem split_of_closesUnopened {args q : Text} (h : ClosesUnopened args q) :
    split args = .error (.unexpectedCloseParen q) := by
  obtain ⟨⟨rest, rfl⟩, r, rfl⟩ := h
  have hstop := pieces_closeUnopened r rest
  rw [split, List.append_assoc, List.singleton_append, hstop]
  simp

/-- **What is left open is reported with the whole text.** -/
theorem split_of_leftOpen {args : Text} (h : LeftOpen args) :
    split args = .error (.mismatchedDelimiters args) := by
  rw [split, pieces_leftOpen h]

/-- The outcome of splitting is one of three, by the course that the text takes. -/
theorem split_cases (args : Text) :
    (∃ r : Reading, r.text = args ∧ split args = .ok (r.pieces.map Text.trim)) ∨
      (∃ q, ClosesUnopened args q ∧ split args = .error (.unexpectedCloseParen q)) ∨
      split args = .error (.mismatchedDelimiters args) := by
  cases course args with
  | balanced r => exact Or.inl ⟨r, rfl, split_text r⟩
  | unopened r rest =>
      have hclose : ClosesUnopened (r.text ++ ')' :: rest) (r.text ++ [')']) :=
        ⟨⟨rest, by simp⟩, r, rfl⟩
      exact Or.inr (Or.inl ⟨_, hclose, split_of_closesUnopened hclose⟩)
  | leftOpen h => exact Or.inr (Or.inr (split_of_leftOpen h))

/-- What is split was balanced. -/
theorem exists_reading_of_split {args : Text} {arguments : List Text}
    (h : split args = .ok arguments) :
    ∃ r : Reading, r.text = args ∧ arguments = r.pieces.map Text.trim := by
  rcases split_cases args with ⟨r, hr, hok⟩ | ⟨q, -, herror⟩ | herror
  · rw [hok] at h
    exact ⟨r, hr, (Except.ok.inj h).symm⟩
  · rw [herror] at h
    cases h
  · rw [herror] at h
    cases h

/-- The text that an unexpected parenthesis is reported with ends with it. -/
theorem closesUnopened_of_split {args q : Text}
    (h : split args = .error (.unexpectedCloseParen q)) : ClosesUnopened args q := by
  rcases split_cases args with ⟨r, -, hok⟩ | ⟨q', hclose, herror⟩ | herror
  · rw [hok] at h
    cases h
  · rw [herror] at h
    cases h
    exact hclose
  · rw [herror] at h
    cases h

/-- **Splitting follows the grammar.**  An argument list is split exactly when it is balanced, and
then at the commas of its reading.  Otherwise the error quotes the shortest start that closes a
parenthesis that is not open, and without such a start the whole list. -/
theorem split_follows_grammar (args : Text) :
    ((∃ arguments, split args = .ok arguments) ↔ Balanced args) ∧
    (∀ r : Reading, r.text = args →
      split args = .ok (r.pieces.map Text.trim) ∧
      r.pieces.length = r.commas + 1 ∧
      Text.join [','] r.pieces = args) ∧
    (¬ Balanced args →
      ((∃ q, ClosesUnopened args q) →
        ∃ q, ClosesUnopened args q ∧ (∀ q', ClosesUnopened args q' → q.length ≤ q'.length) ∧
          split args = .error (.unexpectedCloseParen q)) ∧
      ((¬ ∃ q, ClosesUnopened args q) → split args = .error (.mismatchedDelimiters args))) := by
  refine ⟨⟨?_, ?_⟩, ?_, ?_⟩
  · intro h
    obtain ⟨arguments, hok⟩ := h
    cases course args with
    | balanced r => exact ⟨r, rfl⟩
    | unopened r rest =>
        have hclose : ClosesUnopened (r.text ++ ')' :: rest) (r.text ++ [')']) :=
          ⟨⟨rest, by simp⟩, r, rfl⟩
        rw [split_of_closesUnopened hclose] at hok
        cases hok
    | leftOpen h =>
        rw [split_of_leftOpen h] at hok
        cases hok
  · intro h
    obtain ⟨r, rfl⟩ := h
    exact ⟨_, split_text r⟩
  · intro r heq
    subst heq
    exact ⟨split_text r, r.length_pieces, r.join_pieces⟩
  · intro hbalanced
    constructor
    · intro h
      obtain ⟨q, hq⟩ := h
      refine ⟨q, hq, ?_, split_of_closesUnopened hq⟩
      intro q' hq'
      exact Nat.le_of_eq (congrArg List.length (hq.unique hq'))
    · intro hnone
      cases course args with
      | balanced r => exact absurd ⟨r, rfl⟩ hbalanced
      | unopened r rest => exact absurd ⟨r.text ++ [')'], ⟨rest, by simp⟩, r, rfl⟩ hnone
      | leftOpen h => exact split_of_leftOpen h

end MacroBody.Arguments

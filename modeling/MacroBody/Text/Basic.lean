import MacroBody.Character.Word

/-!
# Texts

A text is a list of characters. The grammars take a text apart with few operations: trimming,
cutting at the first character of a class, removing one pair of enclosing characters, and reading
a comma separated list of tokens. Each operation is a plain list function, and no operation invents
a character: what it returns is a contiguous part of what it was given.

A body is taken apart into lines. A line feed ends a line, and one carriage return right before it
belongs to the line ending. Text after the last line feed is a last line if it is not empty, and
keeps its carriage returns.

Natural numbers are read from the digits of a radix and written as decimal and hexadecimal numerals.
A digit above nine is a lower case letter.
-/

namespace MacroBody

/-- A text, read character by character. -/
abbrev Text := List Char

namespace Text

/-- `t` without its leading blanks. -/
def trimStart (t : Text) : Text :=
  t.dropWhile isBlank

/-- `t` without its trailing blanks. -/
def trimEnd (t : Text) : Text :=
  (t.reverse.dropWhile isBlank).reverse

/-- `t` without its leading and trailing blanks. -/
def trim (t : Text) : Text :=
  t.trimStart.trimEnd

/-- Whether `t` is empty or starts with a blank. -/
def atBlank (t : Text) : Bool :=
  match t with
  | [] => true
  | c :: _ => isBlank c

/-- The texts before and after the first character of `t` that satisfies `p`. -/
def cut? (p : Char → Bool) (t : Text) : Option (Text × Text) :=
  match t.dropWhile (!p ·) with
  | [] => none
  | _ :: after => some (t.takeWhile (!p ·), after)

/-- The text between a leading `o` and a final `c`, two different characters of `t`. -/
def enclosed? (o c : Char) (t : Text) : Option Text :=
  match t with
  | [] => none
  | x :: rest =>
    if x = o ∧ rest.getLast? = some c then some rest.dropLast else none

/-- What follows the word `w` at the start of `t`. -/
def after? (t w : Text) : Option Text :=
  w.isPrefixOf? t

/-- What follows the word `w` and the blanks after it, of which there is at least one. -/
def afterWord? (t w : Text) : Option Text :=
  match t.after? w with
  | some (c :: rest) => if isBlank c then some (trimStart rest) else none
  | _ => none

/-- Whether `t` stays on one line. -/
def isOneLine (t : Text) : Bool :=
  t.all (· ≠ '\n')

/-- Whether `t` is one or more word characters. -/
def isToken (t : Text) : Bool :=
  !t.isEmpty && t.all isWord

/-- Whether `t` is an ASCII letter followed by word characters. -/
def isName (t : Text) : Bool :=
  match t with
  | [] => false
  | c :: rest => c.isAlpha && rest.all isWord

/-- The leading word characters of `t` and what follows them. -/
def spanWord (t : Text) : Text × Text :=
  (t.takeWhile isWord, t.dropWhile isWord)

/-- The shortest run of characters in `p` at the start of `t` behind which `next?` finds something, and
what it finds there. -/
def shortest? {α : Type} (p : Char → Bool) (next? : Text → Option α) (t : Text) :
    Option (Text × α) :=
  match next? t with
  | some found => some ([], found)
  | none =>
    match t with
    | [] => none
    | c :: later =>
      if p c then (shortest? p next? later).map fun (run, found) => (c :: run, found) else none

/-- The trimmed items of a comma separated text. -/
def items (t : Text) : List Text :=
  (t.splitOn ',').map trim

/-- The items of `t`, if each of them is a token. -/
def tokens? (t : Text) : Option (List Text) :=
  if t.items.all isToken then some t.items else none

/-- `t` without one final carriage return. -/
def dropReturn (t : Text) : Text :=
  if t.getLast? = some '\r' then t.dropLast else t

/-- The lines of `t`, without their line endings. -/
def lines (t : Text) : List Text :=
  let pieces := t.splitOn '\n'
  pieces.dropLast.map dropReturn ++
    match pieces.getLast? with
    | some last => if last.isEmpty then [] else [last]
    | none => []

/-- The items joined by `separator`. -/
def join (separator : Text) (parts : List Text) : Text :=
  separator.intercalate parts

/-- A truth value in words. -/
def truth (b : Bool) : Text :=
  (if b then "true" else "false").toList

/-- The value of one digit of the given radix. -/
def digit? (radix : Nat) (c : Char) : Option Nat :=
  let value :=
    if c.isDigit then some (c.toNat - '0'.toNat)
    else if c.isLower then some (c.toNat - 'a'.toNat + 10)
    else none
  value.filter (· < radix)

/-- The number that a text of digits denotes; a text without a digit denotes none. -/
def number? (radix : Nat) (t : Text) : Option Nat :=
  if t.isEmpty then none
  else t.foldl (fun acc c => acc.bind fun n => (digit? radix c).map (n * radix + ·)) (some 0)

/-- The decimal numeral of `n`. -/
def decimal (n : Nat) : Text :=
  Nat.toDigits 10 n

/-- The hexadecimal numeral of `n`. -/
def hex (n : Nat) : Text :=
  Nat.toDigits 16 n

/-- `t` filled up on the left with `fill` to at least `width` characters. -/
def padLeft (fill : Char) (width : Nat) (t : Text) : Text :=
  List.replicate (width - t.length) fill ++ t

/-- What spanning takes and leaves is the text. -/
theorem spanWord_append (t : Text) : t.spanWord.1 ++ t.spanWord.2 = t :=
  List.takeWhile_append_dropWhile

/-- A cut loses only the character it was made at. -/
theorem cut?_eq_some {p : Char → Bool} {t before after : Text}
    (h : t.cut? p = some (before, after)) :
    ∃ c, p c = true ∧ t = before ++ c :: after ∧ ∀ x ∈ before, p x = false := by
  induction t generalizing before with
  | nil => simp [cut?] at h
  | cons x rest ih =>
    by_cases hx : p x = true
    · simp only [cut?, List.dropWhile_cons, List.takeWhile_cons, hx] at h
      simp only [Bool.not_true, Bool.false_eq_true, if_false, Option.some.injEq,
        Prod.mk.injEq] at h
      obtain ⟨rfl, rfl⟩ := h
      exact ⟨x, hx, rfl, by simp⟩
    · have hx : p x = false := by simpa using hx
      have step : cut? p (x :: rest) = (cut? p rest).map fun r => (x :: r.1, r.2) := by
        simp only [cut?, List.dropWhile_cons, List.takeWhile_cons, hx]
        cases rest.dropWhile (!p ·) <;> simp
      rw [step, Option.map_eq_some_iff] at h
      obtain ⟨⟨b, a⟩, hba, heq⟩ := h
      simp only [Prod.mk.injEq] at heq
      obtain ⟨rfl, rfl⟩ := heq
      obtain ⟨c, hc, rfl, hall⟩ := ih hba
      refine ⟨c, hc, rfl, ?_⟩
      intro y hy
      rcases List.mem_cons.1 hy with rfl | hy
      · exact hx
      · exact hall y hy

end Text

end MacroBody

import Mathlib.Data.List.Basic
import MacroBody.Grammar.Numeral
import MacroBody.Proofs.Text.Basic

/-!
# Decimal numerals

The decimal numeral of a number is read back as that number (`Numeral.read?_decimal`).  It holds
nothing but digits, so dropping underscores and changing to lower case leave it as it is, it
announces no other radix, and its digits count by tens.

A word whose first character is neither a digit nor an underscore is no numeral at all
(`Numeral.read?_of_head`).
-/

namespace MacroBody

variable {c : Char} {t : Text}

/-! ## Digits -/

/-- The codes of the digits, as numbers. -/
theorem toNat_of_isDigit (h : c.isDigit = true) : 48 ≤ c.toNat ∧ c.toNat ≤ 57 :=
  Char.isDigit_iff_toNat.1 h

theorem isWord_of_isDigit (h : c.isDigit = true) : isWord c = true := by
  have hlt : c.toNat < 0x80 := by
    have := toNat_of_isDigit h
    omega
  rw [isWord_of_lt hlt, Char.isAlphanum, h]
  simp

theorem toLower_of_isDigit (h : c.isDigit = true) : c.toLower = c := by
  have hcode := toNat_of_isDigit h
  have hupper : ¬ (c.val ≥ 'A'.val ∧ c.val ≤ 'Z'.val) := by
    simp only [ge_iff_le, UInt32.le_iff_toNat_le]
    change ¬ (65 ≤ c.toNat ∧ c.toNat ≤ 90)
    omega
  exact dif_neg hupper

/-- A decimal digit stands for its distance from zero. -/
theorem Text.digit?_of_isDigit (h : c.isDigit = true) :
    Text.digit? 10 c = some (c.toNat - '0'.toNat) := by
  have hcode := toNat_of_isDigit h
  have hlt : c.toNat - 48 < 10 := by
    omega
  simp [Text.digit?, h, hlt]

/-- A decimal digit is the one that is written for its value. -/
theorem eq_digitChar_of_isDigit (h : c.isDigit = true) :
    c = Nat.digitChar (c.toNat - '0'.toNat) := by
  have hall : ∀ n ∈ List.range' 48 10, Char.ofNat n = Nat.digitChar (n - '0'.toNat) := by decide
  have hcode := toNat_of_isDigit h
  have hmem : c.toNat ∈ List.range' 48 10 := List.mem_range'_1.2 (by omega)
  simpa using hall c.toNat hmem

/-- A letter counts from ten on, and six of them are hexadecimal digits. -/
theorem eq_digitChar_of_isLower (h : c.isLower = true) (hlt : c.toNat - 'a'.toNat + 10 < 16) :
    c = Nat.digitChar (c.toNat - 'a'.toNat + 10) := by
  have hall : ∀ n ∈ List.range' 97 6, Char.ofNat n = Nat.digitChar (n - 'a'.toNat + 10) := by decide
  obtain ⟨hlow, -⟩ := Bool.and_eq_true_iff.1 h
  have hle : 97 ≤ c.toNat := UInt32.le_iff_toNat_le.1 (of_decide_eq_true hlow)
  have hmem : c.toNat ∈ List.range' 97 6 := by
    have ha : 'a'.toNat = 97 := rfl
    rw [List.mem_range'_1]
    omega
  simpa using hall c.toNat hmem

/-- **A digit is the character of its value,** and its value is below the radix. -/
theorem Text.digit?_eq_some_iff {radix d : Nat} (hradix : radix ≤ 16) :
    Text.digit? radix c = some d ↔ d < radix ∧ c = Nat.digitChar d := by
  constructor
  · intro h
    obtain ⟨hvalue, hlt⟩ := Option.filter_eq_some_iff.1 h
    have hlt : d < radix := by simpa using hlt
    refine ⟨hlt, ?_⟩
    split at hvalue
    · rename_i hdigit
      obtain rfl := Option.some.inj hvalue
      exact eq_digitChar_of_isDigit hdigit
    · split at hvalue
      · rename_i hlower
        obtain rfl := Option.some.inj hvalue
        exact eq_digitChar_of_isLower hlower (by omega)
      · cases hvalue
  · intro h
    obtain ⟨hlt, rfl⟩ := h
    have hall : ∀ d < 16, Text.digit? 16 (Nat.digitChar d) = some d := by decide
    obtain ⟨hvalue, -⟩ := Option.filter_eq_some_iff.1 (hall d (by omega))
    exact Option.filter_eq_some_iff.2 ⟨hvalue, by simpa using hlt⟩

/-! ## Values of digits -/

/-- The value of `n` followed by the digits of `t`. -/
def Text.readOn (radix n : Nat) (t : Text) : Option Nat :=
  t.foldl (fun acc c => acc.bind fun n => (Text.digit? radix c).map (n * radix + ·)) (some n)

/-- A number is read from zero on, digit by digit. -/
theorem Text.number?_eq_readOn {radix : Nat} (hne : t ≠ []) :
    Text.number? radix t = Text.readOn radix 0 t := by
  simp [Text.number?, Text.readOn, hne]

/-- A digit shifts the value and is added; what is no digit leaves no value. -/
theorem Text.readOn_cons (radix n : Nat) (c : Char) (t : Text) :
    Text.readOn radix n (c :: t) =
      (Text.digit? radix c).bind fun d => Text.readOn radix (n * radix + d) t := by
  unfold Text.readOn
  rw [List.foldl_cons]
  cases Text.digit? radix c with
  | some d => rfl
  | none =>
      induction t with
      | nil => rfl
      | cons d t ih => exact ih

/-- Digits count by tens. -/
theorem Text.number?_of_isDigit (hne : t ≠ []) (h : ∀ c ∈ t, c.isDigit = true) :
    Text.number? 10 t = some (Nat.ofDigitChars 10 t 0) := by
  have hread : ∀ n : Nat, Text.readOn 10 n t = some (Nat.ofDigitChars 10 t n) := by
    clear hne
    induction t with
    | nil => intro n; rfl
    | cons c t ih =>
        intro n
        rw [Text.readOn_cons, Text.digit?_of_isDigit (h c List.mem_cons_self), Option.bind_some,
          ih fun x hx => h x (List.mem_cons_of_mem _ hx), Nat.ofDigitChars_cons, Nat.mul_comm 10 n]
  rw [Text.number?_eq_readOn hne, hread 0]

/-- Every digit counts, the first one included. -/
theorem Text.number?_of_head {radix : Nat} (hc : Text.digit? radix c = none) (t : Text) :
    Text.number? radix (c :: t) = none := by
  rw [Text.number?_eq_readOn (List.cons_ne_nil c t), Text.readOn_cons, hc, Option.bind_none]

/-! ## Decimal texts -/

/-- A number in decimal is written with digits. -/
theorem Text.isDigit_of_mem_decimal {n : Nat} (h : c ∈ Text.decimal n) : c.isDigit = true :=
  Nat.isDigit_of_mem_toDigits (by decide) (by decide) h

theorem Text.decimal_ne_nil (n : Nat) : Text.decimal n ≠ [] :=
  Nat.toDigits_ne_nil

/-- A number in decimal is a token. -/
theorem Text.isToken_decimal (n : Nat) : Text.isToken (Text.decimal n) = true :=
  Text.isToken_iff.2
    ⟨Text.decimal_ne_nil n, fun _ hc => isWord_of_isDigit (Text.isDigit_of_mem_decimal hc)⟩

/-! ## Numerals -/

namespace Numeral

/-- A text is normal if it has no underscore and no capital letter. -/
theorem normalize_eq_self (h : ∀ c ∈ t, c ≠ '_' ∧ c.toLower = c) : normalize t = t := by
  have hfilter : t.filter (· ≠ '_') = t := by
    rw [List.filter_eq_self]
    intro c hc
    simpa using (h c hc).1
  calc normalize t
      = t.map Char.toLower := by rw [normalize, hfilter]
    _ = t.map id := List.map_congr_left fun c hc => (h c hc).2
    _ = t := List.map_id t

/-- Decimal digits are normalized to themselves. -/
theorem normalize_of_isDigit (h : ∀ c ∈ t, c.isDigit = true) : normalize t = t := by
  refine normalize_eq_self ?_
  intro c hc
  have hne : c ≠ '_' := by
    rintro rfl
    cases h '_' hc
  exact ⟨hne, toLower_of_isDigit (h c hc)⟩

theorem radixAndDigits_of_isDigit (h : ∀ c ∈ t, c.isDigit = true) :
    radixAndDigits t = (10, t) := by
  unfold radixAndDigits
  split
  · cases h 'x' (by simp)
  · cases h 'o' (by simp)
  · cases h 'b' (by simp)
  · rfl

/-- What a numeral cannot start with. -/
theorem read?_of_head (hsign : c ≠ '_') (hzero : c ≠ '0') (hlower : c.toLower = c)
    (hdigit : Text.digit? 10 c = none) (t : Text) : read? (c :: t) = none := by
  have hnormal : normalize (c :: t) = c :: normalize t := by
    simp [normalize, hsign, hlower]
  have hradix : ∀ digits, radixAndDigits (c :: digits) = (10, c :: digits) := by
    intro digits
    unfold radixAndDigits
    split <;> simp_all
  rw [read?, value?, hnormal, hradix]
  simp [Text.number?_of_head hdigit]

/-- **A decimal numeral is read back.** -/
theorem read?_decimal (n : UInt64) : read? (Text.decimal n.toNat) = some n := by
  have hdigits : ∀ c ∈ Text.decimal n.toNat, c.isDigit = true :=
    fun _ hc => Text.isDigit_of_mem_decimal hc
  have hvalue : value? (Text.decimal n.toNat) = some n.toNat := by
    rw [value?, normalize_of_isDigit hdigits, radixAndDigits_of_isDigit hdigits]
    simp only
    rw [Text.number?_of_isDigit (Text.decimal_ne_nil _) hdigits, Text.decimal,
      Nat.ofDigitChars_ten_toDigits]
  rw [read?, hvalue]
  simp [n.toNat_lt]

end Numeral

end MacroBody

import Mathlib.Data.Nat.Digits.Defs
import Mathlib.Tactic.Ring
import MacroBody.Grammar.AddressRange
import MacroBody.Proofs.Grammar.Numeral
import MacroBody.Proofs.Text.TokenList

/-!
# The number that a bound denotes

A token denotes a number if, without its underscores and in lower case, it is the mark of a radix
and one or more digits of that radix (`Numeral.Denotes`).  The number is the sum of the digits times
the powers of the radix, whatever its size.

A bound is read as the number that its token denotes if this number fits into 64 bits, and the token
is rejected as it is written in every other case (`AddressRange.bound_reads_what_is_denoted`).  So
no value is wrapped or cut off.

The key local fact is `Text.readOn_eq_some_iff`: after any number of digits the reader holds their
exact value.  The value is a natural number up to the end, and only then it is compared with the
bound of 64 bits.
-/

namespace MacroBody

/-! ## Digits of one radix -/

namespace Text

variable {radix n m : Nat} {t : Text}

/-- **Digits are read in full.**  A value followed by digits is shifted by their number, and the
value of the digits is added. -/
theorem readOn_eq_some_iff (hradix : radix ≤ 16) :
    readOn radix n t = some m ↔
      ∃ digits : List Nat, (∀ d ∈ digits, d < radix) ∧ t = digits.map Nat.digitChar ∧
        m = n * radix ^ digits.length + Nat.ofDigits radix digits.reverse := by
  induction t generalizing n with
  | nil =>
      constructor
      · intro h
        obtain rfl : n = m := Option.some.inj h
        exact ⟨[], by simp, rfl, by simp⟩
      · intro h
        obtain ⟨digits, -, ht, rfl⟩ := h
        obtain rfl := List.map_eq_nil_iff.1 ht.symm
        simp [readOn]
  | cons c t ih =>
      -- The highest digit is worth its value times the radix for each digit behind it.
      have hshift : ∀ (d : Nat) (digits : List Nat),
          (n * radix + d) * radix ^ digits.length + Nat.ofDigits radix digits.reverse =
            n * radix ^ (d :: digits).length + Nat.ofDigits radix (d :: digits).reverse := by
        intro d digits
        rw [List.reverse_cons, Nat.ofDigits_append, Nat.ofDigits_singleton, List.length_cons,
          List.length_reverse]
        ring
      rw [readOn_cons, Option.bind_eq_some_iff]
      constructor
      · intro h
        obtain ⟨d, hd, hrest⟩ := h
        obtain ⟨hlt, rfl⟩ := (digit?_eq_some_iff hradix).1 hd
        obtain ⟨digits, hdigits, rfl, rfl⟩ := ih.1 hrest
        exact ⟨d :: digits, List.forall_mem_cons.2 ⟨hlt, hdigits⟩, rfl, hshift d digits⟩
      · intro h
        obtain ⟨digits, hdigits, ht, rfl⟩ := h
        obtain ⟨d, rest, rfl, rfl, rfl⟩ := List.map_eq_cons_iff.1 ht.symm
        obtain ⟨hlt, hrest⟩ := List.forall_mem_cons.1 hdigits
        have hd := (digit?_eq_some_iff hradix).2 ⟨hlt, rfl⟩
        exact ⟨d, hd, ih.2 ⟨rest, hrest, rfl, (hshift d rest).symm⟩⟩

/-- A text of digits denotes their value. -/
theorem number?_eq_some_iff (hradix : radix ≤ 16) :
    number? radix t = some n ↔
      ∃ digits : List Nat, digits ≠ [] ∧ (∀ d ∈ digits, d < radix) ∧
        t = digits.map Nat.digitChar ∧ n = Nat.ofDigits radix digits.reverse := by
  by_cases hne : t = []
  · subst hne
    simp [number?]
  · rw [number?_eq_readOn hne, readOn_eq_some_iff hradix]
    constructor
    · intro h
      obtain ⟨digits, hdigits, rfl, rfl⟩ := h
      exact ⟨digits, by simpa using hne, hdigits, rfl, by simp⟩
    · intro h
      obtain ⟨digits, -, hdigits, rfl, rfl⟩ := h
      exact ⟨digits, hdigits, rfl, by simp⟩

end Text

/-! ## Numerals of every radix -/

namespace Numeral

/-- The radixes in which a number can be written. -/
inductive Radix
  | hexadecimal
  | octal
  | binary
  | decimal
  deriving DecidableEq, Repr

/-- How many digits the radix has. -/
def Radix.base : Radix → Nat
  | hexadecimal => 16
  | octal => 8
  | binary => 2
  | decimal => 10

/-- What stands before the digits. -/
def Radix.mark : Radix → Text
  | hexadecimal => "0x".toList
  | octal => "0o".toList
  | binary => "0b".toList
  | decimal => []

/-- The token without its underscores and in lower case is a mark and digits of the value `n`, the
highest digit first. -/
def Denotes (token : Text) (n : Nat) : Prop :=
  ∃ (radix : Radix) (digits : List Nat),
    digits ≠ [] ∧ (∀ d ∈ digits, d < radix.base) ∧
      (token.filter (· ≠ '_')).map Char.toLower = radix.mark ++ digits.map Nat.digitChar ∧
      n = Nat.ofDigits radix.base digits.reverse

variable {token : Text} {n n' : Nat}

theorem Radix.base_le (radix : Radix) : radix.base ≤ 16 := by
  cases radix <;> decide

/-- The mark is what announces the radix. -/
theorem radixAndDigits_mark (radix : Radix) {digits : List Nat}
    (hdigits : ∀ d ∈ digits, d < radix.base) :
    radixAndDigits (radix.mark ++ digits.map Nat.digitChar) =
      (radix.base, digits.map Nat.digitChar) := by
  cases radix with
  | hexadecimal => rfl
  | octal => rfl
  | binary => rfl
  | decimal =>
      -- The letter of a mark is no decimal digit.
      refine radixAndDigits_of_isDigit ?_
      intro c hc
      obtain ⟨d, hd, rfl⟩ := List.mem_map.1 hc
      rw [Nat.isDigit_digitChar]
      exact decide_eq_true (hdigits d hd)

/-- Whatever radix is found, the text is its mark and the rest. -/
theorem exists_radix (normal : Text) :
    ∃ (radix : Radix) (rest : Text), normal = radix.mark ++ rest ∧
      radixAndDigits normal = (radix.base, rest) := by
  unfold radixAndDigits
  split
  · exact ⟨.hexadecimal, _, rfl, rfl⟩
  · exact ⟨.octal, _, rfl, rfl⟩
  · exact ⟨.binary, _, rfl, rfl⟩
  · exact ⟨.decimal, _, rfl, rfl⟩

/-- **The value of a token is the number that it denotes.** -/
theorem value?_eq_some_iff : value? token = some n ↔ Denotes token n := by
  constructor
  · intro h
    obtain ⟨radix, rest, hnormal, hradix⟩ := exists_radix (normalize token)
    rw [value?, hradix] at h
    obtain ⟨digits, hne, hdigits, rfl, rfl⟩ := (Text.number?_eq_some_iff radix.base_le).1 h
    exact ⟨radix, digits, hne, hdigits, hnormal, rfl⟩
  · intro h
    obtain ⟨radix, digits, hne, hdigits, hnormal, rfl⟩ := h
    have hnormal : normalize token = radix.mark ++ digits.map Nat.digitChar := hnormal
    rw [value?, hnormal, radixAndDigits_mark radix hdigits]
    exact (Text.number?_eq_some_iff radix.base_le).2 ⟨digits, hne, hdigits, rfl, rfl⟩

/-- A token denotes one number at most. -/
theorem Denotes.unique (h : Denotes token n) (h' : Denotes token n') : n = n' := by
  have hvalue := value?_eq_some_iff.2 h
  rw [value?_eq_some_iff.2 h'] at hvalue
  exact (Option.some.inj hvalue).symm

/-- A number that fits is kept as it is. -/
theorem read?_eq_some_iff {v : UInt64} :
    read? token = some v ↔ ∃ n, Denotes token n ∧ n < 2 ^ 64 ∧ v.toNat = n := by
  unfold read?
  cases hvalue : value? token with
  | none =>
      have hnone : ∀ n, ¬ Denotes token n := by
        intro n hn
        rw [value?_eq_some_iff.2 hn] at hvalue
        cases hvalue
      simp [hnone]
  | some m =>
      have hm := value?_eq_some_iff.1 hvalue
      simp only [Option.dite_none_right_eq_some, Option.some.injEq]
      constructor
      · intro h
        obtain ⟨hlt, rfl⟩ := h
        exact ⟨m, hm, hlt, UInt64.toNat_ofNatLT⟩
      · intro h
        obtain ⟨n, hn, hlt, rfl⟩ := h
        obtain rfl := hm.unique hn
        exact ⟨hlt, UInt64.ofNatLT_toNat v⟩

end Numeral

/-- **A bound is the number that its token denotes,** and this is one number at most.  It is
accepted if and only if it fits into 64 bits; in every other case the token is rejected as it is
written. -/
theorem AddressRange.bound_reads_what_is_denoted (token : Text.Token) :
    (∀ v, bound token.text = .ok v ↔
      ∃ n, Numeral.Denotes token.text n ∧ n < 2 ^ 64 ∧ v.toNat = n) ∧
    ((¬ ∃ n, Numeral.Denotes token.text n ∧ n < 2 ^ 64) →
      bound token.text = .error (.nonNumeric token.text)) ∧
    ∀ n n', Numeral.Denotes token.text n → Numeral.Denotes token.text n' → n = n' := by
  refine ⟨?_, ?_, ?_⟩
  · intro v
    rw [← Numeral.read?_eq_some_iff, bound]
    cases Numeral.read? token.text <;> simp
  · intro hnone
    have hread : Numeral.read? token.text = none := by
      rw [Option.eq_none_iff_forall_ne_some]
      intro v hv
      obtain ⟨n, hn, hlt, -⟩ := Numeral.read?_eq_some_iff.1 hv
      exact hnone ⟨n, hn, hlt⟩
    rw [bound, hread]
  · intro n n' hn hn'
    exact hn.unique hn'

/-- The largest number that fits, and the next one. -/
example :
    AddressRange.bound "0XFFFF_ffff_FFFF_ffff".toList = .ok 18446744073709551615 ∧
      AddressRange.bound "18446744073709551616".toList =
        .error (.nonNumeric "18446744073709551616".toList) := by
  decide

end MacroBody

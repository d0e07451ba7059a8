import Mathlib.Algebra.Group.Nat.Defs
import MacroBody.Grammar.AddressRange
import MacroBody.Proofs.Grammar.Numeral

/-!
# Hexadecimal groups

A bound is formatted as two groups of hexadecimal digits with an underscore between them.  The
formatted bound is a numeral again, and it is read as the bound it was made from
(`Numeral.read?_hexGroups`), whatever its size.

The key local fact is `Text.readOn_group`: reading a group after a value shifts the value by the
length of the group and adds the number of the group.  The lower group has four digits exactly, so
the shift undoes the division that made the groups; the upper group may have more digits, and then
nothing is cut off.
-/

namespace MacroBody

namespace Text

variable {c : Char} {t t' : Text} {n m : Nat}

/-- Reading digits goes on where it was left. -/
theorem readOn_append {radix : Nat} (h : readOn radix n t = some m) (t' : Text) :
    readOn radix n (t ++ t') = readOn radix m t' := by
  unfold readOn at h ⊢
  rw [List.foldl_append, h]

/-! ## Hexadecimal digits -/

/-- Whether `c` is a digit of a hexadecimal numeral. -/
def IsHexDigit (c : Char) : Prop :=
  ∃ d < 16, c = Nat.digitChar d

theorem isHexDigit_zero : IsHexDigit '0' :=
  ⟨0, by decide, rfl⟩

/-- A hexadecimal digit is a word character, and neither an underscore nor a capital letter. -/
theorem IsHexDigit.plain (h : IsHexDigit c) : isWord c = true ∧ c ≠ '_' ∧ c.toLower = c := by
  have hall : ∀ d < 16, isWord (Nat.digitChar d) = true ∧ Nat.digitChar d ≠ '_' ∧
      (Nat.digitChar d).toLower = Nat.digitChar d := by
    decide
  obtain ⟨d, hd, rfl⟩ := h
  exact hall d hd

/-- A number in hexadecimal is written with hexadecimal digits. -/
theorem isHexDigit_of_mem_hex (h : c ∈ hex n) : IsHexDigit c := by
  unfold hex at h
  induction n using Nat.strong_induction_on with
  | h n ih =>
      rw [Nat.toDigits_eq_if (by decide)] at h
      split at h
      · rename_i hlt
        obtain rfl := List.mem_singleton.1 h
        exact ⟨n, hlt, rfl⟩
      · rcases List.mem_append.1 h with h | h
        · exact ih (n / 16) (by omega) h
        · obtain rfl := List.mem_singleton.1 h
          exact ⟨n % 16, by omega, rfl⟩

/-! ## Values of groups -/

/-- A written digit is read with its value. -/
theorem readOn_digitChar {d : Nat} (hd : d < 16) : readOn 16 n [Nat.digitChar d] =
    some (n * 16 + d) := by
  rw [readOn_cons, (digit?_eq_some_iff (by decide)).2 ⟨hd, rfl⟩]
  rfl

/-- **A numeral behind a value** shifts the value and adds its number. -/
theorem readOn_hex (n m : Nat) : readOn 16 m (hex n) = some (m * 16 ^ (hex n).length + n) := by
  unfold hex
  induction n using Nat.strong_induction_on with
  | h n ih =>
      rw [Nat.toDigits_eq_if (by decide)]
      split
      · rename_i hlt
        rw [readOn_digitChar hlt]
        simp
      · have hdigit : n % 16 < 16 := by omega
        rw [readOn_append (ih (n / 16) (by omega)), readOn_digitChar hdigit, List.length_append,
          List.length_singleton, Nat.pow_succ, Nat.add_mul, ← Nat.mul_assoc, Nat.add_assoc]
        congr 2
        omega

/-- Zeros shift the number that was read before them. -/
theorem readOn_zeros (k m : Nat) : readOn 16 m (List.replicate k '0') = some (m * 16 ^ k) := by
  induction k generalizing m with
  | zero => simp [readOn]
  | succ k ih =>
      have hzero : readOn 16 m ['0'] = some (m * 16) := readOn_digitChar (by decide : 0 < 16)
      rw [List.replicate_succ, ← List.singleton_append, readOn_append hzero, ih, Nat.pow_succ,
        Nat.mul_assoc, Nat.mul_comm 16]

/-- The numeral filled up with zeros to four digits. -/
def group (n : Nat) : Text :=
  padLeft '0' 4 (hex n)

theorem group_ne_nil (n : Nat) : group n ≠ [] := by
  simp [group, padLeft, hex, Nat.toDigits_ne_nil]

/-- A group consists of hexadecimal digits. -/
theorem isHexDigit_of_mem_group (h : c ∈ group n) : IsHexDigit c := by
  rcases List.mem_append.1 h with h | h
  · exact List.eq_of_mem_replicate h ▸ isHexDigit_zero
  · exact isHexDigit_of_mem_hex h

/-- Zeros before a numeral count for the shift only. -/
theorem readOn_group (n m : Nat) :
    readOn 16 m (group n) = some (m * 16 ^ (group n).length + n) := by
  rw [group, padLeft, readOn_append (readOn_zeros _ m), readOn_hex, List.length_append,
    List.length_replicate, Nat.mul_assoc, ← Nat.pow_add]

/-- A number of at most four digits makes a group of four. -/
theorem length_group (h : n < 0x10000) : (group n).length = 4 := by
  have hlength : (hex n).length ≤ 4 := (Nat.length_toDigits_le_iff (by decide) (by decide)).2 h
  simp only [group, padLeft, List.length_append, List.length_replicate]
  omega

end Text

open Text

namespace AddressRange

/-- A bound is written as a mark and two groups. -/
theorem hexGroups_eq (value : UInt64) :
    hexGroups value = '0' :: 'x' :: (group (value.toNat / 0x10000) ++
      '_' :: group (value.toNat % 0x10000)) := by
  simp [hexGroups, group]

/-- A formatted bound is a token. -/
theorem isToken_hexGroups (value : UInt64) : (hexGroups value).isToken = true := by
  have hgroup : ∀ n, ∀ c ∈ group n, isWord c = true :=
    fun n c hc => (isHexDigit_of_mem_group hc).plain.1
  rw [hexGroups_eq]
  refine isToken_iff.2 ⟨by simp, ?_⟩
  intro c hc
  simp only [List.mem_cons, List.mem_append] at hc
  rcases hc with rfl | rfl | hc | rfl | hc
  · decide
  · decide
  · exact hgroup _ c hc
  · decide
  · exact hgroup _ c hc

end AddressRange

namespace Numeral

open AddressRange

theorem normalize_append (t t' : Text) : normalize (t ++ t') = normalize t ++ normalize t' := by
  simp [normalize]

/-- A group has neither capitals nor underscores to be normalized. -/
theorem normalize_group (n : Nat) : normalize (group n) = group n :=
  normalize_eq_self fun _ hc => (isHexDigit_of_mem_group hc).plain.2

/-- **A formatted bound is read back.** -/
theorem read?_hexGroups (value : UInt64) : read? (hexGroups value) = some value := by
  have hnormal : normalize (hexGroups value) =
      '0' :: 'x' :: (group (value.toNat / 0x10000) ++ group (value.toNat % 0x10000)) := by
    have hfront : normalize ['0', 'x'] = ['0', 'x'] := by decide
    have hmark : normalize ['_'] = [] := by decide
    calc normalize (hexGroups value)
        = normalize (['0', 'x'] ++ (group (value.toNat / 0x10000) ++
            (['_'] ++ group (value.toNat % 0x10000)))) := by rw [hexGroups_eq]; rfl
      _ = _ := by
        simp only [normalize_append, normalize_group, hfront, hmark]
        rfl
  have hlower : value.toNat % 0x10000 < 0x10000 := by omega
  have hdigits : number? 16 (group (value.toNat / 0x10000) ++ group (value.toNat % 0x10000)) =
      some value.toNat := by
    rw [number?_eq_readOn (by simp [group_ne_nil]), readOn_append (readOn_group _ 0), readOn_group,
      length_group hlower]
    congr 1
    omega
  have hvalue : value? (hexGroups value) = some value.toNat := by
    rw [value?, hnormal]
    exact hdigits
  rw [read?, hvalue]
  simp [value.toNat_lt]

end Numeral

/-- Different bounds are formatted differently. -/
theorem AddressRange.hexGroups_injective {value value' : UInt64}
    (h : hexGroups value = hexGroups value') : value = value' := by
  have hread := Numeral.read?_hexGroups value
  rw [h, Numeral.read?_hexGroups] at hread
  exact (Option.some.inj hread).symm

end MacroBody

import AddressIntake.Text.Blank
import AddressIntake.Text.Digit
import Mathlib.Algebra.GroupWithZero.Nat

namespace AddressIntake.Text

theorem isAsciiDigit_iff {c : Char} : isAsciiDigit c = true ↔ 48 ≤ c.toNat ∧ c.toNat ≤ 57 := by
  have hzero : '0'.val.toNat = 48 := rfl
  have hnine : '9'.val.toNat = 57 := rfl
  simp only [isAsciiDigit, Bool.and_eq_true, decide_eq_true_eq, Char.le_def,
    UInt32.le_iff_toNat_le, hzero, hnine]
  rfl

theorem not_isBlankChar_of_isAsciiDigit {c : Char} (hdigit : isAsciiDigit c = true) :
    isBlankChar c = false := by
  rw [isAsciiDigit_iff] at hdigit
  simp only [isBlankChar, Bool.or_eq_false_iff, Bool.and_eq_false_iff, decide_eq_false_iff_not,
    beq_eq_false_iff_ne]
  omega

theorem digitValue_digitChar {n : Nat} (hlt : n < 10) : digitValue n.digitChar = n :=
  Nat.toNat_digitChar_sub_48_of_lt_ten hlt

theorem ofDigits_append_singleton (ds : List Char) (d : Char) :
    ofDigits (ds ++ [d]) = ofDigits ds * 10 + digitValue d := by
  rw [ofDigits, List.foldl_append]
  rfl

theorem isAsciiDigit_of_mem_toDigits {n : Nat} {c : Char} (hmem : c ∈ Nat.toDigits 10 n) :
    isAsciiDigit c = true := by
  have hdigit : c.isDigit = true := Nat.isDigit_of_mem_toDigits (by decide) (by decide) hmem
  simpa [isAsciiDigit, Char.isDigit, Char.le_def] using hdigit

/-- The digits of a number are read as this number. -/
theorem ofDigits_toDigits (n : Nat) : ofDigits (Nat.toDigits 10 n) = n := by
  induction n using Nat.strongRecOn with
  | ind n ih =>
    by_cases hlt : n < 10
    · rw [Nat.toDigits_of_lt_base hlt, ← List.nil_append [n.digitChar], ofDigits_append_singleton,
        digitValue_digitChar hlt]
      exact Nat.zero_add n
    · rw [Nat.toDigits_of_base_le (by decide) (Nat.not_lt.1 hlt), ofDigits_append_singleton,
        ih (n / 10) (by omega), digitValue_digitChar (Nat.mod_lt n (by decide))]
      omega

/-- Zeros in front of digits do not count. -/
theorem ofDigits_replicate_zero_append (count : Nat) (ds : List Char) :
    ofDigits (List.replicate count '0' ++ ds) = ofDigits ds := by
  induction count with
  | zero => rfl
  | succ count ih =>
    rw [List.replicate_succ, List.cons_append]
    exact ih

/-- Each zero after digits multiplies their number by ten. -/
theorem ofDigits_append_replicate_zero (count : Nat) (ds : List Char) :
    ofDigits (ds ++ List.replicate count '0') = ofDigits ds * 10 ^ count := by
  induction count with
  | zero => rw [List.replicate_zero, List.append_nil, Nat.pow_zero, Nat.mul_one]
  | succ count ih =>
    have hzero : digitValue '0' = 0 := rfl
    rw [List.replicate_succ', ← List.append_assoc, ofDigits_append_singleton, ih, hzero, Nat.pow_succ,
      Nat.add_zero, Nat.mul_assoc]

/-- Only the number zero starts with the digit zero. -/
theorem toDigits_head_ne_zero {n : Nat} (hpos : 0 < n) : (Nat.toDigits 10 n).head? ≠ some '0' := by
  induction n using Nat.strongRecOn with
  | ind n ih =>
    by_cases hlt : n < 10
    · rw [Nat.toDigits_of_lt_base hlt, List.head?_cons, ne_eq, Option.some.injEq]
      intro hzero
      have hvalue := digitValue_digitChar hlt
      rw [hzero] at hvalue
      have hnone : digitValue '0' = 0 := rfl
      omega
    · have hfirst := ih (n / 10) (by omega) (by omega)
      obtain ⟨d, ds, hds⟩ := List.exists_cons_of_ne_nil (Nat.toDigits_ne_nil (n := n / 10) (b := 10))
      rw [Nat.toDigits_of_base_le (by decide) (Nat.not_lt.1 hlt), hds]
      rwa [hds] at hfirst

theorem takeWhile_digits_append {ds rest : List Char} (hdigits : ∀ d ∈ ds, isAsciiDigit d = true)
    (hrest : ∀ c, rest.head? = some c → isAsciiDigit c = false) :
    (ds ++ rest).takeWhile isAsciiDigit = ds := by
  rw [List.takeWhile_append_of_pos hdigits]
  cases rest with
  | nil => simp
  | cons c rest =>
    have hc := hrest c rfl
    rw [List.takeWhile_cons_of_neg (by simp [hc]), List.append_nil]

theorem dropWhile_digits_append {ds rest : List Char} (hdigits : ∀ d ∈ ds, isAsciiDigit d = true)
    (hrest : ∀ c, rest.head? = some c → isAsciiDigit c = false) :
    (ds ++ rest).dropWhile isAsciiDigit = rest := by
  rw [List.dropWhile_append_of_pos hdigits]
  cases rest with
  | nil => rfl
  | cons c rest =>
    have hc := hrest c rfl
    rw [List.dropWhile_cons_of_neg (by simp [hc])]

end AddressIntake.Text

import AddressIntake.Json.Printer
import AddressIntake.Json.Reader
import AddressIntake.Proofs.Text.Digit

namespace AddressIntake.Json

open Text

/-- A text that does not go on with a numeral. -/
def EndsNumeral (rest : List Char) : Prop :=
  ∀ c, rest.head? = some c → isNumeralChar c = false

/-- An integer of a 64-bit word, signed or not. -/
def IsWord (n : Int) : Prop :=
  -9223372036854775808 ≤ n ∧ n ≤ 18446744073709551615

theorem EndsNumeral.not_isAsciiDigit {rest : List Char} (hrest : EndsNumeral rest) :
    ∀ c, rest.head? = some c → isAsciiDigit c = false := by
  intro c hc
  have hnumeral := hrest c hc
  simp only [isNumeralChar, Bool.or_eq_false_iff] at hnumeral
  exact hnumeral.1.1.1.1.1

/-- The digits of a number, with nothing else of a numeral behind them, are a numeral. -/
theorem afterNumeral?_toDigits (n : Nat) {rest : List Char} (hrest : EndsNumeral rest) :
    (afterWhole? (Nat.toDigits 10 n ++ rest)).bind
      (fun after => (afterFraction? after).bind afterExponent?) = some rest := by
  have hwhole : afterWhole? (Nat.toDigits 10 n ++ rest) = some rest := by
    have hdigits : ∀ d ∈ Nat.toDigits 10 n, isAsciiDigit d = true := fun d hd =>
      isAsciiDigit_of_mem_toDigits hd
    rw [afterWhole?, takeWhile_digits_append hdigits hrest.not_isAsciiDigit,
      dropWhile_digits_append hdigits hrest.not_isAsciiDigit]
    split
    · next hnone => exact absurd hnone Nat.toDigits_ne_nil
    · next d ds hds =>
      -- only zero starts with the digit zero, and it has no second digit
      rcases Nat.eq_zero_or_pos n with rfl | hpos
      · rw [Nat.toDigits_zero] at hds
        cases hds
      · have hhead := toDigits_head_ne_zero hpos
        rw [hds] at hhead
        exact absurd rfl hhead
    · rfl
  have hfraction : afterFraction? rest = some rest := by
    unfold afterFraction?
    split
    · have hpoint := hrest '.' rfl
      cases hpoint
    · rfl
  have hexponent : afterExponent? rest = some rest := by
    unfold afterExponent?
    split
    · rfl
    · next e tail =>
      have hletter := hrest e rfl
      simp only [isNumeralChar, Bool.or_eq_false_iff] at hletter
      simp [hletter.1.2, hletter.2]
  rw [hwhole, Option.bind_some, hfraction, Option.bind_some, hexponent]

theorem afterMinus_toDigits (n : Nat) (rest : List Char) :
    afterMinus (Nat.toDigits 10 n ++ rest) = Nat.toDigits 10 n ++ rest := by
  obtain ⟨d, ds, hds⟩ := List.exists_cons_of_ne_nil (Nat.toDigits_ne_nil (n := n) (b := 10))
  have hdigit : isAsciiDigit d = true := isAsciiDigit_of_mem_toDigits (n := n) (by simp [hds])
  rw [hds, List.cons_append]
  unfold afterMinus
  split
  · next hminus =>
    cases hminus
    cases hdigit
  · rfl

theorem afterNumeral?_decimal (n : Int) {rest : List Char} (hrest : EndsNumeral rest) :
    afterNumeral? (decimal n ++ rest) = some rest := by
  by_cases hnegative : n < 0
  · rw [decimal, if_pos hnegative, List.cons_append, afterNumeral?, afterMinus]
    exact afterNumeral?_toDigits n.natAbs hrest
  · rw [decimal, if_neg hnegative, afterNumeral?, afterMinus_toDigits]
    exact afterNumeral?_toDigits n.natAbs hrest

theorem isNumeralChar_of_mem_decimal {n : Int} {c : Char} (hmem : c ∈ decimal n) :
    isNumeralChar c = true := by
  have hdigits (hdigit : c ∈ Nat.toDigits 10 n.natAbs) : isNumeralChar c = true := by
    simp [isNumeralChar, isAsciiDigit_of_mem_toDigits hdigit]
  by_cases hnegative : n < 0
  · rw [decimal, if_pos hnegative] at hmem
    rcases List.mem_cons.1 hmem with rfl | hdigit
    · rfl
    · exact hdigits hdigit
  · rw [decimal, if_neg hnegative] at hmem
    exact hdigits hmem

theorem numeralOf_decimal (n : Int) {rest : List Char} (hrest : EndsNumeral rest) :
    numeralOf (decimal n ++ rest) = decimal n := by
  have hrun : (decimal n ++ rest).takeWhile isNumeralChar = decimal n := by
    rw [List.takeWhile_append_of_pos fun c hmem => isNumeralChar_of_mem_decimal hmem]
    cases rest with
    | nil => simp
    | cons c rest =>
      have hc := hrest c rfl
      rw [List.takeWhile_cons_of_neg (by simp [hc]), List.append_nil]
  have hall : afterNumeral? (decimal n) = some [] := by
    have hend : EndsNumeral [] := fun c hc => by cases hc
    have hnone := afterNumeral?_decimal n hend
    rwa [List.append_nil] at hnone
  rw [numeralOf, hrun, hall]
  simp

theorem numeralToken_decimal {n : Int} (hword : IsWord n) : numeralToken (decimal n) = .int n := by
  obtain ⟨hlo, hhi⟩ := hword
  have hall : (Nat.toDigits 10 n.natAbs).all isAsciiDigit = true :=
    List.all_eq_true.2 fun d hd => isAsciiDigit_of_mem_toDigits hd
  have hminus := afterMinus_toDigits n.natAbs []
  rw [List.append_nil] at hminus
  by_cases hnegative : n < 0
  · have hhead : (('-' :: Nat.toDigits 10 n.natAbs).head? == some '-') = true := rfl
    have hfits : (n.natAbs == 0 || decide (Number.maxWord64 / 2 + 1 < n.natAbs)) = false := by
      refine Bool.or_eq_false_iff.2 ⟨beq_eq_false_iff_ne.2 (by omega), decide_eq_false ?_⟩
      rw [Number.maxWord64]
      omega
    rw [decimal, if_pos hnegative, numeralToken, afterMinus]
    simp only [hall, hhead, wordToken, ofDigits_toDigits, ↓reduceIte, hfits, Bool.false_eq_true]
    congr 1
    omega
  · have hhead : ((Nat.toDigits 10 n.natAbs).head? == some '-') = false := by
      obtain ⟨d, ds, hds⟩ :=
        List.exists_cons_of_ne_nil (Nat.toDigits_ne_nil (n := n.natAbs) (b := 10))
      have hdigit : isAsciiDigit d = true :=
        isAsciiDigit_of_mem_toDigits (n := n.natAbs) (by simp [hds])
      rw [hds, List.head?_cons, beq_eq_false_iff_ne, ne_eq, Option.some.injEq]
      rintro rfl
      cases hdigit
    have hfits : n.natAbs ≤ Number.maxWord64 := by
      rw [Number.maxWord64]
      omega
    rw [decimal, if_neg hnegative, numeralToken, hminus]
    simp only [hall, hhead, wordToken, ofDigits_toDigits, ↓reduceIte, hfits, Bool.false_eq_true]
    congr 1
    omega

/-- The decimal of an integer is read back. -/
theorem readToken_decimal {n : Int} (hword : IsWord n) {rest : List Char} (hrest : EndsNumeral rest) :
    readToken (decimal n ++ rest) = some (.int n, rest) := by
  have hafter := afterNumeral?_decimal n hrest
  have htoken := numeralToken_decimal hword
  have hnumeral := numeralOf_decimal n hrest
  obtain ⟨c, cs, hcs⟩ : ∃ c cs, decimal n = c :: cs := by
    by_cases hnegative : n < 0
    · exact ⟨'-', _, if_pos hnegative⟩
    · rw [decimal, if_neg hnegative]
      exact List.exists_cons_of_ne_nil Nat.toDigits_ne_nil
  have hc : isNumeralChar c = true := isNumeralChar_of_mem_decimal (n := n) (by simp [hcs])
  have hmark : mark? c = none := by
    unfold mark?
    split <;> first | rfl | cases hc
  rw [hcs] at htoken
  rw [hcs, List.cons_append] at hafter hnumeral ⊢
  generalize cs ++ rest = tail at hafter hnumeral ⊢
  unfold readToken
  split
  · next hquote =>
    cases hquote
    cases hc
  · next hnull =>
    cases hnull
    cases hc
  · next htrue =>
    cases htrue
    cases hc
  · next hfalse =>
    cases hfalse
    cases hc
  · simp only [hmark, hafter, hnumeral, htoken, Option.map_some]

end AddressIntake.Json

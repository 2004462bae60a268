import AddressIntake.Proofs.Text.Blank
import AddressIntake.Proofs.Text.Digit
import AddressIntake.Timestamp

namespace AddressIntake

namespace Date

theorem daysIn_le (year : Int) (month : Nat) : daysIn year month ≤ 31 := by
  unfold daysIn
  split
  · split <;> decide
  all_goals decide

theorem daysIn_eq_zero (year : Int) {month : Nat} (hlarge : 12 < month) : daysIn year month = 0 := by
  unfold daysIn
  split
  all_goals omega

theorem IsValid.month_lt {d : Date} (hvalid : d.IsValid) : d.month < 13 := by
  refine Nat.lt_of_not_le fun hlarge => ?_
  obtain ⟨hfirst, hlast, _, _⟩ := hvalid
  rw [daysIn_eq_zero d.year hlarge] at hlast
  omega

theorem IsValid.day_lt {d : Date} (hvalid : d.IsValid) : d.day < 32 :=
  Nat.lt_succ_of_le (Nat.le_trans hvalid.2.1 (daysIn_le d.year d.month))

end Date

namespace Timestamp

open Text

theorem isAsciiDigit_of_mem_padded {width n : Nat} {c : Char} (hmem : c ∈ padded width n) :
    isAsciiDigit c = true := by
  rw [padded, List.mem_append, List.mem_replicate] at hmem
  obtain ⟨_, rfl⟩ | hdigits := hmem
  · rfl
  · exact isAsciiDigit_of_mem_toDigits hdigits

@[simp]
theorem ofDigits_padded (width n : Nat) : ofDigits (padded width n) = n := by
  rw [padded, ofDigits_replicate_zero_append, ofDigits_toDigits]

theorem padded_ne_nil (width n : Nat) : padded width n ≠ [] := by
  rw [padded]
  simp [Nat.toDigits_ne_nil]

/-- A number that needs no more digits than it is given has exactly these. -/
theorem length_padded {width n : Nat} (hpos : 0 < width) (hlt : n < 10 ^ width) :
    (padded width n).length = width := by
  have hle : (Nat.toDigits 10 n).length ≤ width :=
    (Nat.length_toDigits_le_iff (by decide) hpos).2 hlt
  rw [padded, List.length_append, List.length_replicate]
  omega

theorem dropBlankStart_padded_append (width n : Nat) (rest : List Char) :
    dropBlankStart (padded width n ++ rest) = padded width n ++ rest := by
  obtain ⟨d, ds, hds⟩ := List.exists_cons_of_ne_nil (padded_ne_nil width n)
  have hdigit : isAsciiDigit d = true := isAsciiDigit_of_mem_padded (by rw [hds]; exact List.mem_cons_self)
  rw [hds, List.cons_append]
  exact dropBlankStart_cons_of_visible (not_isBlankChar_of_isAsciiDigit hdigit) (ds ++ rest)

/-- A padded number is read whole, whatever follows it. -/
theorem readNumber_padded {width n : Nat} (hpos : 0 < width) (hlt : n < 10 ^ width)
    (rest : List Char) : readNumber width (padded width n ++ rest) = some (n, rest) := by
  have hlength := length_padded hpos hlt
  have htaken : ((padded width n ++ rest).take width).takeWhile isAsciiDigit = padded width n := by
    have hdigits : (padded width n ++ []).takeWhile isAsciiDigit = padded width n :=
      takeWhile_digits_append (fun c hmem => isAsciiDigit_of_mem_padded hmem) fun c hc => by cases hc
    rw [List.take_left' hlength]
    rwa [List.append_nil] at hdigits
  rw [readNumber, dropBlankStart_padded_append]
  simp only [htaken, List.isEmpty_iff, padded_ne_nil, if_false, ofDigits_padded,
    List.drop_left]

theorem readMark_cons {mark : Char} (hvisible : isBlankChar mark = false) (rest : List Char) :
    readMark mark (mark :: rest) = some rest := by
  rw [readMark, dropBlankStart_cons_of_visible hvisible]
  simp

/-- Digits in front of a hyphen are taken whole, however many there are. -/
theorem takeWhile_padded_hyphen (width n : Nat) (rest : List Char) :
    (padded width n ++ '-' :: rest).takeWhile isAsciiDigit = padded width n := by
  refine takeWhile_digits_append (fun c hmem => isAsciiDigit_of_mem_padded hmem) fun c hc => ?_
  obtain rfl : '-' = c := by simpa using hc
  rfl

/-- A year is read back, with its sign if it has one. -/
theorem readYear_yearText (year : Int) (rest : List Char) :
    readYear (yearText year ++ '-' :: rest) = some (year, '-' :: rest) := by
  rw [yearText]
  split
  · next hplain =>
    have hlt : year.natAbs < 10 ^ 4 := by omega
    have hread := readNumber_padded (by decide) hlt ('-' :: rest)
    obtain ⟨d, ds, hds⟩ := List.exists_cons_of_ne_nil (padded_ne_nil 4 year.natAbs)
    have hdigit : isAsciiDigit d = true :=
      isAsciiDigit_of_mem_padded (by rw [hds]; exact List.mem_cons_self)
    rw [readYear, dropBlankStart_padded_append]
    rw [hds, List.cons_append] at hread ⊢
    split
    · next hhyphen =>
      cases hhyphen
      cases hdigit
    · next hplus =>
      cases hplus
      cases hdigit
    · rw [hread, Option.map_some, Int.natAbs_of_nonneg hplain.1]
  · next hsigned =>
    by_cases hneg : year < 0
    · rw [if_pos hneg, List.cons_append, readYear, dropBlankStart_cons_of_visible rfl]
      simp only [takeWhile_padded_hyphen, List.isEmpty_iff, padded_ne_nil, if_false, ofDigits_padded,
        List.drop_left, Option.some.injEq, Prod.mk.injEq, and_true]
      omega
    · rw [if_neg hneg, List.cons_append, readYear, dropBlankStart_cons_of_visible rfl]
      simp only [takeWhile_padded_hyphen, List.isEmpty_iff, padded_ne_nil, if_false, ofDigits_padded,
        List.drop_left, Option.some.injEq, Prod.mk.injEq, and_true]
      omega

/-- Digits after a point are read as the nanoseconds that they stand for. -/
theorem readFraction_padded {width n : Nat} (hpos : 0 < width) (hle : width ≤ 9)
    (hlt : n < 10 ^ width) :
    readFraction ('.' :: padded width n ++ ['Z']) = some (n * 10 ^ (9 - width), ['Z']) := by
  have hlength := length_padded hpos hlt
  have htaken : (padded width n ++ ['Z']).takeWhile isAsciiDigit = padded width n :=
    takeWhile_digits_append (fun c hmem => isAsciiDigit_of_mem_padded hmem) fun c hc => by
      obtain rfl : 'Z' = c := by simpa using hc
      rfl
  have hnine : (padded width n).take 9 = padded width n := by
    rw [List.take_of_length_le]
    omega
  rw [List.cons_append, readFraction]
  simp only [htaken, List.isEmpty_iff, padded_ne_nil, if_false, hnine, hlength,
    List.drop_left' hlength, ofDigits_append_replicate_zero, ofDigits_padded]

theorem readFraction_fractionText {nanosecond : Nat} (hlt : nanosecond < 1000000000) :
    readFraction (fractionText nanosecond ++ ['Z']) = some (nanosecond, ['Z']) := by
  rw [fractionText]
  split
  · next hzero =>
    rw [eq_of_beq hzero]
    rfl
  · split
    · next hmilli =>
      rw [readFraction_padded (by decide) (by decide) (by omega)]
      have hexact := eq_of_beq hmilli
      congr 2
      omega
    · split
      · next hmicro =>
        rw [readFraction_padded (by decide) (by decide) (by omega)]
        have hexact := eq_of_beq hmicro
        congr 2
        omega
      · rw [readFraction_padded (by decide) (by decide) (by omega)]
        congr 2
        omega

/-- An offset of nothing changes no time. -/
theorem ofLocal_zero {civil : CivilTime} (hvalid : civil.IsValid) : civil.ofLocal 0 = civil := by
  obtain ⟨_, hhour, hminute, _, _⟩ := hvalid
  have hhours : ((civil.hour * 60 + civil.minute : Int) - 0) % 1440 =
      civil.hour * 60 + civil.minute := by omega
  rw [CivilTime.ofLocal, if_neg (by omega), if_pos (by omega)]
  simp only [hhours]
  cases civil
  simp only [CivilTime.mk.injEq, true_and, and_true] at *
  omega

/-- The text of a moment is read as this moment. -/
theorem parse?_toText (t : Timestamp) : parse? t.toText = some t := by
  obtain ⟨civil, hvalid⟩ := t
  have hwhole := ofLocal_zero hvalid
  obtain ⟨hdate, hhour, hminute, hsecond, hnanosecond⟩ := id hvalid
  have hmonth := hdate.month_lt
  have hday := hdate.day_lt
  have hzone : dropBlankStart ['Z'] = ['Z'] := rfl
  have hoffset : readOffset ['Z'] = some (0, []) := by decide
  have htext : (toText ⟨civil, hvalid⟩).toList = yearText civil.date.year ++ '-' ::
      (padded 2 civil.date.month ++ '-' :: (padded 2 civil.date.day ++ 'T' ::
        (padded 2 civil.hour ++ ':' :: (padded 2 civil.minute ++ ':' ::
          (padded 2 civil.second ++ (fractionText civil.nanosecond ++ ['Z'])))))) := by
    simp only [toText, String.toList_ofList, List.append_assoc, List.cons_append]
  rw [parse?, htext, Option.bind_eq_bind, readYear_yearText, Option.bind_some]
  dsimp only [Option.bind_eq_bind]
  rw [readMark_cons rfl, Option.bind_some, readNumber_padded (by decide) (by omega), Option.bind_some,
    readMark_cons rfl, Option.bind_some, readNumber_padded (by decide) (by omega), Option.bind_some]
  simp only [beq_self_eq_true, Bool.true_or, if_true]
  rw [Option.bind_some, readNumber_padded (by decide) (by omega), Option.bind_some, readMark_cons rfl,
    Option.bind_some, readNumber_padded (by decide) (by omega), Option.bind_some, readMark_cons rfl,
    Option.bind_some, readNumber_padded (by decide) (by omega), Option.bind_some,
    readFraction_fractionText hnanosecond, Option.bind_some, hzone, hoffset, Option.bind_some]
  rw [if_pos ⟨rfl, hvalid, by decide, by decide⟩, dif_pos (hwhole.symm ▸ hvalid), Option.some.injEq,
    Timestamp.mk.injEq]
  exact hwhole

/-- A moment is taken out of its JSON text. -/
@[simp]
theorem decoder_toJson (t : Timestamp) : decoder t.toJson.node = .ok t := by
  rw [decoder, toJson, Json.node, Json.Decoder.filterMap, Json.Decoder.string]
  simp only [Except.bind, parse?_toText, Json.Decoder.ofOption]

end Timestamp

end AddressIntake

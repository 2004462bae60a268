import AddressIntake.Proofs.Json.Quote
import AddressIntake.RecordId
import Mathlib.Algebra.GroupWithZero.Nat

namespace AddressIntake

namespace RecordId

@[simp]
theorem digit?_hexDigit (d : Fin 16) : digit? (Json.hexDigit d) = some d := by
  rw [digit?, Json.hexValue?_hexDigit, Option.map_some, Fin.ofNat_val_eq_self]

theorem length_grouped {sizes : List Nat} {cs : List Char} (hlength : cs.length = sizes.sum) :
    (grouped sizes cs).length = cs.length + (sizes.length - 1) := by
  induction sizes generalizing cs with
  | nil => rfl
  | cons n sizes ih =>
    cases sizes with
    | nil => rfl
    | cons m sizes =>
      rw [List.sum_cons] at hlength
      have hlater : (cs.drop n).length = (m :: sizes).sum := by
        rw [List.length_drop]
        omega
      rw [grouped, List.length_append, List.length_cons, ih hlater, List.length_take, List.length_drop]
      · simp only [List.length_cons, Nat.add_sub_cancel]
        omega
      · exact List.cons_ne_nil _ _

/-- Grouped characters are found again when the hyphens are taken out. -/
theorem ungrouped?_grouped {sizes : List Nat} {cs : List Char} (hlength : cs.length = sizes.sum) :
    ungrouped? sizes (grouped sizes cs) = some cs := by
  induction sizes generalizing cs with
  | nil =>
    obtain rfl := List.eq_nil_of_length_eq_zero hlength
    rfl
  | cons n sizes ih =>
    cases sizes with
    | nil =>
      rw [grouped, ungrouped?, if_pos]
      simpa using hlength
    | cons m sizes =>
      rw [List.sum_cons] at hlength
      have hfirst : (cs.take n).length = n := by
        rw [List.length_take]
        omega
      have hlater : (cs.drop n).length = (m :: sizes).sum := by
        rw [List.length_drop]
        omega
      have htake (rest : List Char) : (cs.take n ++ rest).take n = cs.take n :=
        List.take_left' hfirst
      have hdrop (rest : List Char) : (cs.take n ++ rest).drop n = rest := List.drop_left' hfirst
      rw [grouped, ungrouped?, htake, hdrop, if_pos (by simpa using hfirst)]
      · simp only [ih hlater, Option.map_some, List.take_append_drop]
      · exact List.cons_ne_nil _ _
      · exact List.cons_ne_nil _ _

theorem ofDigits?_map_hexDigit (id : RecordId) :
    ofDigits? (id.digits.map fun d => Json.hexDigit d.val) = some id := by
  have hdigits : (id.digits.map fun d => Json.hexDigit d.val).mapM digit? = some id.digits := by
    rw [List.mapM_map]
    induction id.digits with
    | nil => rfl
    | cons d ds ih => simp [ih]
  rw [ofDigits?, hdigits]
  exact dif_pos id.length_digits

/-- The text of an identity is read as this identity. -/
theorem parse?_toText (id : RecordId) : parse? id.toText = some id := by
  have hlength : (id.digits.map fun d => Json.hexDigit d.val).length = groups.sum := by
    rw [List.length_map, id.length_digits]
    rfl
  have hspelled : (grouped groups (id.digits.map fun d => Json.hexDigit d.val)).length = 36 := by
    rw [length_grouped hlength, List.length_map, id.length_digits]
    rfl
  rw [toText, parse?, String.toList_ofList]
  simp only [hspelled, Nat.reduceBEq, Bool.false_eq_true, if_false, if_true, ofGrouped?,
    ungrouped?_grouped hlength, Option.bind_some, ofDigits?_map_hexDigit]

/-- An identity is taken out of its JSON text. -/
@[simp]
theorem decoder_toJson (id : RecordId) : decoder id.toJson.node = .ok id := by
  rw [decoder, toJson, Json.node, Json.Decoder.filterMap, Json.Decoder.string]
  simp only [Except.bind, parse?_toText, Json.Decoder.ofOption]

end RecordId

end AddressIntake

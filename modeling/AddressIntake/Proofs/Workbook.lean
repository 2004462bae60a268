import AddressIntake.Proofs.Except
import AddressIntake.Proofs.Text.Blank
import AddressIntake.Proofs.Text.Digit
import AddressIntake.Workbook

namespace AddressIntake

open Text

namespace Number.Binary64

theorem exists_visible_mem_positional (digits : Nat) (p : Int) :
    ∃ c ∈ positional digits p, isBlankChar c = false := by
  rw [positional]
  split
  · obtain ⟨d, ds, hds⟩ := List.exists_cons_of_ne_nil (Nat.toDigits_ne_nil (n := digits) (b := 10))
    have hmem : d ∈ Nat.toDigits 10 digits := by rw [hds]; exact List.mem_cons_self
    exact ⟨d, List.mem_append_left _ hmem,
      not_isBlankChar_of_isAsciiDigit (isAsciiDigit_of_mem_toDigits hmem)⟩
  · exact ⟨'.', List.mem_append_right _ List.mem_cons_self, by decide⟩

theorem isBlank_toText (x : Binary64) : isBlank x.toText = x.toText.isEmpty := by
  cases x with
  | nan => decide
  | infinity negative => cases negative <;> decide
  | finite negative mantissa exponent =>
    have hdigits : ∃ c ∈ (if mantissa == 0 then ['0']
        else positional (shortest mantissa exponent).1 (shortest mantissa exponent).2),
        isBlankChar c = false := by
      split
      · exact ⟨'0', List.mem_cons_self, by decide⟩
      · exact exists_visible_mem_positional _ _
    obtain ⟨c, hmem, hvisible⟩ := hdigits
    refine isBlank_eq_isEmpty_of_mem (c := c) ?_ hvisible
    rw [toText, String.toList_ofList]
    split
    · exact List.mem_cons_of_mem '-' hmem
    · exact hmem

end Number.Binary64

namespace Cell

open Number

theorem isBlank_toString_int (n : Int) : isBlank (toString n) = (toString n).isEmpty := by
  cases n with
  | ofNat m =>
    obtain ⟨d, ds, hds⟩ := List.exists_cons_of_ne_nil (Nat.toDigits_ne_nil (n := m) (b := 10))
    have hmem : d ∈ Nat.toDigits 10 m := by rw [hds]; exact List.mem_cons_self
    refine isBlank_eq_isEmpty_of_mem (c := d) ?_
      (not_isBlankChar_of_isAsciiDigit (isAsciiDigit_of_mem_toDigits hmem))
    change d ∈ (String.ofList (Nat.toDigits 10 m)).toList
    rwa [String.toList_ofList]
  | negSucc m =>
    refine isBlank_eq_isEmpty_of_mem (c := '-') ?_ (by decide)
    change '-' ∈ ("-" ++ m.succ.repr).toList
    rw [String.toList_append]
    exact List.mem_append_left _ (by decide)

theorem isBlank_numberText (x : Binary64) : isBlank (numberText x) = (numberText x).isEmpty := by
  rw [numberText]
  split
  · split
    · exact isBlank_toString_int _
    · exact x.isBlank_toText
  · exact x.isBlank_toText

theorem isBlank_storedText {write : Binary64 → String}
    (hwrite : ∀ x, isBlank (write x) = (write x).isEmpty) (raw : String) :
    isBlank (storedText write raw) = (storedText write raw).isEmpty := by
  rw [storedText]
  split
  · exact hwrite _
  · exact isBlank_eq_isEmpty_of_trimmed (trim_trim raw)

/-- The text that a cell shows is not blank unless it is empty. -/
theorem isBlank_shown {cell : Cell} {s : String} (hshown : cell.shown = .ok s) :
    isBlank s = s.isEmpty := by
  cases cell with
  | absent | formatted =>
    cases hshown
    decide
  | text raw | isoDate raw =>
    cases hshown
    exact isBlank_eq_isEmpty_of_trimmed (trim_trim raw)
  | number raw | formula raw =>
    cases hshown
    exact isBlank_storedText isBlank_numberText raw
  | date raw =>
    cases hshown
    exact isBlank_storedText Binary64.isBlank_toText raw
  | bool b =>
    cases hshown
    cases b <;> decide
  | error code =>
    have hcodes : ∀ code ∈ errorCodes, isBlank code = code.isEmpty := by decide
    rw [shown] at hshown
    split at hshown
    · next hcode =>
      cases hshown
      exact hcodes _ (List.contains_iff_mem.1 hcode)
    · cases hshown

end Cell

theorem Worksheet.isBlank_of_mem_grid {sheet : Worksheet} {rows : List (List String)}
    (hgrid : sheet.grid = .ok rows) {row : List String} (hrow : row ∈ rows) {s : String}
    (hmem : s ∈ row) : isBlank s = s.isEmpty := by
  rw [grid] at hgrid
  cases hshown : sheet.mapM (·.mapM Cell.shown) with
  | error e =>
    rw [hshown] at hgrid
    cases hgrid
  | ok _ =>
    rw [hshown] at hgrid
    cases hextent : sheet.extent? with
    | none =>
      simp only [hextent] at hgrid
      cases hgrid
      cases hrow
    | some e =>
      simp only [hextent] at hgrid
      obtain ⟨cells, _, hcells⟩ := exists_of_mem_mapM hgrid hrow
      obtain ⟨cell, _, hcell⟩ := exists_of_mem_mapM hcells hmem
      exact Cell.isBlank_shown hcell

end AddressIntake

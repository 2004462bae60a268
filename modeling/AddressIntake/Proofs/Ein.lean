import AddressIntake.Address
import AddressIntake.Proofs.Findings
import AddressIntake.Proofs.FormatRule

namespace AddressIntake

namespace Text

/-- The only decimal digits of ASCII are those from 0 to 9. -/
theorem isAsciiDigit_of_isDecimalDigit {c : Char} (hdigit : isDecimalDigit c = true)
    (hascii : c.toNat < 0x80) : isAsciiDigit c = true := by
  have hzeros : ∀ first ∈ digitZeros, first = 0x30 ∨ 0x80 ≤ first := by decide
  obtain ⟨first, hfirst, hrange⟩ := List.any_eq_true.1 hdigit
  rw [Bool.and_eq_true, decide_eq_true_eq, decide_eq_true_eq] at hrange
  rw [isAsciiDigit_iff]
  rcases hzeros first hfirst with rfl | hwide
  · exact hrange
  · omega

end Text

namespace FormatRule

open Text

variable {digit : Char → Prop} {cs : List Char}

theorem IsEin.imp {other : Char → Prop} (hein : IsEin digit cs)
    (himp : ∀ c ∈ cs, digit c → other c) : IsEin other cs := by
  obtain ⟨office, serial, hcs, hoffice, hserial, hdigits⟩ := hein
  refine ⟨office, serial, hcs, hoffice, hserial, fun c hc => himp c ?_ (hdigits c hc)⟩
  rcases hcs with rfl | rfl
  · exact hc
  · exact List.mem_append.2 ((List.mem_append.1 hc).imp_right (List.mem_cons_of_mem '-'))

theorem IsEin.digit_or_eq (hein : IsEin digit cs) : ∀ c ∈ cs, digit c ∨ c = '-' := by
  obtain ⟨office, serial, rfl | rfl, _, _, hdigits⟩ := hein
  · exact fun c hc => .inl (hdigits c hc)
  · intro c hc
    rw [List.mem_append, List.mem_cons, or_left_comm, ← List.mem_append] at hc
    exact hc.symm.imp_left (hdigits c)

/-- Every number in digits of ASCII is accepted. -/
theorem accepts_ein_of_isEin {text : String} (hein : IsEin (isAsciiDigit · = true) text.toList) :
    ein.accepts text = true := by
  have hvisible : ∀ c ∈ text.toList, isBlankChar c = false := by
    intro c hc
    rcases hein.digit_or_eq c hc with hdigit | rfl
    · exact not_isBlankChar_of_isAsciiDigit hdigit
    · rfl
  rw [accepts_iff_matches, trim_of_visible hvisible, matches_ein_iff]
  exact .inr (hein.imp fun c _ hdigit => isDecimalDigit_of_isAsciiDigit hdigit)

end FormatRule

namespace Validation

open Text FormatRule

variable {kind : AddressKind} {required : List String} {lookup : Option ShipToLookup} {number : Nat}
  {row : Row}

/-- A value of a row that has no error for a field has the format of the field. -/
theorem accepts_of_no_error {field : Field} {rule : FormatRule} {value : String}
    (hfield : field ∈ Schema.fields kind) (hrule : field.format = some rule)
    (hclean : ∀ e ∈ checkRow kind required lookup number row, e.field ≠ field.label)
    (hvalue : row.value? field.key = some value) : rule.accepts value = true := by
  obtain ⟨hfilled, rfl⟩ := Row.value?_eq_some_iff.1 hvalue
  by_contra hrejected
  have hviolates : Violates kind required lookup row field :=
    .malformed hrule hfilled (by simpa using hrejected)
  obtain ⟨e, hmem, hlabel⟩ := (exists_mem_checkRow_iff hfield).2 hviolates
  exact hclean e hmem hlabel

/-- The field for the number is a field of every kind. -/
theorem exists_einField (kind : AddressKind) : ∃ field ∈ Schema.fields kind, field.key = "ein" ∧
    field.label = Schema.label kind "ein" ∧ field.format = some .ein := by
  cases kind <;> decide

/-- A row without an error for the number stores none, or nine decimal digits with a hyphen at most
after the second one. If the stored text is of ASCII, these are digits from 0 to 9; and every text
of such digits is accepted. -/
theorem accepted_ein_has_nine_digits (kind : AddressKind) (required : List String)
    (lookup : Option ShipToLookup) (number : Nat) (row : Row) :
    ((∀ e ∈ checkRow kind required lookup number row, e.field ≠ Schema.label kind "ein") →
      ∀ stored, (AddressFields.ofRow row).ein = some stored →
        IsEin (isDecimalDigit · = true) stored.toList ∧
          ((∀ c ∈ stored.toList, c.toNat < 0x80) →
            IsEin (isAsciiDigit · = true) stored.toList)) ∧
      ∀ text : String, IsEin (isAsciiDigit · = true) text.toList →
        FormatRule.ein.accepts text = true := by
  refine ⟨fun hclean stored hstored => ?_, fun text htext => accepts_ein_of_isEin htext⟩
  obtain ⟨field, hfield, hkey, hlabel, hrule⟩ := exists_einField kind
  have hvalue : row.value? field.key = some stored := hkey ▸ hstored
  obtain ⟨htrimmed, hfilled⟩ := Row.trim_value_of_eq_some hvalue
  have haccepted := accepts_of_no_error hfield hrule (hlabel ▸ hclean) hvalue
  have hne : trim stored ≠ "" := fun hempty => by simp [trim_eq_empty_iff.1 hempty] at hfilled
  have hein : IsEin (isDecimalDigit · = true) stored.toList := by
    rw [← htrimmed]
    exact matches_ein_iff.1 ((accepts_iff_matches.1 haccepted).resolve_left hne)
  exact ⟨hein, fun hascii => hein.imp fun c hc hdigit =>
    isAsciiDigit_of_isDecimalDigit hdigit (hascii c hc)⟩

/-- A row that has other errors, with white space around its number. -/
theorem accepted_ein_has_nine_digits_beside_other_errors :
    let row : Row := .ofList [("ein", " 12-3456789\t"), ("email", "acme")]
    (checkRow .billTo [] none 2 row).map (·.field) = ["Email"] ∧
      IsEin (isAsciiDigit · = true) "12-3456789".toList ∧
      FormatRule.ein.accepts "12-3456789" = true := by
  intro row
  have hfields : (checkRow .billTo [] none 2 row).map (·.field) = ["Email"] := by decide
  obtain ⟨hstored, haccepts⟩ := accepted_ein_has_nine_digits .billTo [] none 2 row
  have hclean : ∀ e ∈ checkRow .billTo [] none 2 row, e.field ≠ Schema.label .billTo "ein" := by
    intro e he heq
    have hmem := List.mem_map_of_mem (f := fun e : RowError => e.field) he
    rw [hfields, heq] at hmem
    exact absurd hmem (by decide)
  have hascii : "12-3456789".toList.all (·.toNat < 0x80) = true := by decide
  have hein := (hstored hclean "12-3456789" (by decide)).2 fun c hc =>
    of_decide_eq_true (List.all_eq_true.1 hascii c hc)
  exact ⟨hfields, hein, haccepts _ hein⟩

/-- Nine digits of another script are accepted and stored as they are. -/
theorem accepted_ein_in_arabic_digits :
    let row : Row := .ofList [("address_line1", "1 Main St"), ("city", "Salem"), ("state", "OR"),
      ("country", "US"), ("ein", "\u0661\u0662\u0663\u0664\u0665\u0666\u0667\u0668\u0669")]
    checkRow .shipTo (Policy.requiredKeys (Schema.fields .shipTo) .empty) none 2 row = [] ∧
      ∃ stored, (AddressFields.ofRow row).ein = some stored ∧
        ¬ IsEin (isAsciiDigit · = true) stored.toList := by
  intro row
  have hadmissible : row.IsAdmissible .shipTo := by decide
  refine ⟨checkRow_eq_nil_of_isAdmissible hadmissible (fun hkind => nomatch hkind) 2, _, rfl,
    fun hein => ?_⟩
  rcases hein.digit_or_eq '\u0661' (by decide) with hdigit | hhyphen
  · exact absurd hdigit (by decide)
  · exact absurd hhyphen (by decide)

end Validation

end AddressIntake

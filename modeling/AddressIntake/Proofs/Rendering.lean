import AddressIntake.Proofs.Sheet
import AddressIntake.Proofs.Text.Digit
import AddressIntake.Proofs.Validation

namespace AddressIntake

theorem Text.trim_toString (n : Nat) : trim (toString n) = toString n := by
  refine trim_of_visible fun c hc => ?_
  have hdigits : c ∈ Nat.toDigits 10 n := by
    rwa [Nat.toString_eq_repr, Nat.toList_repr] at hc
  exact not_isBlankChar_of_isAsciiDigit (isAsciiDigit_of_mem_toDigits hdigits)

namespace Sheet

/-- A text is the rendered form of a sheet, and a reader of text separated by commas finds the given
records in it. -/
def ReadsBack (sheet : Sheet) (records : List (List String)) : Prop :=
  ∃ text, sheet.render = .ok text ∧ Delimited.read ',' text = records

theorem IsRectangular.readsBack {sheet : Sheet} (hsheet : sheet.IsRectangular)
    (hstart : ∀ header ∈ sheet.headers.head?,
      header.toList.head? ≠ some Text.Encoding.byteOrderMark) :
    sheet.ReadsBack (sheet.records.map (·.map Text.trim)) :=
  ⟨_, hsheet.render_eq_ok, hsheet.read_records hstart⟩

section Errors

theorem isRectangular_ofErrors (errors : List RowError) : (ofErrors errors).IsRectangular := by
  refine ⟨List.cons_ne_nil _ _, fun row hrow => ?_⟩
  obtain ⟨error, _, rfl⟩ := List.mem_map.1 hrow
  rfl

/-- An error report has a record for each error, in their order. -/
theorem readsBack_ofErrors (errors : List RowError) :
    (ofErrors errors).ReadsBack (["Row", "Field", "Message"] :: errors.map fun error =>
      [toString error.row, Text.trim error.field, Text.trim error.message]) := by
  have hheaders : ["Row", "Field", "Message"].map Text.trim = ["Row", "Field", "Message"] := by
    decide
  have hrecords : (ofErrors errors).records.map (·.map Text.trim) =
      ["Row", "Field", "Message"] :: errors.map fun error =>
        [toString error.row, Text.trim error.field, Text.trim error.message] := by
    rw [records, ofErrors, List.map_cons, hheaders, List.map_map]
    simp only [Function.comp_def, List.map_cons, List.map_nil, Text.trim_toString]
  have hstart : ∀ header ∈ ["Row", "Field", "Message"].head?,
      header.toList.head? ≠ some Text.Encoding.byteOrderMark := by decide
  rw [← hrecords]
  exact (isRectangular_ofErrors errors).readsBack hstart

end Errors

section Template

variable (kind : AddressKind) (flags : PolicyFlags)

theorem isRectangular_template : (template kind flags).IsRectangular := by
  refine ⟨?_, fun row hrow => ?_⟩
  · rw [template, ne_eq, List.map_eq_nil_iff, ← List.map_eq_nil_iff (f := (·.label))]
    exact Schema.labels_ne_nil kind
  · rw [List.mem_singleton.1 hrow, template, List.length_map, List.length_map]

/-- The header of a column is its label, with or without the mark of a required one. -/
theorem templateHeader_eq_or (field : Field) :
    templateHeader flags field = field.label ∨
      templateHeader flags field = field.label ++ requiredSuffix := by
  rw [templateHeader]
  split
  · exact .inr rfl
  · exact .inl rfl

/-- What holds of the label of a field with the mark and without it holds of its header. -/
theorem templateHeader_cases {motive : String → Prop} {field : Field} (hlabel : motive field.label)
    (hmarked : motive (field.label ++ requiredSuffix)) : motive (templateHeader flags field) := by
  obtain hheader | hheader := templateHeader_eq_or flags field
  · rwa [hheader]
  · rwa [hheader]

theorem isPlain_template : ∀ header ∈ (template kind flags).headers, Header.IsPlain header :=
  List.forall_mem_map.2 fun field hmem => templateHeader_cases flags
    (Schema.isPlain_label kind field hmem) (Schema.isPlain_marked_label kind field hmem)

theorem isUploadable_template : (template kind flags).IsUploadable where
  toIsRectangular := isRectangular_template kind flags
  plain := isPlain_template kind flags
  rows_ne_nil := List.cons_ne_nil _ _
  visible := List.forall_mem_singleton.2 (Schema.fields_cases (by decide) (by decide) kind)
  nul_not_mem := List.forall_mem_singleton.2
    (List.forall_mem_map.2 (Schema.forall_mem_fields (by decide) kind))

theorem map_trim_samples :
    ((Schema.fields kind).map (·.sample)).map Text.trim = (Schema.fields kind).map (·.sample) :=
  Schema.fields_cases (by decide) (by decide) kind

/-- A template has one record of samples under its header. -/
theorem readsBack_template :
    (template kind flags).ReadsBack [(Schema.fields kind).map (templateHeader flags),
      (Schema.fields kind).map (·.sample)] := by
  have hrecords : (template kind flags).records.map (·.map Text.trim) =
      [(Schema.fields kind).map (templateHeader flags), (Schema.fields kind).map (·.sample)] := by
    rw [records, List.map_cons, Header.map_trim_eq_self (isPlain_template kind flags), template,
      List.map_singleton, map_trim_samples]
  rw [← hrecords]
  exact (isRectangular_template kind flags).readsBack fun header hmem =>
    (isPlain_template kind flags header (List.mem_of_head? hmem)).head?_ne

/-- The headers with the mark are those of the required fields. -/
theorem requiredSuffix_isSuffix_templateHeader_iff {field : Field}
    (hmem : field ∈ Schema.fields kind) :
    requiredSuffix.toList <:+ (templateHeader flags field).toList ↔
      field.key ∈ Policy.requiredKeys (Schema.fields kind) flags := by
  have hunmarked : ∀ field ∈ Schema.fields kind,
      ¬ requiredSuffix.toList <:+ field.label.toList := Schema.forall_mem_fields (by decide) kind
  rw [Policy.key_mem_requiredKeys_iff (Schema.nodup_keys_fields kind) hmem flags, templateHeader]
  split
  · next hrequired =>
    rw [String.toList_append]
    exact iff_of_true (List.suffix_append _ _) hrequired
  · next hoptional => exact iff_of_false (hunmarked field hmem) hoptional

end Template

/-- A sheet with columns and with rows as wide as the header is rendered, and read back as its header
and its rows, cell by cell and trimmed, unless its first header starts with a byte order mark. Error
reports, templates and exports are such sheets, with one record for each error, one of samples and one
for each address. -/
theorem rendered_sheets_read_back :
    (∀ sheet : Sheet, sheet.IsRectangular →
      (∀ header ∈ sheet.headers.head?,
        header.toList.head? ≠ some Text.Encoding.byteOrderMark) →
      sheet.ReadsBack ((sheet.headers :: sheet.rows).map (·.map Text.trim))) ∧
    (∀ errors : List RowError, (ofErrors errors).IsRectangular ∧
      (ofErrors errors).ReadsBack (["Row", "Field", "Message"] :: errors.map fun error =>
        [toString error.row, Text.trim error.field, Text.trim error.message])) ∧
    (∀ (kind : AddressKind) (flags : PolicyFlags), (template kind flags).IsRectangular ∧
      (template kind flags).ReadsBack [(Schema.fields kind).map (templateHeader flags),
        (Schema.fields kind).map (·.sample)]) ∧
    (∀ (kind : AddressKind) (addresses : List Address) (names : List (RecordId × String)),
      (ofAddresses kind addresses names).IsRectangular ∧
      (ofAddresses kind addresses names).ReadsBack ((Schema.fields kind).map (·.label) ::
        addresses.map fun address =>
          ((Schema.fields kind).map (exportCell names address)).map Text.trim)) := by
  refine ⟨fun sheet hsheet hstart => hsheet.readsBack hstart, fun errors => ?_,
    fun kind flags => ?_, fun kind addresses names => ?_⟩
  · exact ⟨isRectangular_ofErrors errors, readsBack_ofErrors errors⟩
  · exact ⟨isRectangular_template kind flags, readsBack_template kind flags⟩
  · exact ⟨isRectangular_ofAddresses kind addresses names, _, render_ofAddresses, read_exportText⟩

/-- One column with empty cells, quotes, commas and line ends of every kind. -/
theorem rendered_sheets_read_back_of_one_column :
    let sheet : Sheet := ⟨"Notes", [""], [[""], ["a,\"b\"\r\n\r"], [" \n"], [""]]⟩
    sheet.IsRectangular ∧ sheet.ReadsBack [[""], [""], ["a,\"b\""], [""], [""]] := by
  intro sheet
  have hsheet : sheet.IsRectangular := ⟨by decide, by decide⟩
  exact ⟨hsheet, rendered_sheets_read_back.1 sheet hsheet (by decide)⟩

end Sheet

end AddressIntake

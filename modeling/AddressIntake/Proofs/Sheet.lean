import AddressIntake.Proofs.Columns
import AddressIntake.Proofs.Delimited.Writer
import AddressIntake.Proofs.Header
import AddressIntake.Proofs.Separator

namespace AddressIntake

namespace Schema

/-- What holds of the common fields, with and without the ship-to field in front, holds of the fields
of each kind. -/
@[elab_as_elim]
theorem fields_cases {motive : List Field → Prop} (hcommon : motive commonFields)
    (hshipTo : motive (shipToField :: commonFields)) (kind : AddressKind) : motive (fields kind) :=
  match kind with
  | .installAt => hshipTo
  | .billFrom | .shipFrom | .billTo | .shipTo => hcommon

theorem forall_mem_fields {motive : Field → Prop}
    (hfields : ∀ field ∈ shipToField :: commonFields, motive field) (kind : AddressKind) :
    ∀ field ∈ fields kind, motive field :=
  fields_cases (motive := fun fields => ∀ field ∈ fields, motive field)
    (List.forall_mem_cons.1 hfields).2 hfields kind

theorem mem_fields_iff {kind : AddressKind} {field : Field} :
    field ∈ fields kind ↔ (kind = .installAt ∧ field = shipToField) ∨ field ∈ commonFields := by
  cases kind <;> simp [fields]

theorem exists_alwaysRequired (kind : AddressKind) :
    ∃ field ∈ fields kind, field.alwaysRequired = true :=
  fields_cases (by decide) (by decide) kind

theorem nodup_keys_fields (kind : AddressKind) : ((fields kind).map (·.key)).Nodup :=
  fields_cases (by decide) (by decide) kind

/-- The labels of a kind, as the header of a sheet. -/
def labels (kind : AddressKind) : List String :=
  (fields kind).map (·.label)

theorem labels_ne_nil (kind : AddressKind) : labels kind ≠ [] := by
  rw [labels]
  exact fields_cases (by decide) (by decide) kind

theorem isPlain_label (kind : AddressKind) : ∀ field ∈ fields kind, Header.IsPlain field.label :=
  forall_mem_fields (by decide) kind

theorem isPlain_marked_label (kind : AddressKind) :
    ∀ field ∈ fields kind, Header.IsPlain (field.label ++ Sheet.requiredSuffix) :=
  forall_mem_fields (by decide) kind

theorem isPlain_labels (kind : AddressKind) : ∀ label ∈ labels kind, Header.IsPlain label :=
  List.forall_mem_map.2 (isPlain_label kind)

end Schema

namespace Columns

/-- The columns under the labels of all fields. -/
def ofKeys (fields : List Field) : Columns :=
  ⟨fields.map (some ·.key), []⟩

/-- Whether a header names the field with a key. -/
def Names (fields : List Field) (header key : String) : Prop :=
  (Header.normalize header).isEmpty = false ∧
    keyNamed? fields (Header.normalize header) = some key

instance (fields : List Field) (header key : String) : Decidable (Names fields header key) :=
  inferInstanceAs (Decidable (_ ∧ _))

theorem push_of_names {fields : List Field} {columns : Columns} {header key : String}
    (hnames : Names fields header key) (hfresh : columns.isMapped key = false) :
    columns.push fields header = { columns with keys := columns.keys ++ [some key] } := by
  obtain ⟨hfilled, hkey⟩ := hnames
  have hfound : (some key).filter (!columns.isMapped ·) = some key := by simp [hfresh]
  simp only [push, hfilled, hkey, hfound, Bool.false_eq_true, ↓reduceIte]

/-- Headers that name the fields one after the other give the columns of the fields. -/
theorem ofHeaders_eq_ofKeys {fields : List Field} (hnodup : (fields.map (·.key)).Nodup)
    {header : Field → String} (hnames : ∀ field ∈ fields, Names fields (header field) field.key) :
    ofHeaders fields (fields.map header) = ofKeys fields := by
  have hfold (before after : List Field) (hfields : fields = before ++ after) :
      (after.map header).foldl (push fields) (ofKeys before) = ofKeys fields := by
    induction after generalizing before with
    | nil => rw [hfields, List.append_nil]; rfl
    | cons field rest ih =>
      have hmem : field ∈ fields := by rw [hfields]; simp
      have hfresh : (ofKeys before).isMapped field.key = false := by
        rw [hfields, List.map_append, List.nodup_append] at hnodup
        simpa [isMapped, ofKeys] using fun other hother hkey =>
          hnodup.2.2 other.key (List.mem_map_of_mem hother) field.key (by simp) hkey
      have hpush : (ofKeys before).push fields (header field) = ofKeys (before ++ [field]) := by
        rw [push_of_names (hnames field hmem) hfresh, ofKeys, ofKeys, List.map_append,
          List.map_singleton]
      rw [List.map_cons, List.foldl_cons, hpush]
      exact ih _ (by simp [hfields])
  exact hfold [] fields rfl

/-- Every label names its field. -/
theorem names_label (kind : AddressKind) :
    ∀ field ∈ Schema.fields kind, Names (Schema.fields kind) field.label field.key :=
  Schema.fields_cases (by decide +kernel) (by decide +kernel) kind

theorem ofHeaders_labels (kind : AddressKind) :
    ofHeaders (Schema.fields kind) (Schema.labels kind) =
      ofKeys (Schema.fields kind) :=
  ofHeaders_eq_ofKeys (Schema.nodup_keys_fields kind) (names_label kind)

/-- Under the labels of all fields, every cell is the value of its field. -/
theorem value?_row_ofKeys {fields : List Field} (hnodup : (fields.map (·.key)).Nodup)
    (cell : Field → String) {field : Field} (hmem : field ∈ fields) :
    ((ofKeys fields).row (fields.map cell)).value? field.key =
      if Text.isBlank (cell field) then none else some (Text.trim (cell field)) := by
  have hheld : (ofKeys fields).held.Nodup := by
    rw [held, ofKeys, List.filterMap_map]
    simpa using hnodup
  obtain ⟨i, hi⟩ := List.mem_iff_getElem?.1 hmem
  have hcell : ((ofKeys fields).row (fields.map cell)).get? field.key = some (cell field) := by
    refine (get?_row_eq_some_iff hheld).2 ⟨i, ?_, ?_⟩
    · rw [ofKeys, List.getElem?_map, hi, Option.map_some]
    · rw [List.getElem?_map, hi, Option.map_some, Option.getD_some]
  rw [Row.value?, hcell]

end Columns

namespace AddressFields

/-- The fields of an address are the values of a row, an empty text standing for none. -/
theorem getD_get?_ofRow (row : Row) {field : Field} (hmem : field ∈ Schema.commonFields) :
    ((ofRow row).get? field.key).getD "" = (row.value? field.key).getD "" := by
  simp only [Schema.commonFields, List.mem_cons, List.not_mem_nil, or_false] at hmem
  rcases hmem with rfl | rfl | rfl | rfl | rfl | rfl | rfl | rfl | rfl | rfl | rfl | rfl | rfl | rfl <;>
    rfl

/-- Rows with the same values give the same fields. -/
theorem ofRow_congr {first second : Row}
    (hvalues : ∀ field ∈ Schema.commonFields, first.value? field.key = second.value? field.key) :
    ofRow first = ofRow second := by
  simp only [Schema.commonFields, List.forall_mem_cons] at hvalues
  simp only [ofRow, hvalues]

end AddressFields

namespace Sheet

theorem lookup_filter_ne (names : List (RecordId × String)) (other id : RecordId) :
    (names.filter (·.1 != other)).lookup id = if id = other then none else names.lookup id := by
  induction names with
  | nil => simp
  | cons entry names ih =>
    rw [List.filter_cons, List.lookup_cons]
    by_cases hdropped : entry.1 = other
    · rw [if_neg (by simpa using hdropped), ih, hdropped]
      by_cases hid : id = other
      · simp [hid]
      · simp [hid, beq_eq_false_iff_ne.2 hid]
    · rw [if_pos (by simpa using hdropped), List.lookup_cons, ih]
      by_cases hid : id = other
      · subst hid
        simp [beq_eq_false_iff_ne.2 (Ne.symm hdropped)]
      · simp [hid]

/-- One more address gives its company name to its identity. -/
theorem lookup_shipToNames_append (addresses : List Address) (address : Address) (id : RecordId) :
    (shipToNames (addresses ++ [address])).lookup id =
      if id = address.id then address.fields.companyName.or ((shipToNames addresses).lookup id)
      else (shipToNames addresses).lookup id := by
  rw [shipToNames, List.foldl_append, ← shipToNames, List.foldl_cons, List.foldl_nil]
  cases address.fields.companyName with
  | none => simp
  | some name =>
    rw [List.lookup_append, lookup_filter_ne]
    by_cases hid : id = address.id
    · simp [hid]
    · simp [hid, List.lookup_cons, beq_eq_false_iff_ne.2 hid]

/-- The company name of an address is found by its identity if no two addresses share one. -/
theorem lookup_shipToNames {addresses : List Address} (hnodup : (addresses.map (·.id)).Nodup)
    {target : Address} (hmem : target ∈ addresses) {name : String}
    (hname : target.fields.companyName = some name) :
    (shipToNames addresses).lookup target.id = some name := by
  induction addresses using List.reverseRecOn with
  | nil => cases hmem
  | append_singleton addresses address ih =>
    rw [List.map_append, List.nodup_append] at hnodup
    rw [lookup_shipToNames_append]
    rcases List.mem_append.1 hmem with hbefore | hlast
    · have hne : target.id ≠ address.id :=
        hnodup.2.2 target.id (List.mem_map_of_mem hbefore) address.id (by simp)
      rw [if_neg hne]
      exact ih hnodup.1 hbefore
    · rw [List.mem_singleton.1 hlast] at hname ⊢
      rw [if_pos rfl, hname, Option.some_or]

open Delimited

/-- The header and the rows. -/
def records (sheet : Sheet) : List (List String) :=
  sheet.headers :: sheet.rows

/-- A sheet with at least one column, all of whose rows are as wide as the header. -/
structure IsRectangular (sheet : Sheet) : Prop where
  headers_ne_nil : sheet.headers ≠ []
  length_row : ∀ row ∈ sheet.rows, row.length = sheet.headers.length

variable {sheet : Sheet}

theorem IsRectangular.render_eq_ok (hsheet : sheet.IsRectangular) :
    sheet.render = .ok (sheet.records.flatMap writeRecord) := by
  have hwidth : ∀ record ∈ sheet.records, record.length = sheet.headers.length := by
    intro record hrecord
    rcases List.mem_cons.1 hrecord with rfl | hrow
    · rfl
    · exact hsheet.length_row record hrow
  rw [render, ← records, write_eq_ok hwidth]

/-- What is read of a rendered sheet are its cells, trimmed, if it does not start with a byte order
mark. -/
theorem IsRectangular.read_records (hsheet : sheet.IsRectangular)
    (hstart : ∀ header ∈ sheet.headers.head?,
      header.toList.head? ≠ some Text.Encoding.byteOrderMark) :
    Delimited.read ',' (sheet.records.flatMap writeRecord) =
      sheet.records.map (·.map Text.trim) := by
  have hpos := List.length_pos_iff.2 hsheet.headers_ne_nil
  refine read_flatMap_writeRecord (fun record hrecord => ?_) ?_
  · rcases List.mem_cons.1 hrecord with rfl | hrow
    · exact hsheet.headers_ne_nil
    · rw [← List.length_pos_iff, hsheet.length_row record hrow]
      exact hpos
  · exact head?_writeRecord_append (by decide) hstart _

/-- A sheet whose rendered text is taken for a table of its rows: the headers are plain, and there are
rows, each of them with a cell that is not blank and none with binary content. -/
structure IsUploadable (sheet : Sheet) : Prop extends IsRectangular sheet where
  plain : ∀ header ∈ sheet.headers, Header.IsPlain header
  rows_ne_nil : sheet.rows ≠ []
  visible : ∀ row ∈ sheet.rows, ∃ cell ∈ row, Text.isBlank cell = false
  nul_not_mem : ∀ row ∈ sheet.rows, ∀ cell ∈ row, '\x00' ∉ cell.toList

namespace IsUploadable

variable (hsheet : sheet.IsUploadable)

include hsheet

theorem isBlankRow_headers : Table.isBlankRow sheet.headers = false := by
  obtain ⟨header, others, hheaders⟩ := List.exists_cons_of_ne_nil hsheet.headers_ne_nil
  have hmem : header ∈ sheet.headers := by rw [hheaders]; exact List.mem_cons_self
  have hplain := hsheet.plain header hmem
  have hvisible := hplain.visible
  rw [Text.isBlank_eq_isEmpty_of_trimmed hplain.trimmed] at hvisible
  exact List.all_eq_false.2 ⟨header, hmem, by simpa using hvisible⟩

theorem head?_ne (rest : List Char) :
    (writeRecord sheet.headers ++ rest).head? ≠ some Text.Encoding.byteOrderMark :=
  head?_writeRecord_append (by decide)
    (fun header hmem => (hsheet.plain header (List.mem_of_head? hmem)).head?_ne) rest

/-- The header is separated by commas, whatever follows. -/
theorem detectSeparator_eq (rest : List Char) :
    detectSeparator (writeRecord sheet.headers ++ rest) = ',' := by
  have hformat : [',', '"', '\n'].all Header.isPlainChar = true := by decide
  refine detectSeparator_eq_comma fun sep hsep hcomma hmem => ?_
  have hstrange := Header.isPlainChar_of_separator hsep hcomma
  rw [writeRecord, List.append_assoc] at hmem
  have hrecord : sep ∈ writeRecord sheet.headers :=
    List.mem_append_left _ (mem_of_mem_firstLine hmem)
  obtain ⟨header, hheader, hc⟩ | hother := exists_or_mem_of_mem_writeRecord hrecord
  · exact (hsheet.plain header hheader).not_mem hstrange hc
  · rw [List.all_eq_true.1 hformat sep hother] at hstrange
    cases hstrange

theorem nul_not_mem_text : '\x00' ∉ sheet.records.flatMap writeRecord := by
  intro hmem
  obtain ⟨record, hrecord, hwritten⟩ := List.mem_flatMap.1 hmem
  obtain ⟨cell, hcell, hc⟩ | hformat := exists_or_mem_of_mem_writeRecord hwritten
  · rcases List.mem_cons.1 hrecord with rfl | hrow
    · exact (hsheet.plain cell hcell).not_mem rfl hc
    · exact hsheet.nul_not_mem record hrow cell hcell hc
  · exact absurd hformat (by decide)

/-- No row becomes blank when its cells are trimmed. -/
theorem isBlankRow_map_trim {row : List String} (hrow : row ∈ sheet.rows) :
    Table.isBlankRow (row.map Text.trim) = false := by
  obtain ⟨cell, hcell, hvisible⟩ := hsheet.visible row hrow
  refine List.all_eq_false.2 ⟨Text.trim cell, List.mem_map_of_mem hcell, ?_⟩
  rw [← Text.isBlank_eq_isEmpty_of_trimmed (Text.trim_trim cell), Text.isBlank_trim, hvisible]
  decide

/-- The text of an uploadable sheet is read as the table of its header and its trimmed rows. -/
theorem parse_eq_ok {charset : String} (hutf8 : Text.Encoding.ofDetected charset = "utf-8") :
    Table.parse .csv (.bytes (Text.Utf8.encode (sheet.records.flatMap writeRecord)) charset) =
      .ok ⟨.csv, sheet.headers, sheet.rows.map (·.map Text.trim), some "utf-8", some ','⟩ := by
  have hvisible : ∀ cells ∈ sheet.rows.map (·.map Text.trim), Table.isBlankRow cells = false := by
    intro cells hmem
    obtain ⟨row, hrow, rfl⟩ := List.mem_map.1 hmem
    exact hsheet.isBlankRow_map_trim hrow
  have hrows : ∃ cells ∈ sheet.rows.map (·.map Text.trim), Table.isBlankRow cells = false := by
    obtain ⟨row, others, hcons⟩ := List.exists_cons_of_ne_nil hsheet.rows_ne_nil
    refine ⟨row.map Text.trim, List.mem_map_of_mem ?_, hsheet.isBlankRow_map_trim ?_⟩ <;>
      simp [hcons]
  have hlast : (sheet.rows.map (·.map Text.trim)).rdropWhile Table.isBlankRow =
      sheet.rows.map (·.map Text.trim) :=
    List.rdropWhile_eq_self_iff.2 fun hnonempty => by
      rw [hvisible _ (List.getLast_mem hnonempty)]
      decide
  have hread := hsheet.read_records fun header hmem =>
    (hsheet.plain header (List.mem_of_head? hmem)).head?_ne
  rw [records, List.map_cons, Header.map_trim_eq_self hsheet.plain, ← records] at hread
  have hstart : (sheet.records.flatMap writeRecord).head? ≠ some Text.Encoding.byteOrderMark :=
    hsheet.head?_ne _
  have hseparator : detectSeparator (sheet.records.flatMap writeRecord) = ',' :=
    hsheet.detectSeparator_eq _
  have hnul := hsheet.nul_not_mem_text
  rw [Table.parse_encode (by decide) hutf8 hstart, Table.ofText,
    if_neg (by simpa using hnul), hseparator]
  simp only [reduceCtorEq, beq_iff_eq, ↓reduceIte, hread]
  conv => rhs; rw [← hlast]
  exact Table.ofRows_eq_ok (List.forall_mem_nil _) hsheet.isBlankRow_headers hrows .csv _ _

end IsUploadable

/-- The cells of an address in a sheet. -/
def record (kind : AddressKind) (names : List (RecordId × String)) (address : Address) :
    List String :=
  (Schema.fields kind).map (exportCell names address)

/-- The text of a sheet of addresses. -/
def exportText (kind : AddressKind) (names : List (RecordId × String)) (addresses : List Address) :
    List Char :=
  (Schema.labels kind :: addresses.map (record kind names)).flatMap writeRecord

theorem isRectangular_ofAddresses (kind : AddressKind) (addresses : List Address)
    (names : List (RecordId × String)) : (ofAddresses kind addresses names).IsRectangular := by
  refine ⟨Schema.labels_ne_nil kind, fun row hrow => ?_⟩
  obtain ⟨address, _, rfl⟩ := List.mem_map.1 hrow
  rw [ofAddresses, List.length_map, List.length_map]

variable {kind : AddressKind} {addresses : List Address} {names : List (RecordId × String)}

theorem render_ofAddresses :
    (ofAddresses kind addresses names).render = .ok (exportText kind names addresses) :=
  (isRectangular_ofAddresses kind addresses names).render_eq_ok

theorem read_exportText :
    Delimited.read ',' (exportText kind names addresses) =
      Schema.labels kind :: addresses.map fun address =>
        (record kind names address).map Text.trim := by
  have hread := (isRectangular_ofAddresses kind addresses names).read_records fun label hmem =>
    (Schema.isPlain_labels kind label (List.mem_of_head? hmem)).head?_ne
  rw [records, List.map_cons, ofAddresses, ← Schema.labels,
    Header.map_trim_eq_self (Schema.isPlain_labels kind), List.map_map] at hread
  exact hread

/-- A rendered sheet of addresses is read as the table of its trimmed cells, if each address has a
cell that is not blank. -/
theorem parse_exportText {charset : String}
    (hutf8 : Text.Encoding.ofDetected charset = "utf-8") (hne : addresses ≠ [])
    (hbinary : ∀ address ∈ addresses, ∀ cell ∈ record kind names address, '\x00' ∉ cell.toList)
    (hfilled : ∀ address ∈ addresses, ∃ cell ∈ record kind names address,
      Text.isBlank cell = false) :
    Table.parse .csv (.bytes (Text.Utf8.encode (exportText kind names addresses)) charset) =
      .ok ⟨.csv, Schema.labels kind, addresses.map fun address =>
        (record kind names address).map Text.trim, some "utf-8", some ','⟩ := by
  have hsheet : (ofAddresses kind addresses names).IsUploadable :=
    { toIsRectangular := isRectangular_ofAddresses kind addresses names
      plain := Schema.isPlain_labels kind
      rows_ne_nil := mt List.map_eq_nil_iff.1 hne
      visible := List.forall_mem_map.2 hfilled
      nul_not_mem := List.forall_mem_map.2 hbinary }
  have hparse := hsheet.parse_eq_ok hutf8
  rw [ofAddresses, List.map_map] at hparse
  exact hparse

end Sheet

end AddressIntake

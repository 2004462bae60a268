import AddressIntake.Proofs.Delimited.Layout
import AddressIntake.Proofs.Table

namespace AddressIntake.Delimited

/-- How the writer spells a cell. -/
def Spelling.ofCell (cell : List Char) : Spelling :=
  if needsQuotes cell then .quoted cell else .plain cell

namespace Spelling

theorem text_ofCell (cell : List Char) : (ofCell cell).text = writeCell cell := by
  rw [ofCell, writeCell]
  split <;> rfl

theorem value_ofCell (cell : List Char) : (ofCell cell).value = cell := by
  rw [ofCell]
  split <;> rfl

theorem isValid_ofCell (cell : List Char) : (ofCell cell).IsValid ',' := by
  rw [ofCell]
  split
  · exact trivial
  · next hplain =>
    simp only [needsQuotes, Bool.not_eq_true, List.any_eq_false, Bool.or_eq_false_iff,
      beq_eq_false_iff_ne] at hplain
    refine ⟨fun hquote => ?_, fun c hc => ?_⟩
    · exact (hplain '"' (List.mem_of_head? hquote)).1.1.2 rfl
    · obtain ⟨⟨⟨hcomma, _⟩, hfeed⟩, hreturn⟩ := hplain c hc
      exact ⟨hcomma, by simp [isLineEnd, hfeed, hreturn]⟩

end Spelling

namespace Line

/-- The line that is written for a record. A single empty cell is put in quotes. -/
def ofRecord (record : List String) : Line :=
  if record = [""] then [.quoted []] else record.map fun cell => .ofCell cell.toList

variable {record : List String}

theorem values_ofRecord (record : List String) :
    (ofRecord record).values = record.map String.toList := by
  rw [ofRecord, values]
  split
  · next hempty => rw [hempty]; rfl
  · rw [List.map_map]
    exact List.map_congr_left fun cell _ => Spelling.value_ofCell cell.toList

theorem row_ofRecord (record : List String) : (ofRecord record).row = record.map Text.trim := by
  rw [row, values_ofRecord, List.map_map]
  refine List.map_congr_left fun cell _ => ?_
  rw [Function.comp_apply, cellText_eq_trim, String.ofList_toList]

theorem ofRecord_ne_nil (hne : record ≠ []) : ofRecord record ≠ [] := by
  rw [ofRecord]
  split
  · exact List.cons_ne_nil _ _
  · simpa using hne

/-- Only a record of one empty cell has an empty text. -/
theorem eq_nil_or_of_intercalate_eq_nil
    (hnil : [','].intercalate (record.map (writeCell ∘ String.toList)) = []) :
    record = [] ∨ record = [""] := by
  cases record with
  | nil => exact .inl rfl
  | cons cell others =>
    cases others with
    | nil =>
      rw [List.map_singleton, List.intercalate_singleton, Function.comp_apply, writeCell] at hnil
      split at hnil
      · cases hnil
      · exact .inr (congrArg (fun s => [s]) (String.toList_eq_nil_iff.1 hnil))
    | cons second others => simp [List.intercalate_cons_cons] at hnil

theorem text_ofRecord (hne : record ≠ []) :
    (ofRecord record).text ',' = writeCells (record.map String.toList) := by
  rw [ofRecord, writeCells]
  split
  · next hempty =>
    subst hempty
    rfl
  · next hother =>
    have htext : text ',' (record.map fun cell => .ofCell cell.toList) =
        [','].intercalate ((record.map String.toList).map writeCell) := by
      rw [text, List.map_map, List.map_map]
      exact congrArg _ (List.map_congr_left fun cell _ => Spelling.text_ofCell cell.toList)
    rw [htext]
    split
    · next hnil =>
      rw [List.map_map] at hnil
      rcases eq_nil_or_of_intercalate_eq_nil hnil with hnone | hempty
      · exact absurd hnone hne
      · exact absurd hempty hother
    · rfl

theorem isValid_ofRecord (hne : record ≠ []) : (ofRecord record).IsValid ',' := by
  refine ⟨?_, fun _ => ?_⟩
  · rw [ofRecord]
    split
    · simp [Spelling.IsValid]
    · intro cell hcell
      obtain ⟨s, _, rfl⟩ := List.mem_map.1 hcell
      exact Spelling.isValid_ofCell s.toList
  · rw [text_ofRecord hne, writeCells]
    split
    · exact List.cons_ne_nil _ _
    · next hfilled => exact fun hnil => hfilled hnil

end Line

/-- The records of equal width are written one after the other. -/
theorem write_eq_ok {width : Nat} {records : List (List String)}
    (hwidth : ∀ record ∈ records, record.length = width) :
    write width records = .ok (records.flatMap writeRecord) := by
  induction records with
  | nil => rfl
  | cons record rest ih =>
    have hrest := ih fun other hother => hwidth other (List.mem_cons_of_mem record hother)
    rw [write, if_pos (by simpa using hwidth record List.mem_cons_self), hrest]
    rfl

/-- What is read of written records are their cells, trimmed. -/
theorem read_flatMap_writeRecord {records : List (List String)}
    (hfilled : ∀ record ∈ records, record ≠ [])
    (hstart : (records.flatMap writeRecord).head? ≠ some Text.Encoding.byteOrderMark) :
    read ',' (records.flatMap writeRecord) = records.map (·.map Text.trim) := by
  let layout : Layout := ⟨records.map fun record => (Line.ofRecord record, .lf), []⟩
  have htext : layout.text ',' = records.flatMap writeRecord := by
    rw [Layout.text, Line.text_nil, List.append_nil, List.flatMap_map, List.flatMap_def,
      List.flatMap_def]
    refine congrArg _ (List.map_congr_left fun record hrecord => ?_)
    rw [Line.text_ofRecord (hfilled record hrecord), writeRecord]
    rfl
  have hlines : layout.lines.rdropWhile List.isEmpty = records.map Line.ofRecord := by
    rw [Layout.lines, List.map_map, List.rdropWhile_concat_pos _ _ _ rfl]
    refine List.rdropWhile_eq_self_iff.2 fun hne hlast => ?_
    obtain ⟨record, hrecord, hline⟩ := List.mem_map.1 (List.getLast_mem hne)
    rw [← hline, List.isEmpty_iff] at hlast
    exact Line.ofRecord_ne_nil (hfilled record hrecord) hlast
  have hvalid : layout.IsValid ',' := by
    refine ⟨fun line hline => ?_, ?_, by rwa [htext]⟩
    · rw [Layout.lines, List.map_map] at hline
      rcases List.mem_append.1 hline with hline | hline
      · obtain ⟨record, hrecord, rfl⟩ := List.mem_map.1 hline
        exact Line.isValid_ofRecord (hfilled record hrecord)
      · cases List.mem_singleton.1 hline
        exact ⟨fun cell hcell => (List.not_mem_nil hcell).elim, fun hne => absurd rfl hne⟩
    · refine List.Pairwise.isChain (List.pairwise_of_forall_mem_list fun before hbefore _ _ hcr => ?_)
      obtain ⟨record, _, rfl⟩ := List.mem_map.1 hbefore
      cases hcr
  rw [← htext, hvalid.read_text (isSeparator_of_mem (by decide)), hlines, List.map_map]
  exact List.map_congr_left fun record _ => Line.row_ofRecord record

theorem mem_or_exists_of_mem_intercalate {c : Char} {between : List Char} {pieces : List (List Char)}
    (hmem : c ∈ between.intercalate pieces) : c ∈ between ∨ ∃ piece ∈ pieces, c ∈ piece := by
  induction pieces with
  | nil => cases hmem
  | cons piece pieces ih =>
    cases pieces with
    | nil => exact .inr ⟨piece, List.mem_cons_self, by rwa [List.intercalate_singleton] at hmem⟩
    | cons next pieces =>
      rw [List.intercalate_cons_cons, List.append_assoc, List.mem_append, List.mem_append] at hmem
      rcases hmem with hc | hc | hc
      · exact .inr ⟨piece, List.mem_cons_self, hc⟩
      · exact .inl hc
      · obtain hbetween | ⟨other, hother, hc⟩ := ih hc
        · exact .inl hbetween
        · exact .inr ⟨other, List.mem_cons_of_mem piece hother, hc⟩

theorem mem_or_eq_of_mem_quoteCell {c : Char} {cell : List Char} (hmem : c ∈ quoteCell cell) :
    c ∈ cell ∨ c = '"' := by
  simp only [quoteCell, List.mem_cons, List.mem_append, List.mem_flatMap, List.not_mem_nil,
    or_false] at hmem
  rcases hmem with hquote | ⟨d, hd, hc⟩ | hquote
  · exact .inr hquote
  · split at hc
    · exact .inr (by simpa using hc)
    · exact .inl (by rwa [List.mem_singleton.1 hc])
  · exact .inr hquote

theorem mem_or_eq_of_mem_writeCell {c : Char} {cell : List Char} (hmem : c ∈ writeCell cell) :
    c ∈ cell ∨ c = '"' := by
  rw [writeCell] at hmem
  split at hmem
  · exact mem_or_eq_of_mem_quoteCell hmem
  · exact .inl hmem

/-- A written record holds the characters of its cells, and those that separate and quote them. -/
theorem exists_or_mem_of_mem_writeRecord {record : List String} {c : Char}
    (hmem : c ∈ writeRecord record) :
    (∃ cell ∈ record, c ∈ cell.toList) ∨ c ∈ [',', '"', '\n'] := by
  rw [writeRecord, List.mem_append, writeCells] at hmem
  rcases hmem with hcells | hend
  · split at hcells
    · exact .inr (by simp_all)
    · obtain hcomma | ⟨piece, hpiece, hc⟩ := mem_or_exists_of_mem_intercalate hcells
      · exact .inr (by simp_all)
      · rw [List.map_map] at hpiece
        obtain ⟨cell, hcell, rfl⟩ := List.mem_map.1 hpiece
        obtain hc | hquote := mem_or_eq_of_mem_writeCell hc
        · exact .inl ⟨cell, hcell, hc⟩
        · exact .inr (by simp [hquote])
  · exact .inr (by simp_all)

/-- A written record starts with its first cell, with a quote or with what ends the cell. -/
theorem head?_writeRecord_append {record : List String} {c : Char} (hformat : c ∉ [',', '"', '\n'])
    (hfirst : ∀ cell ∈ record.head?, cell.toList.head? ≠ some c) (rest : List Char) :
    (writeRecord record ++ rest).head? ≠ some c := by
  simp only [List.mem_cons, List.not_mem_nil, or_false, not_or] at hformat
  obtain ⟨hcomma, hquote, hfeed⟩ := hformat
  rw [writeRecord, writeCells]
  split
  · simpa using Ne.symm hquote
  · next hfilled =>
    cases record with
    | nil => exact absurd rfl hfilled
    | cons cell others =>
      have hcell : (writeCell cell.toList).head? ≠ some c := by
        rw [writeCell]
        split
        · simpa [quoteCell] using Ne.symm hquote
        · exact hfirst cell rfl
      cases hwritten : writeCell cell.toList with
      | cons d ds =>
        rw [hwritten] at hcell
        cases others <;> simpa [List.intercalate_cons_cons, hwritten] using hcell
      | nil =>
        cases others with
        | nil => exact absurd (by simp [hwritten]) hfilled
        | cons second others => simpa [List.intercalate_cons_cons, hwritten] using Ne.symm hcomma

end AddressIntake.Delimited

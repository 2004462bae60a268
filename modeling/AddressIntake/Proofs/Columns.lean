import AddressIntake.Columns
import AddressIntake.Proofs.FieldMap
import Mathlib.Data.List.Nodup

namespace AddressIntake.Columns

/-- The keys of the columns that hold a field. -/
def held (columns : Columns) : List String :=
  columns.keys.filterMap id

theorem nodup_held_push {fields : List Field} {columns : Columns} (hnodup : columns.held.Nodup)
    (header : String) : (columns.push fields header).held.Nodup := by
  have hignored : (columns.keys ++ [none]).filterMap id = columns.held := by simp [held]
  rw [push]
  split
  · rwa [held, hignored]
  · split
    · next key hkey =>
      have hfresh : key ∉ columns.held := by
        have hmapped := (Option.filter_eq_some_iff.1 hkey).2
        simpa [isMapped, held] using hmapped
      have happend : (columns.keys ++ [some key]).filterMap id = columns.held ++ [key] := by
        simp [held]
      rw [held, happend]
      exact hnodup.append (List.nodup_singleton key) (List.disjoint_singleton.2 hfresh)
    · rwa [held, hignored]

theorem nodup_held_ofHeaders (fields : List Field) (headers : List String) :
    (ofHeaders fields headers).held.Nodup := by
  have hfold (columns : Columns) (hnodup : columns.held.Nodup) :
      (headers.foldl (push fields) columns).held.Nodup := by
    induction headers generalizing columns with
    | nil => exact hnodup
    | cons header rest ih =>
      rw [List.foldl_cons]
      exact ih _ (nodup_held_push hnodup header)
  exact hfold empty List.nodup_nil

/-- Whether a data row has a cell in a column with a field that is not blank. -/
def holds (columns : Columns) (cells : List String) : Bool :=
  (columns.keys.zip cells).any fun entry => entry.1.isSome && !Text.isBlank entry.2

/-- The cells in columns with a field, each with the key of the field. -/
def entries (columns : Columns) (cells : List String) : List (String × String) :=
  columns.keys.zipIdx.filterMap fun (key, i) => key.map fun key => (key, (cells[i]?).getD "")

theorem row_eq_ofList (columns : Columns) (cells : List String) :
    columns.row cells = .ofList (columns.entries cells) :=
  rfl

theorem mem_entries_iff {columns : Columns} {cells : List String} {entry : String × String} :
    entry ∈ columns.entries cells ↔
      ∃ i : Nat, columns.keys[i]? = some (some entry.1) ∧ entry.2 = (cells[i]?).getD "" := by
  rw [entries, List.mem_filterMap]
  constructor
  · rintro ⟨⟨key?, i⟩, hmem, hentry⟩
    obtain ⟨key, rfl, rfl⟩ := Option.map_eq_some_iff.1 hentry
    exact ⟨i, List.mem_zipIdx_iff_getElem?.1 hmem, rfl⟩
  · rintro ⟨i, hkey, hcell⟩
    refine ⟨(some entry.1, i), List.mem_zipIdx_iff_getElem?.2 hkey, ?_⟩
    exact congrArg (fun cell => some (entry.1, cell)) hcell.symm

theorem map_fst_entries (columns : Columns) (cells : List String) :
    (columns.entries cells).map (·.1) = columns.held := by
  rw [entries, List.map_filterMap, held]
  conv => rhs; rw [← List.zipIdx_map_fst 0 columns.keys, List.filterMap_map]
  congr 1
  funext entry
  simp [Function.comp_def]

variable {columns : Columns} (hnodup : columns.held.Nodup)

include hnodup

theorem nodup_keys_entries (cells : List String) : ((columns.entries cells).map (·.1)).Nodup := by
  rwa [map_fst_entries]

/-- A cell in a column with a field is the one that its row holds. -/
theorem get?_row_eq_some_iff {cells : List String} {key cell : String} :
    (columns.row cells).get? key = some cell ↔
      ∃ i : Nat, columns.keys[i]? = some (some key) ∧ cell = (cells[i]?).getD "" := by
  rw [row_eq_ofList, FieldMap.get?_ofList_eq_some_iff (nodup_keys_entries hnodup cells),
    mem_entries_iff]

theorem isBlank_row (cells : List String) :
    (columns.row cells).isBlank = !columns.holds cells := by
  have hmem (entry : String × String) :
      entry ∈ (columns.row cells).entries ↔ entry ∈ columns.entries cells := by
    rw [row_eq_ofList, FieldMap.mem_entries_ofList_iff (nodup_keys_entries hnodup cells)]
  rw [Bool.eq_iff_iff, Bool.not_eq_true', holds, List.any_eq_false]
  simp only [Row.isBlank, List.all_eq_true, hmem, mem_entries_iff]
  constructor
  · rintro hall ⟨key?, cell⟩ hpair
    obtain ⟨i, hi⟩ := List.mem_iff_getElem?.1 hpair
    obtain ⟨hkey, hcell⟩ := List.getElem?_zip_eq_some.1 hi
    cases key? with
    | none => simp
    | some key =>
      have hblank := hall (key, cell) ⟨i, hkey, by rw [hcell]; rfl⟩
      simpa using hblank
  · rintro hnone ⟨key, _⟩ ⟨i, hkey, rfl⟩
    cases hfound : cells[i]? with
    | none => rfl
    | some cell =>
      have hpair : (some key, cell) ∈ columns.keys.zip cells :=
        List.mem_of_getElem? (List.getElem?_zip_eq_some.2 ⟨hkey, hfound⟩)
      simpa using hnone _ hpair

theorem filledCount_rows (data : List (List String)) :
    Row.filledCount (columns.rows data) = data.countP columns.holds := by
  rw [Row.filledCount, rows, List.countP_map]
  exact List.countP_congr fun cells _ => by simp [isBlank_row hnodup]

end AddressIntake.Columns

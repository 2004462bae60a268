import AddressIntake.Proofs.Columns
import AddressIntake.Proofs.Table
import Mathlib.Data.List.Forall2

namespace AddressIntake

namespace Table

/-- The cell of a row at a position. A missing cell reads as empty. -/
def cellAt (row : List String) (i : Nat) : String :=
  (row[i]?).getD ""

/-- Empty cells at the end of a row are read as missing ones. -/
theorem cellAt_append_replicate (cells : List String) (count i : Nat) :
    cellAt (cells ++ List.replicate count "") i = cellAt cells i := by
  rw [cellAt, cellAt]
  by_cases hi : i < cells.length
  · rw [List.getElem?_append_left hi]
  · rw [List.getElem?_append_right (Nat.not_lt.1 hi), List.getElem?_eq_none (Nat.not_lt.1 hi),
      List.getElem?_replicate]
    split <;> rfl

theorem isBlankRow_iff {row : List String} : isBlankRow row = true ↔ ∀ i, cellAt row i = "" := by
  rw [isBlankRow, List.all_eq_true]
  constructor
  · intro hempty i
    cases hcell : row[i]? with
    | none => rw [cellAt, hcell, Option.getD_none]
    | some cell =>
      rw [cellAt, hcell, Option.getD_some]
      simpa using hempty cell (List.mem_of_getElem? hcell)
  · intro hempty cell hmem
    obtain ⟨i, hi⟩ := List.mem_iff_getElem?.1 hmem
    have hcell := hempty i
    rw [cellAt, hi, Option.getD_some] at hcell
    simp [hcell]

/-- A row shows the cells that another one has from a position on. In front of it that one is
empty. -/
structure IsShift (left : Nat) (row shown : List String) : Prop where
  cellAt_eq : ∀ i, cellAt shown i = cellAt row (left + i)
  empty : ∀ i < left, cellAt row i = ""

theorem IsShift.isBlankRow_eq {left : Nat} {row shown : List String} (hshift : IsShift left row shown) :
    isBlankRow row = isBlankRow shown := by
  rw [Bool.eq_iff_iff, isBlankRow_iff, isBlankRow_iff]
  constructor
  · intro hrow i
    rw [hshift.cellAt_eq, hrow]
  · intro hshown i
    by_cases hi : i < left
    · exact hshift.empty i hi
    · obtain ⟨j, rfl⟩ := Nat.exists_eq_add_of_le (Nat.not_lt.1 hi)
      rw [← hshift.cellAt_eq, hshown]

theorem isBlankRow_of_forall₂ {left : Nat} {rows shown : List (List String)}
    (hrows : List.Forall₂ (IsShift left) rows shown)
    (hshown : ∀ row ∈ shown, isBlankRow row = true) : ∀ row ∈ rows, isBlankRow row = true := by
  induction hrows with
  | nil => exact List.forall_mem_nil _
  | cons hrow _ ih =>
    rw [List.forall_mem_cons] at hshown ⊢
    exact ⟨hrow.isBlankRow_eq.trans hshown.1, ih hshown.2⟩

/-- Rows whose cells are shown by other rows show what those show. -/
theorem forall₂_isShift_trans {left : Nat} {rows shown others : List (List String)}
    (hrows : List.Forall₂ (IsShift 0) rows shown)
    (hothers : List.Forall₂ (IsShift left) shown others) :
    List.Forall₂ (IsShift left) rows others := by
  induction hrows generalizing others with
  | nil => rwa [List.forall₂_nil_left_iff] at hothers ⊢
  | @cons row other rest rest' hrow _ ih =>
    obtain ⟨last, more, hlast, hmore, rfl⟩ := List.forall₂_cons_left_iff.1 hothers
    refine .cons ⟨fun i => ?_, fun i hi => ?_⟩ (ih hmore)
    · rw [hlast.cellAt_eq, hrow.cellAt_eq, Nat.zero_add]
    · have hempty := hlast.empty i hi
      rwa [hrow.cellAt_eq, Nat.zero_add] at hempty

/-- Rows that have the same cells differ in empty cells at their ends. -/
theorem exists_eq_append_replicate {first second : List String}
    (hsame : ∀ i, cellAt second i = cellAt first i) :
    ∃ (cells : List String) (m n : Nat),
      first = cells ++ List.replicate m "" ∧ second = cells ++ List.replicate n "" := by
  have hempty {row : List String} (hrow : ∀ i, cellAt row i = "") :
      row = List.replicate row.length "" :=
    List.eq_replicate_iff.2 ⟨rfl, fun cell hmem => by
      simpa using List.all_eq_true.1 (isBlankRow_iff.2 hrow) cell hmem⟩
  induction first generalizing second with
  | nil => exact ⟨[], 0, second.length, rfl, hempty hsame⟩
  | cons cell first ih =>
    cases second with
    | nil => exact ⟨[], (cell :: first).length, 0, hempty fun i => (hsame i).symm, rfl⟩
    | cons other second =>
      obtain rfl : other = cell := hsame 0
      have hrest : ∀ i, cellAt second i = cellAt first i := fun i => hsame (i + 1)
      obtain ⟨cells, m, n, hfirst, hsecond⟩ := ih hrest
      exact ⟨other :: cells, m, n, by rw [hfirst, List.cons_append], by rw [hsecond, List.cons_append]⟩

/-- A row that is not blank starts with the empty cells that are not shown. -/
theorem IsShift.exists_eq {left : Nat} {row shown : List String} (hshift : IsShift left row shown)
    (hfilled : isBlankRow row = false) :
    ∃ (cells : List String) (m n : Nat),
      row = List.replicate left "" ++ (cells ++ List.replicate m "") ∧
      shown = cells ++ List.replicate n "" := by
  have hlength : left ≤ row.length := by
    by_contra hshort
    have hblank : isBlankRow row = true := isBlankRow_iff.2 fun i => by
      by_cases hi : i < left
      · exact hshift.empty i hi
      · rw [cellAt, List.getElem?_eq_none (by omega), Option.getD_none]
    rw [hblank] at hfilled
    cases hfilled
  have htake : (row.take left).length = left := List.length_take_of_le hlength
  have hfront : row.take left = List.replicate left "" := by
    refine List.eq_replicate_iff.2 ⟨htake, fun cell hmem => ?_⟩
    obtain ⟨i, hi, rfl⟩ := List.mem_iff_getElem.1 hmem
    rw [htake] at hi
    have hcell := hshift.empty i hi
    rwa [cellAt, List.getElem?_eq_getElem (by omega), Option.getD_some, ← List.getElem_take] at hcell
  have hrest : ∀ i, cellAt shown i = cellAt (row.drop left) i := fun i => by
    rw [hshift.cellAt_eq, cellAt, cellAt, List.getElem?_drop]
  obtain ⟨cells, m, n, hrow, hshown⟩ := exists_eq_append_replicate hrest
  exact ⟨cells, m, n, by rw [← hfront, ← hrow, List.take_append_drop], hshown⟩

/-- Blank rows at both ends make no difference to the table of rows. -/
theorem ofRows_append_append {before after : List (List String)}
    (hbefore : ∀ row ∈ before, isBlankRow row = true) (hafter : ∀ row ∈ after, isBlankRow row = true)
    (rows : List (List String)) (kind : FileKind) (encoding : Option String)
    (separator : Option Char) :
    ofRows kind (before ++ (rows ++ after)) encoding separator =
      ofRows kind rows encoding separator := by
  have hcount {blank : List (List String)} (hblank : ∀ row ∈ blank, isBlankRow row = true) :
      blank.countP (!isBlankRow ·) = 0 :=
    List.countP_eq_zero.2 fun row hrow => by simp [hblank row hrow]
  have hfound : (before ++ (rows ++ after)).countP (!isBlankRow ·) =
      rows.countP (!isBlankRow ·) := by
    rw [List.countP_append, List.countP_append, hcount hbefore, hcount hafter, Nat.zero_add,
      Nat.add_zero]
  have hend : (before ++ (rows ++ after)).reverse.dropWhile isBlankRow =
      (before ++ rows).reverse.dropWhile isBlankRow := by
    rw [← List.append_assoc, List.reverse_append, List.dropWhile_append_of_pos (by simpa using hafter)]
  have hstart : ((before ++ rows).reverse.dropWhile isBlankRow).reverse.dropWhile isBlankRow =
      (rows.reverse.dropWhile isBlankRow).reverse.dropWhile isBlankRow := by
    rw [List.reverse_append, List.dropWhile_append]
    split
    · next hempty =>
      have hnone : before.reverse.dropWhile isBlankRow = [] :=
        List.dropWhile_eq_nil_iff.2 (by simpa using hbefore)
      rw [List.isEmpty_iff.1 hempty, hnone, List.reverse_nil, List.dropWhile_nil]
    · rw [List.reverse_append, List.reverse_reverse, List.dropWhile_append_of_pos hbefore]
  rw [ofRows, ofRows, hfound, hend, hstart]

section Alike

variable {alike : List String → List String → Prop}
  (halike : ∀ first second, alike first second → isBlankRow first = isBlankRow second)
  {rows rows' : List (List String)}

include halike

theorem forall₂_dropWhile (hrows : List.Forall₂ alike rows rows') :
    List.Forall₂ alike (rows.dropWhile isBlankRow) (rows'.dropWhile isBlankRow) := by
  induction hrows with
  | nil => exact .nil
  | @cons first second rest rest' hrow hrest ih =>
    rw [List.dropWhile_cons, List.dropWhile_cons, ← halike first second hrow]
    split
    · exact ih
    · exact .cons hrow hrest

/-- Rows that are alike make up tables that are alike, or are too few in both cases. -/
theorem ofRows_alike (hrows : List.Forall₂ alike rows rows') (kind kind' : FileKind)
    (encoding encoding' : Option String) (separator separator' : Option Char) :
    (∃ found, ofRows kind rows encoding separator = .error (.insufficientRows found) ∧
      ofRows kind' rows' encoding' separator' = .error (.insufficientRows found)) ∨
    ∃ headers data headers' data',
      ofRows kind rows encoding separator = .ok ⟨kind, headers, data, encoding, separator⟩ ∧
      ofRows kind' rows' encoding' separator' = .ok ⟨kind', headers', data', encoding', separator'⟩ ∧
      isBlankRow headers = false ∧ alike headers headers' ∧ List.Forall₂ alike data data' := by
  have hfound : rows.countP (!isBlankRow ·) = rows'.countP (!isBlankRow ·) := by
    induction hrows with
    | nil => rfl
    | @cons first second rest rest' hrow _ ih =>
      rw [List.countP_cons, List.countP_cons, ih, halike first second hrow]
  have hkept : List.Forall₂ alike ((rows.reverse.dropWhile isBlankRow).reverse.dropWhile isBlankRow)
      ((rows'.reverse.dropWhile isBlankRow).reverse.dropWhile isBlankRow) :=
    forall₂_dropWhile halike (List.forall₂_reverse_iff.2
      (forall₂_dropWhile halike (List.forall₂_reverse_iff.2 hrows)))
  rw [ofRows, ofRows]
  simp only [← hfound]
  split
  · exact .inl ⟨_, rfl, rfl⟩
  · cases hfirst : (rows.reverse.dropWhile isBlankRow).reverse.dropWhile isBlankRow with
    | nil =>
      rw [hfirst, List.forall₂_nil_left_iff] at hkept
      exact .inl ⟨_, rfl, by rw [hkept]⟩
    | cons headers data =>
      rw [hfirst, List.forall₂_cons_left_iff] at hkept
      obtain ⟨headers', data', hheaders, hdata, hsecond⟩ := hkept
      have hfilled : isBlankRow headers = false := by
        have hhead := List.head?_dropWhile_not isBlankRow (rows.reverse.dropWhile isBlankRow).reverse
        simpa [hfirst] using hhead
      exact .inr ⟨headers, data, headers', data', rfl, by rw [hsecond], hfilled, hheaders, hdata⟩

end Alike

end Table

namespace Columns

open Table

variable {fields : List Field}

/-- More columns on both sides, none of which holds a field. -/
def widen (left right : Nat) (columns : Columns) : Columns :=
  { columns with keys := List.replicate left none ++ (columns.keys ++ List.replicate right none) }

theorem push_empty (columns : Columns) :
    push fields columns "" = { columns with keys := columns.keys ++ [none] } := by
  have hname : (Header.normalize "").isEmpty = true := by decide
  rw [push]
  simp only [hname, ↓reduceIte]

/-- Empty headers are columns that hold no field. -/
theorem foldl_push_replicate (columns : Columns) (count : Nat) :
    (List.replicate count "").foldl (push fields) columns = columns.widen 0 count := by
  induction count generalizing columns with
  | zero => simp [widen]
  | succ count ih => simp [List.replicate_succ, push_empty, ih, widen]

/-- A header is read in the same way after columns that hold no field. -/
theorem push_widen (left : Nat) (columns : Columns) (header : String) :
    push fields (columns.widen left 0) header = (push fields columns header).widen left 0 := by
  have hmapped (key : String) : (columns.widen left 0).isMapped key = columns.isMapped key := by
    simp [isMapped, widen]
  simp only [push, hmapped]
  split
  · simp [widen]
  · split <;> simp [widen]

theorem foldl_push_widen (left : Nat) (columns : Columns) (headers : List String) :
    headers.foldl (push fields) (columns.widen left 0) =
      (headers.foldl (push fields) columns).widen left 0 := by
  induction headers generalizing columns with
  | nil => rfl
  | cons header rest ih => rw [List.foldl_cons, List.foldl_cons, push_widen, ih]

/-- Empty headers around a header row add columns that hold no field. -/
theorem ofHeaders_replicate_append (left right : Nat) (headers : List String) :
    ofHeaders fields (List.replicate left "" ++ (headers ++ List.replicate right "")) =
      (ofHeaders fields headers).widen left right := by
  have hleft : (List.replicate left "").foldl (push fields) empty = empty.widen left 0 := by
    rw [foldl_push_replicate]
    simp [empty, widen]
  rw [ofHeaders, List.foldl_append, List.foldl_append, hleft, foldl_push_widen,
    foldl_push_replicate, ← ofHeaders]
  simp [widen]

theorem filterMap_zipIdx_none {α β : Type} {f : Option α × Nat → Option β}
    (hnone : ∀ i, f (none, i) = none) (count start : Nat) :
    ((List.replicate count none).zipIdx start).filterMap f = [] := by
  rw [List.filterMap_eq_nil_iff]
  rintro ⟨key, i⟩ hmem
  obtain rfl : key = none := List.eq_of_mem_replicate (List.fst_mem_of_mem_zipIdx hmem)
  exact hnone i

/-- A row has the same values under columns that hold no field on both sides of the others. -/
theorem row_widen {left : Nat} {cells shown : List String}
    (hcells : ∀ i, cellAt shown i = cellAt cells (left + i)) (columns : Columns) (right : Nat) :
    (columns.widen left right).row cells = columns.row shown := by
  have hentries : (columns.widen left right).entries cells = columns.entries shown := by
    rw [entries, entries, widen]
    simp only [List.zipIdx_append, List.filterMap_append, filterMap_zipIdx_none, Option.map_none,
      implies_true, List.nil_append, List.append_nil, List.length_replicate, Nat.zero_add]
    rw [List.zipIdx_eq_map_add, List.filterMap_map]
    refine List.filterMap_congr fun entry _ => ?_
    have hcell : (shown[entry.2]?).getD "" = (cells[left + entry.2]?).getD "" := hcells entry.2
    simp [hcell]
  rw [row_eq_ofList, row_eq_ofList, hentries]

/-- Header rows that show the same cells name the same fields, and rows that show the same cells as
well have the same values under them. -/
theorem ofHeaders_of_isShift (fields : List Field) {left : Nat} {headers shown : List String}
    (hshift : IsShift left headers shown) (hfilled : isBlankRow headers = false) :
    (ofHeaders fields headers).unrecognized = (ofHeaders fields shown).unrecognized ∧
    ∀ cells cells', IsShift left cells cells' →
      (ofHeaders fields headers).row cells = (ofHeaders fields shown).row cells' := by
  obtain ⟨common, m, n, rfl, rfl⟩ := hshift.exists_eq hfilled
  have hshown : ofHeaders fields (common ++ List.replicate n "") =
      (ofHeaders fields common).widen 0 n := by
    rw [← ofHeaders_replicate_append, List.replicate_zero, List.nil_append]
  rw [ofHeaders_replicate_append, hshown]
  refine ⟨rfl, fun cells cells' hcells => ?_⟩
  rw [row_widen hcells.cellAt_eq, row_widen fun i => by rw [Nat.zero_add]]

end Columns

end AddressIntake

import AddressIntake.Proofs.Grid

namespace AddressIntake

/-- The text that a cell shows. An error code that it should not hold shows as nothing. -/
def Cell.displayed (cell : Cell) : String :=
  (cell.shown.toOption).getD ""

theorem Cell.displayed_of_not_isUsed {cell : Cell} (hunused : cell.isUsed = false) :
    cell.displayed = "" := by
  cases cell with
  | absent | formatted => rfl
  | text | number | formula | date | isoDate | bool | error => cases hunused

namespace Worksheet

theorem findIdx?_le_of_getElem? {α : Type} {p : α → Bool} {xs : List α} {first i : Nat} {x : α}
    (hfirst : xs.findIdx? p = some first) (hx : xs[i]? = some x) (hp : p x = true) : first ≤ i := by
  obtain ⟨_, _, hbefore⟩ := List.findIdx?_eq_some_iff_getElem.1 hfirst
  obtain ⟨hi, rfl⟩ := List.getElem?_eq_some_iff.1 hx
  by_contra hlt
  exact hbefore i (Nat.not_le.1 hlt) hp

/-- An element with a property lies before the end of the bounds. -/
theorem lt_of_getElem? {α : Type} {p : α → Bool} {xs : List α} {i : Nat} {x : α}
    (hx : xs[i]? = some x) (hp : p x = true) :
    i < xs.length - (xs.reverse.takeWhile fun x => !p x).length := by
  obtain ⟨hi, rfl⟩ := List.getElem?_eq_some_iff.1 hx
  have hsplit : xs.reverse = (xs.drop (i + 1)).reverse ++ xs[i] :: (xs.take i).reverse := by
    conv => lhs; rw [← List.take_append_drop i xs, ← List.getElem_cons_drop hi]
    simp
  have hshort : (xs.reverse.takeWhile fun x => !p x).length ≤ (xs.drop (i + 1)).length := by
    rw [hsplit, List.takeWhile_append]
    split
    · rw [List.takeWhile_cons_of_neg (by simp [hp])]
      simp
    · exact (List.takeWhile_prefix _).length_le.trans (List.length_reverse).le
  rw [List.length_drop] at hshort
  omega

theorem mem_bounds {α : Type} {p : α → Bool} {xs : List α} {i : Nat} {x : α}
    (hx : xs[i]? = some x) (hp : p x = true) :
    ∃ first last, bounds p xs = some (first, last) ∧ first ≤ i ∧ i < last := by
  cases hfirst : xs.findIdx? p with
  | none =>
    have hnone := List.findIdx?_eq_none_iff.1 hfirst x (List.mem_of_getElem? hx)
    rw [hp] at hnone
    cases hnone
  | some first =>
    exact ⟨first, _, by rw [bounds, hfirst], findIdx?_le_of_getElem? hfirst hx hp,
      lt_of_getElem? hx hp⟩

/-- A position in a worksheet within an extent. -/
def Extent.Holds (extent : Extent) (i j : Nat) : Prop :=
  extent.top ≤ i ∧ i < extent.bottom ∧ extent.left ≤ j ∧ j < extent.right

/-- Every used cell lies within the extent of its worksheet. -/
theorem holds_of_isUsed {sheet : Worksheet} {i j : Nat} {cells : List Cell} {cell : Cell}
    (hcells : sheet[i]? = some cells) (hcell : cells[j]? = some cell) (hused : cell.isUsed = true) :
    ∃ extent, extent? sheet = some extent ∧ extent.Holds i j := by
  have hrow : cells.any Cell.isUsed = true :=
    List.any_eq_true.2 ⟨cell, List.mem_of_getElem? hcell, hused⟩
  obtain ⟨top, bottom, hvertical, htop, hbottom⟩ :=
    mem_bounds (p := (·.any Cell.isUsed)) hcells hrow
  obtain ⟨first, last, hhorizontal, hfirst, hlast⟩ := mem_bounds hcell hused
  have hcolumn : (first, last) ∈ sheet.filterMap (bounds Cell.isUsed) :=
    List.mem_filterMap.2 ⟨cells, List.mem_of_getElem? hcells, hhorizontal⟩
  have hmin : first ∈ (sheet.filterMap (bounds Cell.isUsed)).map (·.1) :=
    List.mem_map.2 ⟨_, hcolumn, rfl⟩
  have hmax : last ∈ (sheet.filterMap (bounds Cell.isUsed)).map (·.2) :=
    List.mem_map.2 ⟨_, hcolumn, rfl⟩
  obtain ⟨left, hleft⟩ := Option.ne_none_iff_exists'.1
    (mt List.min?_eq_none_iff.1 (List.ne_nil_of_mem hmin))
  obtain ⟨right, hright⟩ := Option.ne_none_iff_exists'.1
    (mt List.max?_eq_none_iff.1 (List.ne_nil_of_mem hmax))
  have hleast := (List.min?_eq_some_iff.1 hleft).2 first hmin
  have hgreatest := (List.max?_eq_some_iff.1 hright).2 last hmax
  refine ⟨⟨top, bottom, left, right⟩, ?_, htop, hbottom, hleast.trans hfirst,
    hlast.trans_le hgreatest⟩
  simp only [extent?, hvertical, hleft, hright, Option.bind_eq_bind, Option.bind_some]

/-- All cells can be shown. -/
def IsShown (sheet : Worksheet) : Prop :=
  ∀ cells ∈ sheet, ∀ cell ∈ cells, cell.shown = .ok cell.displayed

/-- The texts of all cells. -/
def texts (sheet : Worksheet) : List (List String) :=
  sheet.map (·.map Cell.displayed)

theorem grid_eq_ok {sheet : Worksheet} (hshown : sheet.IsShown) :
    sheet.grid = .ok (match extent? sheet with
      | none => []
      | some e => ((sheet.take e.bottom).drop e.top).map fun cells =>
        (slice e.left e.right cells).map Cell.displayed) := by
  have hall : sheet.mapM (·.mapM Cell.shown) = .ok sheet.texts :=
    mapM_eq_ok_map fun cells hcells => mapM_eq_ok_map (hshown cells hcells)
  rw [grid, hall]
  cases extent? sheet with
  | none => rfl
  | some e =>
    refine mapM_eq_ok_map fun cells hcells => mapM_eq_ok_map fun cell hcell => ?_
    rw [slice] at hcell
    rcases List.mem_append.1 hcell with hfound | habsent
    · exact hshown cells (List.mem_of_mem_take (List.mem_of_mem_drop hcells)) cell
        (List.mem_of_mem_take (List.mem_of_mem_drop hfound))
    · rw [List.eq_of_mem_replicate habsent]
      rfl

open Table

/-- A part of a row between two columns shows its cells if there is nothing to show outside. -/
theorem isShift_slice {left right : Nat} {cells : List Cell}
    (hinside : ∀ (j : Nat) (cell : Cell), cells[j]? = some cell → cell.isUsed = true →
      left ≤ j ∧ j < right) :
    IsShift left (cells.map Cell.displayed) ((slice left right cells).map Cell.displayed) := by
  have hempty (j : Nat) (houtside : ¬ (left ≤ j ∧ j < right)) :
      cellAt (cells.map Cell.displayed) j = "" := by
    rw [cellAt, List.getElem?_map]
    cases hcell : cells[j]? with
    | none => rfl
    | some cell =>
      have hunused : cell.isUsed = false :=
        Bool.eq_false_iff.2 fun hused => houtside (hinside j cell hcell hused)
      exact Cell.displayed_of_not_isUsed hunused
  refine ⟨fun i => ?_, fun i hi => hempty i fun hother => absurd hi (Nat.not_lt.2 hother.1)⟩
  by_cases hright : left + i < right
  · rw [cellAt, cellAt, List.getElem?_map, List.getElem?_map, slice]
    by_cases hfound : i < ((cells.take right).drop left).length
    · rw [List.getElem?_append_left hfound, List.getElem?_drop, List.getElem?_take_of_lt hright]
    · have hmissing : cells[left + i]? = none := by
        rw [List.length_drop, List.length_take] at hfound
        exact List.getElem?_eq_none (by omega)
      rw [List.getElem?_append_right (Nat.not_lt.1 hfound), hmissing, List.getElem?_replicate]
      split <;> rfl
  · have hbeyond : ((slice left right cells).map Cell.displayed)[i]? = none := by
      refine List.getElem?_eq_none ?_
      rw [List.length_map, slice, List.length_append, List.length_replicate, List.length_drop,
        List.length_take]
      omega
    rw [hempty _ fun hother => hright hother.2, cellAt, hbeyond, Option.getD_none]

/-- A row above or below the extent of its worksheet is blank. -/
theorem isBlankRow_of_outside {sheet : Worksheet} {i : Nat} {cells : List Cell}
    (hcells : sheet[i]? = some cells)
    (houtside : ∀ e, extent? sheet = some e → ¬ (e.top ≤ i ∧ i < e.bottom)) :
    isBlankRow (cells.map Cell.displayed) = true := by
  rw [isBlankRow, List.all_eq_true]
  intro text htext
  obtain ⟨cell, hcell, rfl⟩ := List.mem_map.1 htext
  have hunused : cell.isUsed = false := Bool.eq_false_iff.2 fun hused => by
    obtain ⟨j, hj⟩ := List.mem_iff_getElem?.1 hcell
    obtain ⟨e, hextent, htop, hbottom, _⟩ := holds_of_isUsed hcells hj hused
    exact houtside e hextent ⟨htop, hbottom⟩
  rw [Cell.displayed_of_not_isUsed hunused]
  rfl

/-- The grid of a worksheet shows its rows, apart from blank ones around them. -/
theorem exists_grid_eq {sheet : Worksheet} (hshown : sheet.IsShown) :
    ∃ left before rows after grid, sheet.grid = .ok grid ∧ sheet.texts = before ++ (rows ++ after) ∧
      (∀ row ∈ before, isBlankRow row = true) ∧ (∀ row ∈ after, isBlankRow row = true) ∧
      List.Forall₂ (IsShift left) rows grid := by
  have hgrid := grid_eq_ok hshown
  cases hextent : extent? sheet with
  | none =>
    rw [hextent] at hgrid
    refine ⟨0, sheet.texts, [], [], [], hgrid, by simp, fun row hrow => ?_, List.forall_mem_nil _, .nil⟩
    obtain ⟨cells, hcells, rfl⟩ := List.mem_map.1 hrow
    obtain ⟨i, hi⟩ := List.mem_iff_getElem?.1 hcells
    exact isBlankRow_of_outside hi fun e hsome => by rw [hextent] at hsome; cases hsome
  | some e =>
    rw [hextent] at hgrid
    have hblank {i : Nat} {cells : List Cell} (hcells : sheet[i]? = some cells)
        (houtside : ¬ (e.top ≤ i ∧ i < e.bottom)) :
        isBlankRow (cells.map Cell.displayed) = true :=
      isBlankRow_of_outside hcells fun other hsome => by
        rw [hextent] at hsome
        cases hsome
        exact houtside
    refine ⟨e.left, ((sheet.take e.bottom).take e.top).map (·.map Cell.displayed),
      ((sheet.take e.bottom).drop e.top).map (·.map Cell.displayed),
      (sheet.drop e.bottom).map (·.map Cell.displayed), _, hgrid, ?_, fun row hrow => ?_,
      fun row hrow => ?_, ?_⟩
    · rw [← List.append_assoc, ← List.map_append, List.take_append_drop, ← List.map_append,
        List.take_append_drop, texts]
    · obtain ⟨cells, hcells, rfl⟩ := List.mem_map.1 hrow
      obtain ⟨i, hi⟩ := List.mem_iff_getElem?.1 hcells
      simp only [List.getElem?_take, Option.ite_none_right_eq_some] at hi
      obtain ⟨habove, _, hi⟩ := hi
      exact hblank hi fun hinside => Nat.not_lt.2 hinside.1 habove
    · obtain ⟨cells, hcells, rfl⟩ := List.mem_map.1 hrow
      obtain ⟨i, hi⟩ := List.mem_iff_getElem?.1 hcells
      rw [List.getElem?_drop] at hi
      exact hblank hi fun hinside => by omega
    · rw [List.forall₂_map_left_iff, List.forall₂_map_right_iff, List.forall₂_same]
      intro cells hcells
      obtain ⟨i, hi⟩ := List.mem_iff_getElem?.1
        (List.mem_of_mem_take (List.mem_of_mem_drop hcells))
      refine isShift_slice fun j cell hcell hused => ?_
      obtain ⟨found, hsome, _, _, hcolumns⟩ := holds_of_isUsed hi hcell hused
      rw [hextent] at hsome
      cases hsome
      exact hcolumns

end Worksheet

end AddressIntake

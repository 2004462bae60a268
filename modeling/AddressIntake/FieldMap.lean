import AddressIntake.Json.Decoder

namespace AddressIntake

/-- A finite map with text keys, as the list of its entries in strictly increasing key order, so
that two maps with the same entries are equal. -/
structure FieldMap (α : Type) where
  entries : List (String × α)
  sorted : entries.Pairwise fun a b => a.1 < b.1
  deriving DecidableEq

namespace FieldMap

variable {α β : Type}

/-- The map without entries. -/
def empty : FieldMap α := ⟨[], .nil⟩

instance : Inhabited (FieldMap α) := ⟨empty⟩

/-- A sorted list of entries with the value of a key put in or replaced. -/
def insertEntry (key : String) (value : α) : List (String × α) → List (String × α)
  | [] => [(key, value)]
  | entry :: rest =>
    if key = entry.1 then (key, value) :: rest
    else if key < entry.1 then (key, value) :: entry :: rest
    else entry :: insertEntry key value rest

theorem eq_or_mem_of_mem_insertEntry {key : String} {value : α} {entries : List (String × α)}
    {found : String × α} (hfound : found ∈ insertEntry key value entries) :
    found.1 = key ∨ found ∈ entries := by
  induction entries with
  | nil => exact .inl (by simp_all [insertEntry])
  | cons entry rest ih =>
    simp only [insertEntry] at hfound
    split at hfound
    · rcases List.mem_cons.1 hfound with rfl | hrest
      · exact .inl rfl
      · exact .inr (List.mem_cons_of_mem _ hrest)
    · split at hfound
      · rcases List.mem_cons.1 hfound with rfl | hrest
        · exact .inl rfl
        · exact .inr hrest
      · rcases List.mem_cons.1 hfound with rfl | hrest
        · exact .inr List.mem_cons_self
        · exact (ih hrest).imp_right (List.mem_cons_of_mem _)

theorem pairwise_insertEntry {key : String} {value : α} {entries : List (String × α)}
    (hsorted : entries.Pairwise fun a b => a.1 < b.1) :
    (insertEntry key value entries).Pairwise fun a b => a.1 < b.1 := by
  induction entries with
  | nil => simp [insertEntry]
  | cons entry rest ih =>
    have hparts := List.pairwise_cons.1 hsorted
    simp only [insertEntry]
    split
    · next hsame =>
      refine List.pairwise_cons.2 ⟨fun later hlater => ?_, hparts.2⟩
      simpa [hsame] using hparts.1 later hlater
    · next hother =>
      split
      · next hbefore =>
        refine List.pairwise_cons.2 ⟨fun later hlater => ?_, hsorted⟩
        rcases List.mem_cons.1 hlater with rfl | hrest
        · exact hbefore
        · exact String.lt_trans hbefore (hparts.1 later hrest)
      · next hnot =>
        refine List.pairwise_cons.2 ⟨fun later hlater => ?_, ih hparts.2⟩
        rcases eq_or_mem_of_mem_insertEntry hlater with hkey | hrest
        · have hle : entry.1 ≤ key := String.not_lt.1 hnot
          rw [hkey]
          refine Decidable.byContradiction fun hge => ?_
          exact hother (String.le_antisymm (String.not_lt.1 hge) hle)
        · exact hparts.1 later hrest

/-- The map with the value of a key put in or replaced. -/
def insert (m : FieldMap α) (key : String) (value : α) : FieldMap α :=
  ⟨insertEntry key value m.entries, pairwise_insertEntry m.sorted⟩

/-- The map of a list of entries, the last one of a repeated key counting. -/
def ofList (entries : List (String × α)) : FieldMap α :=
  entries.foldl (fun m entry => m.insert entry.1 entry.2) empty

/-- The value of a key. -/
def get? (m : FieldMap α) (key : String) : Option α :=
  m.entries.lookup key

/-- The map as a JSON object. -/
def toJson (write : α → Json) (m : FieldMap α) : Json :=
  .obj (m.entries.map fun entry => (entry.1, write entry.2))

/-- The map in a JSON object. -/
def decoder (read : Json.Decoder α) : Json.Decoder (FieldMap α) :=
  fun node => (Json.Decoder.entries read node).map ofList

end FieldMap

end AddressIntake

import AddressIntake.ShipToLookup
import Mathlib.Data.Finset.Card

namespace AddressIntake

/-- Whether a name is the company name of an address, white space around both aside. A blank company
name is none. -/
def Address.bears (name : String) (address : Address) : Bool :=
  address.fields.companyName.any fun own => !Text.isBlank own && Text.trim own == Text.trim name

theorem Address.bears_iff {name : String} {address : Address} :
    address.bears name = true ↔ ∃ own, address.fields.companyName = some own ∧
      Text.isBlank own = false ∧ Text.trim own = Text.trim name := by
  simp only [bears, Option.any_eq_true, Bool.and_eq_true, Bool.not_eq_true', beq_iff_eq]

namespace ShipToLookup

section Insert

variable {lookup : ShipToLookup} {own : String}

/-- Exactly the names that are neither blank nor known are added. -/
theorem admits_iff :
    lookup.admits own = true ↔ Text.trim own ≠ "" ∧ lookup.resolve? own = none := by
  rw [admits, Bool.and_eq_true, Bool.not_eq_true', ← Bool.not_eq_true, ← Text.trim_eq_empty_iff,
    Option.isNone_iff_eq_none]

theorem insert_of_admits (hadmits : lookup.admits own = true) (id : RecordId) :
    lookup.insert own id = ⟨lookup.entries ++ [(Text.trim own, id)]⟩ :=
  if_pos hadmits

theorem insert_of_not_admits (hrefused : lookup.admits own = false) (id : RecordId) :
    lookup.insert own id = lookup :=
  if_neg (Bool.eq_false_iff.1 hrefused)

/-- An insertion answers for its name, unless the name is blank or was known before. -/
theorem resolve?_insert (lookup : ShipToLookup) (own name : String) (id : RecordId) :
    (lookup.insert own id).resolve? name = (lookup.resolve? name).or
      (if Text.trim own ≠ "" ∧ Text.trim own = Text.trim name then some id else none) := by
  cases hadmits : lookup.admits own with
  | true =>
    have hfilled := (admits_iff.1 hadmits).1
    rw [insert_of_admits hadmits, resolve?, List.lookup_append, ← resolve?]
    by_cases hsame : Text.trim own = Text.trim name
    · simp [← hsame, hfilled]
    · simp [List.lookup_cons, hsame, beq_eq_false_iff_ne.2 (Ne.symm hsame)]
  | false =>
    rw [insert_of_not_admits hadmits]
    split
    · next hown =>
      -- A name that is refused though it is not blank is known.
      have hsame : lookup.resolve? own = lookup.resolve? name := by rw [resolve?, resolve?, hown.2]
      rw [← Bool.not_eq_true, admits_iff, not_and, hsame] at hadmits
      obtain ⟨first, hfirst⟩ := Option.ne_none_iff_exists'.1 (hadmits hown.1)
      rw [hfirst, Option.some_or]
    · rw [Option.or_none]

theorem size_insert (lookup : ShipToLookup) (own : String) (id : RecordId) :
    (lookup.insert own id).size = lookup.size + if lookup.admits own then 1 else 0 := by
  cases hadmits : lookup.admits own with
  | true => rw [insert_of_admits hadmits, size, List.length_append]; rfl
  | false => rw [insert_of_not_admits hadmits]; rfl

end Insert

section Inserts

variable {inserts : List (String × RecordId)}

/-- The lookup after insertions in their order. -/
def ofList (inserts : List (String × RecordId)) : ShipToLookup :=
  inserts.foldl (fun lookup entry => lookup.insert entry.1 entry.2) empty

theorem ofList_append (inserts : List (String × RecordId)) (entry : String × RecordId) :
    ofList (inserts ++ [entry]) = (ofList inserts).insert entry.1 entry.2 := by
  rw [ofList, List.foldl_append, ← ofList, List.foldl_cons, List.foldl_nil]

/-- The first insertion of a name keeps it. -/
theorem resolve?_ofList (inserts : List (String × RecordId)) (name : String) :
    (ofList inserts).resolve? name = (inserts.find? fun entry =>
      Text.trim entry.1 ≠ "" ∧ Text.trim entry.1 = Text.trim name).map (·.2) := by
  induction inserts using List.reverseRecOn with
  | nil => rfl
  | append_singleton inserts entry ih =>
    rw [ofList_append, resolve?_insert, ih, List.find?_append, Option.map_or, List.find?_singleton]
    simp only [decide_eq_true_eq, apply_ite (Option.map _), Option.map_some, Option.map_none]

/-- The different names of insertions. White space around a name does not count, and a blank name is
none. -/
def names (inserts : List (String × RecordId)) : Finset String :=
  (inserts.map fun entry => Text.trim entry.1).toFinset.erase ""

theorem mem_names_iff {name : String} :
    name ∈ names inserts ↔ name ≠ "" ∧ ∃ entry ∈ inserts, Text.trim entry.1 = name := by
  rw [names, Finset.mem_erase, List.mem_toFinset, List.mem_map]

theorem mem_names_append {entry : String × RecordId} {name : String} :
    name ∈ names (inserts ++ [entry]) ↔
      name ∈ names inserts ∨ name ≠ "" ∧ Text.trim entry.1 = name := by
  simp only [mem_names_iff, List.mem_append, List.mem_singleton, or_and_right, exists_or,
    exists_eq_left, and_or_left]

theorem resolve?_ofList_eq_none_iff {name : String} :
    (ofList inserts).resolve? name = none ↔ Text.trim name ∉ names inserts := by
  rw [resolve?_ofList, Option.map_eq_none_iff, List.find?_eq_none, mem_names_iff]
  simp only [decide_eq_true_eq]
  constructor
  · rintro hnone ⟨hfilled, entry, hentry, hsame⟩
    exact hnone entry hentry ⟨hsame ▸ hfilled, hsame⟩
  · rintro hfresh entry hentry ⟨hfilled, hsame⟩
    exact hfresh ⟨hsame ▸ hfilled, entry, hentry, hsame⟩

theorem resolve?_ofList_of_blank {name : String} (hblank : Text.isBlank name = true) :
    (ofList inserts).resolve? name = none := by
  rw [resolve?_ofList_eq_none_iff, mem_names_iff, Text.trim_eq_empty_iff.2 hblank]
  exact fun hmem => hmem.1 rfl

theorem admits_ofList_iff {name : String} :
    (ofList inserts).admits name = true ↔ Text.trim name ≠ "" ∧ Text.trim name ∉ names inserts := by
  rw [admits_iff, resolve?_ofList_eq_none_iff]

/-- A name is counted at its first insertion only. -/
theorem size_ofList (inserts : List (String × RecordId)) :
    (ofList inserts).size = (names inserts).card := by
  induction inserts using List.reverseRecOn with
  | nil => rfl
  | append_singleton inserts entry ih =>
    rw [ofList_append, size_insert, ih]
    -- One more name is counted exactly if the names so far do not hold it.
    cases hadmits : (ofList inserts).admits entry.1 with
    | true =>
      obtain ⟨hfilled, hfresh⟩ := admits_ofList_iff.1 hadmits
      have hnames : names (inserts ++ [entry]) =
          (names inserts).cons (Text.trim entry.1) hfresh := by
        ext name
        rw [mem_names_append, Finset.mem_cons, or_comm]
        exact or_congr_left ⟨fun hnew => hnew.2.symm, fun hsame => ⟨hsame ▸ hfilled, hsame.symm⟩⟩
      rw [hnames, Finset.card_cons, if_pos rfl]
    | false =>
      rw [← Bool.not_eq_true, admits_ofList_iff, not_and, not_not] at hadmits
      have hnames : names (inserts ++ [entry]) = names inserts := by
        ext name
        rw [mem_names_append, or_iff_left_of_imp]
        rintro ⟨hfilled, rfl⟩
        exact hadmits hfilled
      rw [hnames, if_neg Bool.false_ne_true, Nat.add_zero]

end Inserts

/-- The insertion of the company name of an address, if it has one. -/
def insertOf? (address : Address) : Option (String × RecordId) :=
  address.fields.companyName.map fun name => (name, address.id)

theorem ofAddresses_eq_ofList (addresses : List Address) :
    ofAddresses addresses = ofList (addresses.filterMap insertOf?) := by
  rw [ofAddresses, ofList, List.foldl_filterMap]
  congr 1
  funext lookup address
  rw [insertAddress, insertOf?]
  cases address.fields.companyName <;> rfl

/-- The first address with a name keeps it. -/
theorem resolve?_ofAddresses (addresses : List Address) (name : String) :
    (ofAddresses addresses).resolve? name = (addresses.find? (·.bears name)).map (·.id) := by
  have hbears (address : Address) : ((insertOf? address).any fun own =>
      Text.trim own.1 ≠ "" ∧ Text.trim own.1 = Text.trim name) = address.bears name := by
    rw [insertOf?, Option.any_map, Address.bears]
    congr 1
    funext own
    rw [Bool.eq_iff_iff]
    simp [Text.trim_eq_empty_iff]
  rw [ofAddresses_eq_ofList, resolve?_ofList, List.find?_filterMap]
  simp only [hbears]
  cases hfirst : addresses.find? (·.bears name) with
  | none => rfl
  | some address =>
    obtain ⟨own, hown, _⟩ := Address.bears_iff.1 (List.find?_some hfirst)
    rw [Option.bind_some, insertOf?, hown]
    rfl

/-- A lookup in which each name stands for the record of its first insertion, white space around
names aside. What a further insertion answers is whether the lookup admits its name. -/
structure KeepsFirst (lookup : ShipToLookup) (inserts : List (String × RecordId)) : Prop where
  resolve?_eq (name : String) : lookup.resolve? name = (inserts.find? fun entry =>
    Text.trim entry.1 ≠ "" ∧ Text.trim entry.1 = Text.trim name).map (·.2)
  resolve?_of_blank (name : String) (hblank : Text.isBlank name = true) :
    lookup.resolve? name = none
  size_eq : lookup.size = (names inserts).card
  admits_iff (name : String) :
    lookup.admits name = true ↔ Text.trim name ≠ "" ∧ lookup.resolve? name = none
  size_insert (name : String) (id : RecordId) (hadmits : lookup.admits name = true) :
    (lookup.insert name id).size = lookup.size + 1
  insert_eq (name : String) (id : RecordId) (hrefused : lookup.admits name = false) :
    lookup.insert name id = lookup

theorem keepsFirst_ofList (inserts : List (String × RecordId)) :
    (ofList inserts).KeepsFirst inserts where
  resolve?_eq := resolve?_ofList inserts
  resolve?_of_blank _ := resolve?_ofList_of_blank
  size_eq := size_ofList inserts
  admits_iff _ := admits_iff
  size_insert name id hadmits := by rw [size_insert, if_pos hadmits]
  insert_eq _ id hrefused := insert_of_not_admits hrefused id

/-- After any insertions the lookup keeps the first of each name, and so does the lookup of a list
of addresses, which is made by inserting their company names. -/
theorem first_inserted_names_count (inserts : List (String × RecordId)) (addresses : List Address) :
    (ofList inserts).KeepsFirst inserts ∧
      (ofAddresses addresses).KeepsFirst (addresses.filterMap insertOf?) := by
  refine ⟨keepsFirst_ofList inserts, ?_⟩
  rw [ofAddresses_eq_ofList]
  exact keepsFirst_ofList _

end ShipToLookup

end AddressIntake

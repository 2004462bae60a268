import AddressIntake.FieldMap
import Mathlib.Data.List.Nodup

namespace AddressIntake.FieldMap

variable {α : Type}

theorem lookup_insertEntry (key other : String) (value : α) (entries : List (String × α)) :
    (insertEntry key value entries).lookup other =
      if other = key then some value else entries.lookup other := by
  induction entries with
  | nil =>
    by_cases hsame : other = key
    · simp [insertEntry, hsame]
    · simp [insertEntry, List.lookup_cons, beq_eq_false_iff_ne.2 hsame, hsame]
  | cons entry rest ih =>
    rw [insertEntry]
    by_cases hfound : key = entry.1
    · rw [if_pos hfound, List.lookup_cons, List.lookup_cons, ← hfound]
      by_cases hsame : other = key
      · simp [hsame]
      · simp [beq_eq_false_iff_ne.2 hsame, hsame]
    · rw [if_neg hfound]
      split
      · by_cases hsame : other = key
        · simp [hsame]
        · simp [List.lookup_cons, beq_eq_false_iff_ne.2 hsame, hsame]
      · rw [List.lookup_cons, List.lookup_cons, ih]
        by_cases hsame : other = key
        · simp [hsame, beq_eq_false_iff_ne.2 hfound]
        · simp [hsame]

theorem get?_insert (m : FieldMap α) (key other : String) (value : α) :
    (m.insert key value).get? other = if other = key then some value else m.get? other :=
  lookup_insertEntry key other value m.entries

/-- Of entries with the same key, the last one counts. -/
theorem get?_ofList (entries : List (String × α)) (key : String) :
    (ofList entries).get? key = entries.reverse.lookup key := by
  have hfold (m : FieldMap α) :
      (entries.foldl (fun m entry => m.insert entry.1 entry.2) m).get? key =
        (entries.reverse.lookup key).or (m.get? key) := by
    induction entries generalizing m with
    | nil => simp
    | cons entry rest ih =>
      rw [List.foldl_cons, ih, get?_insert, List.reverse_cons, List.lookup_append, Option.or_assoc,
        List.lookup_cons]
      by_cases hsame : key = entry.1
      · simp only [hsame, beq_self_eq_true, ↓reduceIte, Option.some_or]
      · simp only [beq_eq_false_iff_ne.2 hsame, hsame, ↓reduceIte, List.lookup_nil, Option.none_or]
  have hempty : (empty : FieldMap α).get? key = none := rfl
  rw [ofList, hfold, hempty, Option.or_none]

theorem lookup_eq_some_iff {entries : List (String × α)} (hnodup : (entries.map (·.1)).Nodup)
    {key : String} {value : α} : entries.lookup key = some value ↔ (key, value) ∈ entries := by
  induction entries with
  | nil => simp
  | cons entry rest ih =>
    obtain ⟨hfresh, hrest⟩ := List.nodup_cons.1 hnodup
    rw [List.lookup_cons, List.mem_cons]
    by_cases hsame : key = entry.1
    · subst hsame
      have hnot : (entry.1, value) ∉ rest := fun hmem =>
        hfresh (List.mem_map.2 ⟨_, hmem, rfl⟩)
      simp [hnot, Prod.ext_iff, eq_comm]
    · simp [beq_eq_false_iff_ne.2 hsame, ih hrest, Prod.ext_iff, hsame]

theorem mem_entries_iff {m : FieldMap α} {entry : String × α} :
    entry ∈ m.entries ↔ m.get? entry.1 = some entry.2 := by
  have hnodup : (m.entries.map (·.1)).Nodup := by
    rw [List.Nodup, List.pairwise_map]
    exact m.sorted.imp fun {a b} hlt (heq : a.1 = b.1) => String.lt_irrefl b.1 (heq ▸ hlt)
  exact (lookup_eq_some_iff hnodup).symm

/-- A key after all others is put in at the end. -/
theorem insertEntry_of_lt {entries : List (String × α)} {key : String}
    (hlast : ∀ entry ∈ entries, entry.1 < key) (value : α) :
    insertEntry key value entries = entries ++ [(key, value)] := by
  induction entries with
  | nil => rfl
  | cons entry rest ih =>
    have hlt := hlast entry List.mem_cons_self
    have hne : key ≠ entry.1 := fun hsame => String.lt_irrefl key (hsame ▸ hlt)
    rw [insertEntry, if_neg hne, if_neg (String.lt_asymm hlt),
      ih fun other hmem => hlast other (List.mem_cons_of_mem _ hmem), List.cons_append]

/-- A map is put together again from its entries. -/
theorem ofList_entries (m : FieldMap α) : ofList m.entries = m := by
  have hfold (rest : List (String × α)) (start : FieldMap α)
      (hsorted : (start.entries ++ rest).Pairwise fun a b => a.1 < b.1) :
      (rest.foldl (fun m entry => m.insert entry.1 entry.2) start).entries = start.entries ++ rest := by
    induction rest generalizing start with
    | nil => exact (List.append_nil _).symm
    | cons entry rest ih =>
      have hlast : ∀ other ∈ start.entries, other.1 < entry.1 := fun other hmem =>
        (List.pairwise_append.1 hsorted).2.2 other hmem entry List.mem_cons_self
      have hinsert : (start.insert entry.1 entry.2).entries = start.entries ++ [entry] :=
        insertEntry_of_lt hlast entry.2
      rw [List.foldl_cons, ih _ (by rw [hinsert, List.append_assoc]; exact hsorted), hinsert,
        List.append_assoc, List.singleton_append]
  have hentries : (ofList m.entries).entries = m.entries := hfold m.entries empty m.sorted
  cases hm : ofList m.entries
  cases m
  rw [hm] at hentries
  cases hentries
  rfl

variable {entries : List (String × α)} (hnodup : (entries.map (·.1)).Nodup)

include hnodup

theorem get?_ofList_eq_some_iff {key : String} {value : α} :
    (ofList entries).get? key = some value ↔ (key, value) ∈ entries := by
  have hreverse : (entries.reverse.map (·.1)).Nodup := by
    rw [List.map_reverse]
    exact List.nodup_reverse.2 hnodup
  rw [get?_ofList, lookup_eq_some_iff hreverse, List.mem_reverse]

theorem mem_entries_ofList_iff {entry : String × α} :
    entry ∈ (ofList entries).entries ↔ entry ∈ entries := by
  rw [mem_entries_iff, get?_ofList_eq_some_iff hnodup]

end AddressIntake.FieldMap

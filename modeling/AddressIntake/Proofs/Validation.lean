import AddressIntake.Validation
import Mathlib.Data.List.Dedup
import Mathlib.Data.List.Nodup

namespace AddressIntake

theorem Policy.mem_requiredKeys_iff {fields : List Field} {flags : PolicyFlags} {key : String} :
    key ∈ Policy.requiredKeys fields flags ↔
      ∃ field ∈ fields, field.key = key ∧
        Policy.isRequired field.alwaysRequired ((flags.get? key).getD false) = true := by
  simp only [Policy.requiredKeys, List.mem_mergeSort, List.mem_map, List.mem_filter]
  constructor
  · rintro ⟨field, ⟨hmem, hrequired⟩, rfl⟩
    exact ⟨field, hmem, rfl, hrequired⟩
  · rintro ⟨field, hmem, rfl, hrequired⟩
    exact ⟨field, ⟨hmem, hrequired⟩, rfl⟩

/-- Whether a key is required depends on its own field only. -/
theorem Policy.key_mem_requiredKeys_iff {fields : List Field} (hnodup : (fields.map (·.key)).Nodup)
    {field : Field} (hmem : field ∈ fields) (flags : PolicyFlags) :
    field.key ∈ Policy.requiredKeys fields flags ↔
      Policy.isRequired field.alwaysRequired ((flags.get? field.key).getD false) = true := by
  rw [mem_requiredKeys_iff]
  constructor
  · rintro ⟨other, hother, hkey, hrequired⟩
    obtain rfl : other = field := List.inj_on_of_nodup_map hnodup hother hmem hkey
    exact hrequired
  · exact fun hrequired => ⟨field, hmem, rfl, hrequired⟩

/-- No policy can make the reference of an install-at row optional. -/
theorem Policy.shipToKey_mem_requiredKeys (flags : PolicyFlags) :
    Schema.shipToKey ∈ Policy.requiredKeys (Schema.fields .installAt) flags :=
  mem_requiredKeys_iff.2 ⟨Schema.shipToField, List.mem_cons_self, rfl, rfl⟩

/-- Without a policy exactly the fields that always are are required. -/
theorem Policy.mem_requiredKeys_empty_iff {fields : List Field} {key : String} :
    key ∈ Policy.requiredKeys fields .empty ↔
      ∃ field ∈ fields, field.key = key ∧ field.alwaysRequired = true := by
  have hnone : (FieldMap.empty : PolicyFlags).get? key = none := rfl
  simp only [mem_requiredKeys_iff, hnone, isRequired, Option.getD_none, Bool.or_false]

theorem Policy.mem_requiredKeys_of_alwaysRequired {fields : List Field} {field : Field}
    (hmem : field ∈ fields) (halways : field.alwaysRequired = true) (flags : PolicyFlags) :
    field.key ∈ Policy.requiredKeys fields flags :=
  mem_requiredKeys_iff.2 ⟨field, hmem, rfl, by rw [halways, isRequired, Bool.true_or]⟩

/-- Whether a field admits a value, or that there is none. -/
structure Field.Admits (field : Field) (value? : Option String) : Prop where
  isSome : field.alwaysRequired = true → value?.isSome = true
  accepts : ∀ value rule, value? = some value → field.format = some rule → rule.accepts value = true

instance (field : Field) (value? : Option String) : Decidable (field.Admits value?) :=
  decidable_of_iff ((field.alwaysRequired = true → value?.isSome = true) ∧
      ∀ value ∈ value?, ∀ rule ∈ field.format, rule.accepts value = true)
    ⟨fun h => ⟨h.1, fun value rule hvalue hrule => h.2 value hvalue rule hrule⟩,
      fun h => ⟨h.isSome, fun value hvalue rule hrule => h.accepts value rule hvalue hrule⟩⟩

/-- Whether the fields of a kind admit the values of a row. -/
def Row.IsAdmissible (kind : AddressKind) (row : Row) : Prop :=
  ∀ field ∈ Schema.fields kind, field.Admits (row.value? field.key)

instance (kind : AddressKind) (row : Row) : Decidable (row.IsAdmissible kind) :=
  inferInstanceAs (Decidable (∀ field ∈ Schema.fields kind, field.Admits (row.value? field.key)))

namespace Validation

variable {kind : AddressKind} {required : List String} {lookup : Option ShipToLookup}

theorem checkRows_eq_nil_iff {rows : List Row} :
    checkRows kind required lookup rows = [] ↔
      ∀ (index : Nat) (row : Row), rows[index]? = some row → row.isBlank = false →
        checkRow kind required lookup (Row.number index) row = [] := by
  simp only [checkRows, List.flatMap_eq_nil_iff]
  constructor
  · intro hclean index row hrow hfilled
    simpa [hfilled] using hclean (row, index) (List.mem_zipIdx_iff_getElem?.2 hrow)
  · rintro hclean ⟨row, index⟩ hmem
    cases hblank : row.isBlank with
    | true => rfl
    | false =>
      have hrow := hclean index row (List.mem_zipIdx_iff_getElem?.1 hmem) hblank
      simpa [hblank] using hrow

theorem row_eq_of_mem_checkField {number : Nat} {row : Row} {field : Field} {e : RowError}
    (hmem : e ∈ checkField required number row field) : e.row = number := by
  rw [checkField] at hmem
  split at hmem
  · split at hmem
    · cases List.mem_singleton.1 hmem
      rfl
    · cases hmem
  · split at hmem
    · split at hmem
      · cases hmem
      · cases List.mem_singleton.1 hmem
        rfl
    · cases hmem

/-- The errors of a row carry its number. -/
theorem row_eq_of_mem_checkRow {number : Nat} {row : Row} {e : RowError}
    (hmem : e ∈ checkRow kind required lookup number row) : e.row = number := by
  rcases List.mem_append.1 hmem with hfield | hreference
  · obtain ⟨field, _, he⟩ := List.mem_flatMap.1 hfield
    exact row_eq_of_mem_checkField he
  · split at hreference
    · rw [checkReference] at hreference
      split at hreference
      · split at hreference
        · cases hreference
        · cases List.mem_singleton.1 hreference
          rfl
      · cases hreference
    · cases hreference

/-- Whether the row at an index is not blank and does not pass the check. -/
def isFaulty (kind : AddressKind) (required : List String) (lookup : Option ShipToLookup)
    (entry : Row × Nat) : Bool :=
  !entry.1.isBlank && !(checkRow kind required lookup (Row.number entry.2) entry.1).isEmpty

theorem exists_mem_checkRows_iff {rows : List Row} {number : Nat} :
    (∃ e ∈ checkRows kind required lookup rows, e.row = number) ↔
      ∃ entry ∈ rows.zipIdx, isFaulty kind required lookup entry = true ∧
        Row.number entry.2 = number := by
  simp only [checkRows, List.mem_flatMap, isFaulty, Bool.and_eq_true, Bool.not_eq_true',
    List.isEmpty_eq_false_iff_exists_mem]
  constructor
  · rintro ⟨e, ⟨entry, hentry, hmem⟩, rfl⟩
    cases hblank : entry.1.isBlank with
    | true =>
      rw [hblank] at hmem
      cases hmem
    | false =>
      rw [hblank] at hmem
      exact ⟨entry, hentry, ⟨hblank, e, hmem⟩, (row_eq_of_mem_checkRow hmem).symm⟩
  · rintro ⟨entry, hentry, ⟨hblank, e, hmem⟩, rfl⟩
    exact ⟨e, ⟨entry, hentry, by rwa [hblank]⟩, row_eq_of_mem_checkRow hmem⟩

theorem distinct_eq_dedup (numbers : List Nat) : distinct numbers = numbers.dedup := by
  induction numbers with
  | nil => rfl
  | cons n rest ih =>
    rw [distinct, ih]
    by_cases hmem : n ∈ rest
    · rw [if_pos (List.contains_iff_mem.2 hmem), List.dedup_cons_of_mem hmem]
    · rw [if_neg (by simpa using hmem), List.dedup_cons_of_notMem hmem]

/-- Rows with errors are counted once, however many errors they have. -/
theorem errorRowCount_checkRows (rows : List Row) :
    errorRowCount (checkRows kind required lookup rows) =
      rows.zipIdx.countP (isFaulty kind required lookup) := by
  have hpositions : (rows.zipIdx.map Prod.snd).Nodup := by
    rw [List.zipIdx_map_snd]
    exact List.nodup_range'
  have hfaulty : (((rows.zipIdx.filter (isFaulty kind required lookup)).map Prod.snd).map
      Row.number).Nodup :=
    (hpositions.sublist (List.filter_sublist.map _)).map fun _ _ heq => Nat.add_right_cancel heq
  have hperm : ((checkRows kind required lookup rows).map (·.row)).dedup.Perm
      (((rows.zipIdx.filter (isFaulty kind required lookup)).map Prod.snd).map Row.number) := by
    refine (List.perm_ext_iff_of_nodup (List.nodup_dedup _) hfaulty).2 fun number => ?_
    rw [List.mem_dedup, List.mem_map, exists_mem_checkRows_iff]
    simp [and_assoc]
  rw [errorRowCount, distinct_eq_dedup, hperm.length_eq, List.length_map, List.length_map,
    List.countP_eq_length_filter]

theorem checkField_eq_nil_iff {number : Nat} {row : Row} {field : Field} :
    checkField required number row field = [] ↔
      (field.key ∈ required → (row.value? field.key).isSome = true) ∧
      ∀ value rule, row.value? field.key = some value → field.format = some rule →
        rule.accepts value = true := by
  rw [checkField]
  cases row.value? field.key with
  | none =>
    by_cases hrequired : field.key ∈ required
    · simp [hrequired]
    · simp [hrequired]
  | some value =>
    cases field.format with
    | none => simp
    | some rule => simp

/-- A row that passes a check is admissible, whatever the policy adds. -/
theorem isAdmissible_of_checkRow_eq_nil {flags : PolicyFlags} {number : Nat} {row : Row}
    (hclean : checkRow kind (Policy.requiredKeys (Schema.fields kind) flags) lookup number row = []) :
    row.IsAdmissible kind := by
  intro field hmem
  obtain ⟨hfields, _⟩ := List.append_eq_nil_iff.1 hclean
  obtain ⟨hrequired, hformat⟩ :=
    checkField_eq_nil_iff.1 (List.flatMap_eq_nil_iff.1 hfields field hmem)
  exact ⟨fun halways =>
    hrequired (Policy.mem_requiredKeys_of_alwaysRequired hmem halways flags), hformat⟩

/-- An admissible row passes the check without a policy if the ship-to address that it names is
known. -/
theorem checkRow_eq_nil_of_isAdmissible {row : Row} (hrow : row.IsAdmissible kind)
    (hknown : kind = .installAt → ∀ name, row.value? Schema.shipToKey = some name →
      isKnown lookup name = true) (number : Nat) :
    checkRow kind (Policy.requiredKeys (Schema.fields kind) .empty) lookup number row = [] := by
  refine List.append_eq_nil_iff.2 ⟨List.flatMap_eq_nil_iff.2 fun field hmem => ?_, ?_⟩
  · refine checkField_eq_nil_iff.2 ⟨fun hrequired => ?_, (hrow field hmem).accepts⟩
    obtain ⟨other, hother, hkey, halways⟩ := Policy.mem_requiredKeys_empty_iff.1 hrequired
    rw [← hkey]
    exact (hrow other hother).isSome halways
  · split
    · next hkind =>
      rw [checkReference]
      split
      · next name hname => rw [if_pos (hknown (by simpa using hkind) name hname)]
      · rfl
    · rfl

/-- Rows are accepted without a policy if those that are not blank are admissible, and the ship-to
addresses that they name are known. -/
theorem checkRows_eq_nil_of_isAdmissible {rows : List Row}
    (hrows : ∀ row ∈ rows, row.isBlank = false → row.IsAdmissible kind)
    (hknown : kind = .installAt → ∀ row ∈ rows, ∀ name ∈ row.value? Schema.shipToKey,
      isKnown lookup name = true) :
    checkRows kind (Policy.requiredKeys (Schema.fields kind) .empty) lookup rows = [] := by
  refine checkRows_eq_nil_iff.2 fun index row hrow hfilled => ?_
  have hmem := List.mem_of_getElem? hrow
  exact checkRow_eq_nil_of_isAdmissible (hrows row hmem hfilled)
    (fun hkind name hname => hknown hkind row hmem name hname) _

/-- The reference of an accepted install-at row is there, and it is known. -/
theorem resolves_of_checkRow_eq_nil (hrequired : Schema.shipToKey ∈ required) {number : Nat}
    {row : Row} (hclean : checkRow .installAt required lookup number row = []) :
    ∃ (name : String) (id : RecordId), row.value? Schema.shipToKey = some name ∧
      lookup.bind (·.resolve? name) = some id := by
  obtain ⟨hfields, hreference⟩ := List.append_eq_nil_iff.1 hclean
  have hfield : checkField required number row Schema.shipToField = [] :=
    List.flatMap_eq_nil_iff.1 hfields Schema.shipToField List.mem_cons_self
  cases hvalue : row.value? Schema.shipToKey with
  | none =>
    have hkey : row.value? Schema.shipToField.key = none := hvalue
    have hmissing : required.contains Schema.shipToField.key = true :=
      List.contains_iff_mem.2 hrequired
    rw [checkField, hkey] at hfield
    simp only [hmissing, ↓reduceIte, List.cons_ne_nil] at hfield
  | some name =>
    simp only [beq_self_eq_true, ↓reduceIte, checkReference, hvalue] at hreference
    cases hknown : lookup.bind (·.resolve? name) with
    | none => simp [isKnown, hknown] at hreference
    | some id => exact ⟨name, id, rfl, hknown⟩

end Validation

end AddressIntake

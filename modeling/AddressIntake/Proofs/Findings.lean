import AddressIntake.Proofs.Sheet
import AddressIntake.Proofs.Validation

namespace AddressIntake

/-- The trimmed text of a cell. A cell that is not there reads as empty. -/
def Row.text (row : Row) (key : String) : String :=
  Text.trim ((FieldMap.get? row key).getD "")

/-- The value of a cell is its text, unless this is empty. -/
theorem Row.value?_eq_ite (row : Row) (key : String) :
    row.value? key = if row.text key = "" then none else some (row.text key) := by
  rw [value?, text]
  cases FieldMap.get? row key with
  | none => exact (if_pos (Text.trim_eq_empty_iff.2 rfl)).symm
  | some cell => simp only [Option.getD_some, Text.trim_eq_empty_iff]

theorem Row.value?_eq_none_iff {row : Row} {key : String} :
    row.value? key = none ↔ row.text key = "" := by
  simp [value?_eq_ite]

theorem Row.value?_eq_some_iff {row : Row} {key value : String} :
    row.value? key = some value ↔ row.text key ≠ "" ∧ row.text key = value := by
  simp [value?_eq_ite]

/-- The same error of a row further down. -/
def RowError.moved (distance : Nat) (e : RowError) : RowError :=
  { e with row := e.row + distance }

theorem Schema.nodup_labels (kind : AddressKind) : (labels kind).Nodup := by
  rw [labels]
  exact fields_cases (by decide) (by decide) kind

/-- No two fields have the same label. -/
theorem Schema.eq_of_label_eq {kind : AddressKind} {field other : Field}
    (hfield : field ∈ fields kind) (hother : other ∈ fields kind)
    (hlabel : field.label = other.label) : field = other :=
  List.inj_on_of_nodup_map (nodup_labels kind) hfield hother hlabel

/-- A field of the given kind with the key of the ship-to field is this field. -/
theorem Schema.eq_shipToField {kind : AddressKind} {field : Field} (hfield : field ∈ fields kind)
    (hkey : field.key = shipToKey) : field = shipToField := by
  rcases mem_fields_iff.1 hfield with ⟨_, rfl⟩ | hcommon
  · rfl
  · have hother : ∀ field ∈ commonFields, field.key ≠ shipToKey := by decide
    exact absurd hkey (hother field hcommon)

namespace Validation

/-- What can be wrong with the field of a row that is not blank. -/
inductive Violates (kind : AddressKind) (required : List String) (lookup : Option ShipToLookup)
    (row : Row) (field : Field) : Prop where
  /-- The field is required and there is no text. -/
  | missing (hrequired : field.key ∈ required) (hempty : row.text field.key = "")
  /-- There is a text without the format of the field. -/
  | malformed {rule : FormatRule} (hrule : field.format = some rule)
      (hfilled : row.text field.key ≠ "") (hrejected : rule.accepts (row.text field.key) = false)
  /-- The field names a ship-to address that is not known. -/
  | dangling (hkind : kind = .installAt) (hkey : field.key = Schema.shipToKey)
      (hfilled : row.text field.key ≠ "")
      (hunknown : ∀ known, lookup = some known → known.resolve? (row.text field.key) = none)

variable {kind : AddressKind} {required : List String} {lookup : Option ShipToLookup}

theorem isKnown_eq_false_iff {name : String} :
    isKnown lookup name = false ↔ ∀ known, lookup = some known → known.resolve? name = none := by
  cases lookup <;> simp [isKnown]

section Row

variable {number : Nat} {row : Row} {field : Field}

/-- The check of a field finds at most one error, which carries the label of the field. -/
theorem map_field_checkField_sublist (required : List String) (number : Nat) (row : Row)
    (field : Field) : ((checkField required number row field).map (·.field)).Sublist [field.label] := by
  rw [checkField]
  split
  · split
    · exact .refl _
    · exact List.nil_sublist _
  · split
    · split
      · exact List.nil_sublist _
      · exact .refl _
    · exact List.nil_sublist _

theorem field_eq_of_mem_checkField {e : RowError} (hmem : e ∈ checkField required number row field) :
    e.field = field.label :=
  List.mem_singleton.1
    ((map_field_checkField_sublist required number row field).subset (List.mem_map_of_mem hmem))

theorem checkField_ne_nil_iff :
    checkField required number row field ≠ [] ↔
      (field.key ∈ required ∧ row.text field.key = "") ∨
      ∃ rule, field.format = some rule ∧ row.text field.key ≠ "" ∧
        rule.accepts (row.text field.key) = false := by
  rw [checkField]
  cases hvalue : row.value? field.key with
  | none =>
    have hempty := Row.value?_eq_none_iff.1 hvalue
    by_cases hrequired : field.key ∈ required
    · simp [hrequired, hempty]
    · simp [hrequired, hempty]
  | some value =>
    obtain ⟨hfilled, rfl⟩ := Row.value?_eq_some_iff.1 hvalue
    cases field.format with
    | none => simp [hfilled]
    | some rule => simp [hfilled]

/-- There is one error for a reference that is not known, which carries the label of the ship-to
field. -/
theorem mem_checkReference_iff {e : RowError} :
    e ∈ checkReference lookup number row ↔
      row.text Schema.shipToKey ≠ "" ∧ isKnown lookup (row.text Schema.shipToKey) = false ∧
        e = unresolved number (row.text Schema.shipToKey) := by
  rw [checkReference]
  cases hvalue : row.value? Schema.shipToKey with
  | none => simp [Row.value?_eq_none_iff.1 hvalue]
  | some name =>
    obtain ⟨hfilled, rfl⟩ := Row.value?_eq_some_iff.1 hvalue
    cases hknown : isKnown lookup (row.text Schema.shipToKey) with
    | true => simp [hknown]
    | false => simp [hknown, hfilled]

theorem map_field_checkReference_sublist (lookup : Option ShipToLookup) (number : Nat) (row : Row) :
    ((checkReference lookup number row).map (·.field)).Sublist [Schema.shipToField.label] := by
  rw [checkReference]
  split
  · split
    · exact List.nil_sublist _
    · exact .refl _
  · exact List.nil_sublist _

theorem mem_checkRow_iff {e : RowError} :
    e ∈ checkRow kind required lookup number row ↔
      (∃ field ∈ Schema.fields kind, e ∈ checkField required number row field) ∨
      (kind = .installAt ∧ e ∈ checkReference lookup number row) := by
  rw [checkRow, List.mem_append, List.mem_flatMap]
  refine or_congr_right ?_
  by_cases hkind : kind = .installAt
  · simp [hkind]
  · simp [hkind]

/-- An error of a row is about a field of its kind. -/
theorem exists_field_of_mem_checkRow {e : RowError}
    (hmem : e ∈ checkRow kind required lookup number row) :
    ∃ field ∈ Schema.fields kind, e.field = field.label := by
  rcases mem_checkRow_iff.1 hmem with ⟨field, hfield, hfound⟩ | ⟨rfl, hreference⟩
  · exact ⟨field, hfield, field_eq_of_mem_checkField hfound⟩
  · obtain ⟨_, _, rfl⟩ := mem_checkReference_iff.1 hreference
    exact ⟨Schema.shipToField, List.mem_cons_self, rfl⟩

/-- A row has an error for a field exactly if it violates what is asked of the field. -/
theorem exists_mem_checkRow_iff (hfield : field ∈ Schema.fields kind) :
    (∃ e ∈ checkRow kind required lookup number row, e.field = field.label) ↔
      Violates kind required lookup row field := by
  constructor
  · rintro ⟨e, hmem, hlabel⟩
    rcases mem_checkRow_iff.1 hmem with ⟨other, hother, hfound⟩ | ⟨rfl, hreference⟩
    · obtain rfl : field = other := Schema.eq_of_label_eq hfield hother
        (hlabel.symm.trans (field_eq_of_mem_checkField hfound))
      rcases checkField_ne_nil_iff.1 (List.ne_nil_of_mem hfound) with
        ⟨hrequired, hempty⟩ | ⟨rule, hrule, hfilled, hrejected⟩
      · exact .missing hrequired hempty
      · exact .malformed hrule hfilled hrejected
    · obtain ⟨hfilled, hunknown, rfl⟩ := mem_checkReference_iff.1 hreference
      obtain rfl : field = Schema.shipToField :=
        Schema.eq_of_label_eq hfield List.mem_cons_self hlabel.symm
      exact .dangling rfl rfl hfilled (isKnown_eq_false_iff.1 hunknown)
  · intro hviolates
    have hfound (hne : checkField required number row field ≠ []) :
        ∃ e ∈ checkRow kind required lookup number row, e.field = field.label := by
      obtain ⟨e, hmem⟩ := List.exists_mem_of_ne_nil _ hne
      exact ⟨e, mem_checkRow_iff.2 (.inl ⟨field, hfield, hmem⟩), field_eq_of_mem_checkField hmem⟩
    cases hviolates with
    | missing hrequired hempty => exact hfound (checkField_ne_nil_iff.2 (.inl ⟨hrequired, hempty⟩))
    | malformed hrule hfilled hrejected =>
      exact hfound (checkField_ne_nil_iff.2 (.inr ⟨_, hrule, hfilled, hrejected⟩))
    | dangling hkind hkey hfilled hunknown =>
      obtain rfl := Schema.eq_shipToField hfield hkey
      exact ⟨_, mem_checkRow_iff.2 (.inr ⟨hkind, mem_checkReference_iff.2
        ⟨hfilled, isKnown_eq_false_iff.2 hunknown, rfl⟩⟩), rfl⟩

/-- No two errors of a row are about the same field. The reference is only looked up if it is there,
and then the ship-to field has no other error. -/
theorem nodup_field_checkRow (kind : AddressKind) (required : List String)
    (lookup : Option ShipToLookup) (number : Nat) (row : Row) :
    ((checkRow kind required lookup number row).map (·.field)).Nodup := by
  have hfields : (((Schema.fields kind).flatMap (checkField required number row)).map
      (·.field)).Nodup := by
    rw [List.map_flatMap, List.nodup_flatMap]
    refine ⟨fun field _ => (map_field_checkField_sublist required number row field).nodup
      (List.nodup_singleton _), ?_⟩
    refine (List.pairwise_map.1 (Schema.nodup_labels kind)).imp fun hne label hfirst hsecond => ?_
    exact hne ((List.mem_singleton.1 ((map_field_checkField_sublist ..).subset hfirst)).symm.trans
      (List.mem_singleton.1 ((map_field_checkField_sublist ..).subset hsecond)))
  rw [checkRow, List.map_append]
  split
  · next hkind =>
    obtain rfl : kind = .installAt := by simpa using hkind
    refine hfields.append ((map_field_checkReference_sublist lookup number row).nodup
      (List.nodup_singleton _)) fun label hfirst hsecond => ?_
    obtain ⟨e, hmem, hlabel⟩ := List.mem_map.1 hfirst
    obtain ⟨field, hfield, hfound⟩ := List.mem_flatMap.1 hmem
    obtain ⟨_, hreference, rfl⟩ := List.mem_map.1 hsecond
    obtain ⟨hfilled, _, rfl⟩ := mem_checkReference_iff.1 hreference
    obtain rfl : field = Schema.shipToField := Schema.eq_of_label_eq hfield List.mem_cons_self
      ((field_eq_of_mem_checkField hfound).symm.trans hlabel)
    rcases checkField_ne_nil_iff.1 (List.ne_nil_of_mem hfound) with ⟨_, hempty⟩ | ⟨_, hrule, _⟩
    · exact hfilled hempty
    · cases hrule
  · rwa [List.map_nil, List.append_nil]

/-- The errors of a row further down are the same. -/
theorem checkRow_add (kind : AddressKind) (required : List String) (lookup : Option ShipToLookup)
    (number distance : Nat) (row : Row) :
    checkRow kind required lookup (number + distance) row =
      (checkRow kind required lookup number row).map (·.moved distance) := by
  have hfield : checkField required (number + distance) row = fun field =>
      (checkField required number row field).map (·.moved distance) := by
    funext field
    rw [checkField, checkField]
    split
    · split <;> rfl
    · split
      · split <;> rfl
      · rfl
  have hreference : checkReference lookup (number + distance) row =
      (checkReference lookup number row).map (·.moved distance) := by
    rw [checkReference, checkReference]
    split
    · split <;> rfl
    · rfl
  rw [checkRow, checkRow, List.map_append, List.map_flatMap, hfield, hreference]
  split <;> rfl

end Row

section Rows

variable {rows : List Row}

/-- What is found in the row at an index. In a blank row nothing is. -/
def foundAt (kind : AddressKind) (required : List String) (lookup : Option ShipToLookup)
    (entry : Row × Nat) : List RowError :=
  if entry.1.isBlank then [] else checkRow kind required lookup (Row.number entry.2) entry.1

theorem checkRows_eq_flatMap (rows : List Row) :
    checkRows kind required lookup rows = rows.zipIdx.flatMap (foundAt kind required lookup) :=
  rfl

theorem mem_foundAt_iff {entry : Row × Nat} {e : RowError} :
    e ∈ foundAt kind required lookup entry ↔
      entry.1.isBlank = false ∧ e ∈ checkRow kind required lookup (Row.number entry.2) entry.1 := by
  rw [foundAt]
  cases entry.1.isBlank <;> simp

theorem foundAt_add (row : Row) (index distance : Nat) :
    foundAt kind required lookup (row, distance + index) =
      (foundAt kind required lookup (row, index)).map (·.moved distance) := by
  have hnumber : Row.number (distance + index) = Row.number index + distance := by
    simp only [Row.number]
    omega
  rw [foundAt, foundAt, hnumber, checkRow_add]
  split <;> rfl

theorem mem_checkRows_iff {e : RowError} :
    e ∈ checkRows kind required lookup rows ↔
      ∃ (index : Nat) (row : Row), rows[index]? = some row ∧ row.isBlank = false ∧
        e ∈ checkRow kind required lookup (Row.number index) row := by
  rw [checkRows_eq_flatMap, List.mem_flatMap]
  constructor
  · rintro ⟨⟨row, index⟩, hrow, hmem⟩
    obtain ⟨hfilled, hfound⟩ := mem_foundAt_iff.1 hmem
    exact ⟨index, row, List.mem_zipIdx_iff_getElem?.1 hrow, hfilled, hfound⟩
  · rintro ⟨index, row, hrow, hfilled, hfound⟩
    exact ⟨(row, index), List.mem_zipIdx_iff_getElem?.2 hrow, mem_foundAt_iff.2 ⟨hfilled, hfound⟩⟩

/-- Of two errors, the later one is about a row further down or about another field of the same
row. -/
theorem pairwise_checkRows (kind : AddressKind) (required : List String)
    (lookup : Option ShipToLookup) (rows : List Row) :
    (checkRows kind required lookup rows).Pairwise fun e later =>
      e.row < later.row ∨ (e.row = later.row ∧ e.field ≠ later.field) := by
  have hpositions : rows.zipIdx.Pairwise fun entry later => entry.2 < later.2 := by
    refine List.pairwise_map.1 ?_
    rw [List.zipIdx_map_snd]
    exact List.pairwise_lt_range'
  rw [checkRows_eq_flatMap, List.pairwise_flatMap]
  refine ⟨fun entry _ => ?_, hpositions.imp fun hlt e he later hlater => .inl ?_⟩
  · rw [foundAt]
    split
    · exact .nil
    · refine (List.pairwise_map.1 (nodup_field_checkRow kind required lookup _ entry.1)).imp_of_mem
        fun he hlater hne => .inr ⟨?_, hne⟩
      rw [row_eq_of_mem_checkRow he, row_eq_of_mem_checkRow hlater]
  · rw [row_eq_of_mem_checkRow (mem_foundAt_iff.1 he).2,
      row_eq_of_mem_checkRow (mem_foundAt_iff.1 hlater).2]
    exact Nat.add_lt_add_right hlt 2

/-- The errors of rows that follow others are those of the rows alone, further down. -/
theorem checkRows_append (before after : List Row) :
    checkRows kind required lookup (before ++ after) =
      checkRows kind required lookup before ++
        (checkRows kind required lookup after).map (·.moved before.length) := by
  have hafter : (after.zipIdx before.length).flatMap (foundAt kind required lookup) =
      (checkRows kind required lookup after).map (·.moved before.length) := by
    rw [checkRows_eq_flatMap, List.map_flatMap, List.zipIdx_eq_map_add, List.flatMap_map]
    exact List.flatMap_congr fun entry _ => foundAt_add entry.1 entry.2 before.length
  rw [checkRows_eq_flatMap, List.zipIdx_append, List.flatMap_append, Nat.zero_add, hafter,
    ← checkRows_eq_flatMap]

theorem checkRows_singleton_of_isBlank {row : Row} (hblank : row.isBlank = true) :
    checkRows kind required lookup [row] = [] := by
  simp [checkRows_eq_flatMap, foundAt, hblank]

/-- A blank row has no errors, but moves those of all later rows down. -/
theorem checkRows_append_blank_cons {before after : List Row} {blank : Row}
    (hblank : blank.isBlank = true) :
    checkRows kind required lookup (before ++ blank :: after) =
      checkRows kind required lookup before ++
        (checkRows kind required lookup after).map (·.moved (before.length + 1)) := by
  rw [← List.singleton_append, ← List.append_assoc, checkRows_append, checkRows_append,
    checkRows_singleton_of_isBlank hblank, List.map_nil, List.append_nil, List.length_append,
    List.length_singleton]

/-- There is an error for a field in a row exactly if the row with this number is not blank and
violates what is asked of the field. -/
theorem exists_mem_checkRows_field_iff {field : Field} (hfield : field ∈ Schema.fields kind)
    {number : Nat} :
    (∃ e ∈ checkRows kind required lookup rows, e.row = number ∧ e.field = field.label) ↔
      ∃ row, 2 ≤ number ∧ rows[number - 2]? = some row ∧ row.isBlank = false ∧
        Violates kind required lookup row field := by
  simp only [mem_checkRows_iff]
  constructor
  · rintro ⟨e, ⟨index, row, hrow, hfilled, hfound⟩, rfl, hlabel⟩
    have hnumber : e.row = index + 2 := row_eq_of_mem_checkRow hfound
    refine ⟨row, by omega, ?_, hfilled, (exists_mem_checkRow_iff hfield).1 ⟨e, hfound, hlabel⟩⟩
    rwa [hnumber, Nat.add_sub_cancel]
  · rintro ⟨row, hnumber, hrow, hfilled, hviolates⟩
    obtain ⟨e, hfound, hlabel⟩ := (exists_mem_checkRow_iff hfield).2 hviolates
    refine ⟨e, ⟨number - 2, row, hrow, hfilled, ?_⟩, row_eq_of_mem_checkRow hfound, hlabel⟩
    rwa [Row.number, Nat.sub_add_cancel hnumber]

/-- Whatever is required and known, a check finds the errors in row order, no two of them for the
same field of the same row, and one for a field exactly if a row that is not blank violates what is
asked of the field: it is required and there is no text, its text has not the format, or it names a
ship-to address that is not known. A blank row has no errors, but all later ones are found one row
further down. -/
theorem checkRows_finds_each_violation_once (kind : AddressKind) (required : List String)
    (lookup : Option ShipToLookup) (rows : List Row) :
    let errors := checkRows kind required lookup rows
    (errors.Pairwise fun e later => e.row ≤ later.row) ∧
    (errors.map fun e => (e.row, e.field)).Nodup ∧
    (∀ e ∈ errors, ∃ field ∈ Schema.fields kind, e.field = field.label) ∧
    (∀ (number : Nat) (field : Field), field ∈ Schema.fields kind →
      ((∃ e ∈ errors, e.row = number ∧ e.field = field.label) ↔
        ∃ row, 2 ≤ number ∧ rows[number - 2]? = some row ∧ row.isBlank = false ∧
          Violates kind required lookup row field)) ∧
    ∀ (before after : List Row) (blank : Row), rows = before ++ blank :: after →
      blank.isBlank = true →
      errors = checkRows kind required lookup before ++
        (checkRows kind required lookup after).map (·.moved (before.length + 1)) := by
  intro errors
  have hpairs := pairwise_checkRows kind required lookup rows
  refine ⟨hpairs.imp fun hpair => ?order, ?nodup, fun e hmem => ?field,
    fun number field hfield => exists_mem_checkRows_field_iff hfield, ?blank⟩
  case order => omega
  case nodup =>
    refine List.pairwise_map.2 (hpairs.imp fun {e later} hpair hsame => ?_)
    obtain ⟨hrow, hlabel⟩ := Prod.mk.inj hsame
    rcases hpair with hlt | ⟨_, hne⟩
    · omega
    · exact hne hlabel
  case field =>
    obtain ⟨_, _, _, _, hfound⟩ := mem_checkRows_iff.1 hmem
    exact exists_field_of_mem_checkRow hfound
  case blank =>
    rintro before after blank rfl hblank
    exact checkRows_append_blank_cons hblank

/-- A blank row above one with a field in a wrong format, an unknown reference and a missing field. -/
theorem checkRows_finds_each_violation_once_below_a_blank_row :
    let blank : Row := .ofList [("city", " \t")]
    let row : Row := .ofList [("ship_to_name", "Acme"), ("email", " acme"), ("city", "Salem")]
    let required := Policy.requiredKeys (Schema.fields .installAt) .empty
    let errors := checkRows .installAt required none [blank, row]
    (∃ e ∈ errors, e.row = 3 ∧ e.field = "Email") ∧
    (∃ e ∈ errors, e.row = 3 ∧ e.field = "Ship To Company") ∧
    (∃ e ∈ errors, e.row = 3 ∧ e.field = "State") ∧
    errors = (checkRows .installAt required none [row]).map (·.moved 1) := by
  intro blank row required errors
  obtain ⟨_, _, _, hfound, hmoved⟩ :=
    checkRows_finds_each_violation_once .installAt required none [blank, row]
  let email : Field := ⟨"email", "Email", false, some .email, "Contact email address",
    "billing@acme.example"⟩
  let state : Field := ⟨"state", "State", true, none, "State, province or region", "IL"⟩
  have hstate : state ∈ Schema.fields .installAt := by decide
  have hrequired : state.key ∈ required :=
    Policy.mem_requiredKeys_of_alwaysRequired hstate rfl .empty
  refine ⟨(hfound 3 email (by decide)).2 ⟨row, by decide, rfl, by decide, ?_⟩,
    (hfound 3 Schema.shipToField (by decide)).2 ⟨row, by decide, rfl, by decide, ?_⟩,
    (hfound 3 state hstate).2 ⟨row, by decide, rfl, by decide, .missing hrequired (by decide)⟩,
    hmoved [] [row] blank rfl (by decide)⟩
  · exact @Violates.malformed _ _ _ _ _ .email rfl (by decide) (by decide)
  · exact .dangling rfl rfl (by decide) (by simp)

/-- Some error carries the number of a row exactly if the row is not blank and does not pass. -/
theorem any_row_checkRows {entry : Row × Nat} (hentry : entry ∈ rows.zipIdx) :
    (checkRows kind required lookup rows).any (·.row == Row.number entry.2) =
      isFaulty kind required lookup entry := by
  rw [Bool.eq_iff_iff, List.any_eq_true]
  simp only [beq_iff_eq, exists_mem_checkRows_iff]
  constructor
  · rintro ⟨found, hfound, hfaulty, hnumber⟩
    have hindex : found.2 = entry.2 := Nat.add_right_cancel hnumber
    have hrow : some found.1 = some entry.1 := by
      rw [← List.mem_zipIdx_iff_getElem?.1 hfound, ← List.mem_zipIdx_iff_getElem?.1 hentry, hindex]
    rwa [← Prod.ext (Option.some.inj hrow) hindex]
  · intro hfaulty
    exact ⟨entry, hentry, hfaulty, rfl⟩

/-- The rows that are not blank are those that pass and those that do not. -/
theorem countP_add_countP_isFaulty (kind : AddressKind) (required : List String)
    (lookup : Option ShipToLookup) (rows : List Row) :
    (rows.zipIdx.countP fun entry => !entry.1.isBlank &&
        (checkRow kind required lookup (Row.number entry.2) entry.1).isEmpty) +
      rows.zipIdx.countP (isFaulty kind required lookup) = Row.filledCount rows := by
  have hfilled : Row.filledCount rows = rows.zipIdx.countP fun entry => !entry.1.isBlank := by
    conv => lhs; rw [Row.filledCount, ← List.zipIdx_map_fst 0 rows, List.countP_map]
    rfl
  rw [hfilled, List.countP_eq_countP_filter_add rows.zipIdx (fun entry => !entry.1.isBlank)
    fun entry => (checkRow kind required lookup (Row.number entry.2) entry.1).isEmpty,
    List.countP_filter, List.countP_filter]
  rfl

/-- The counts of a check add up: there are at most as many rows with errors as rows that are not
blank, so that the subtraction that gives the valid rows is exact. The rows with errors are those
whose number some error carries, and the valid rows are those in which nothing is found. -/
theorem summarize_checkRows_adds_up (kind : AddressKind) (required : List String)
    (lookup : Option ShipToLookup) (rows : List Row) :
    let errors := checkRows kind required lookup rows
    let result := ValidationResult.summarize rows errors
    errorRowCount errors ≤ Row.filledCount rows ∧
    result.totalRows = Row.filledCount rows ∧
    result.totalRows = result.validRows + result.errorRows ∧
    (result.errorRows = rows.zipIdx.countP fun entry =>
      !entry.1.isBlank && errors.any (·.row == Row.number entry.2)) ∧
    result.validRows = rows.zipIdx.countP fun entry =>
      !entry.1.isBlank && (checkRow kind required lookup (Row.number entry.2) entry.1).isEmpty := by
  intro errors result
  have hcount : errorRowCount errors = rows.zipIdx.countP (isFaulty kind required lookup) :=
    errorRowCount_checkRows rows
  have hsum := countP_add_countP_isFaulty kind required lookup rows
  have hfaulty : rows.zipIdx.countP (isFaulty kind required lookup) = rows.zipIdx.countP fun entry =>
      !entry.1.isBlank && errors.any (·.row == Row.number entry.2) := by
    refine List.countP_congr fun entry hentry => ?_
    rw [any_row_checkRows hentry, isFaulty, ← Bool.and_assoc, Bool.and_self]
  have hvalid : result.validRows = Row.filledCount rows - errorRowCount errors := rfl
  have herror : result.errorRows = errorRowCount errors := rfl
  have htotal : result.totalRows = Row.filledCount rows := rfl
  refine ⟨by omega, htotal, by omega, by rw [herror, hcount, hfaulty], by omega⟩

end Rows

end Validation

end AddressIntake

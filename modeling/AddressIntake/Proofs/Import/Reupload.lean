import AddressIntake.Proofs.Import.Prediction
import AddressIntake.Proofs.Import.References
import AddressIntake.Proofs.Sheet
import AddressIntake.Proofs.Validation

namespace AddressIntake

namespace MemoryStore

variable {store : MemoryStore} {origins : List Row}

/-- The rows that a commit turns into addresses passed its check. -/
theorem isAdmissible_of_mem_sources {refuses : NewAddress → Option String} {project : String}
    {kind : AddressKind} {rows : List Row} {options : CommitOptions} {row : Row}
    (hmem : row ∈ store.sources (.commit refuses project kind rows options)) :
    row.IsAdmissible kind := by
  rw [sources] at hmem
  split at hmem
  · next herrors =>
    obtain ⟨hfilled, _⟩ := CommitJob.not_isBad_of_mem_cleanRows hmem
    obtain ⟨index, hrow⟩ :=
      List.mem_iff_getElem?.1 ((CommitJob.cleanRows_sublist _ _ rows).subset hmem)
    exact Validation.isAdmissible_of_checkRow_eq_nil
      (Validation.checkRows_eq_nil_iff.1 herrors index row hrow hfilled)
  · cases hmem

/-- Whether the addresses of a store were made from admissible rows. -/
def IsAdmitted (origins : List Row) (store : MemoryStore) : Prop :=
  List.Forall₂ (fun row address => row.IsAdmissible address.kind) origins store.registry.addresses

theorem isAdmitted_empty (stamps : Nat → Stamp) : (empty stamps).IsAdmitted [] :=
  List.Forall₂.nil

theorem IsAdmitted.apply (hadmitted : store.IsAdmitted origins) (change : Change) :
    (store.apply change).IsAdmitted (origins ++ store.sources change) := by
  cases change with
  | savePolicy policy =>
    rw [sources, List.append_nil]
    exact hadmitted
  | commit refuses project kind rows options =>
    rw [apply_commit]
    refine List.rel_append hadmitted ?_
    have hpairs := forall₂_stamped { store with refuses }
      (CommitJob.ofCommit project kind options (store.shipToAnswer project))
      (store.sources (.commit refuses project kind rows options))
    refine ((List.forall₂_and_left ..).2
      ⟨fun row hmem => isAdmissible_of_mem_sources hmem, hpairs⟩).imp fun row address hrow => ?_
    have hkind : kind = address.kind := congrArg NewAddress.kind hrow.2
    exact hkind ▸ hrow.1

theorem IsAdmitted.applyAll (hadmitted : store.IsAdmitted origins) (changes : List Change) :
    (store.applyAll changes).IsAdmitted (origins ++ store.allSources changes) := by
  induction changes generalizing store origins with
  | nil =>
    rw [allSources, List.append_nil]
    exact hadmitted
  | cons change rest ih =>
    rw [allSources, ← List.append_assoc]
    exact ih (hadmitted.apply change)

end MemoryStore

namespace Registry

/-- A registry in which no two addresses share an identity, and each address holds the values of an
admissible row and refers as it should. -/
structure IsSettled (registry : Registry) : Prop where
  nodup_ids : (registry.addresses.map (·.id)).Nodup
  exists_row : ∀ address ∈ registry.addresses, ∃ row,
    registry.Refers row address ∧ row.IsAdmissible address.kind

/-- The company names of the ship-to addresses of a project by record. -/
def shipToNames (registry : Registry) (project : String) : List (RecordId × String) :=
  Sheet.shipToNames (registry.select project .shipTo)

variable {registry : Registry} (hsettled : registry.IsSettled)

include hsettled

/-- The first ship-to address with a trimmed name has this very name. -/
theorem IsSettled.companyName_eq {project name : String} {target : Address}
    (hfirst : registry.firstShipTo? project name = some target) (hname : Text.trim name = name) :
    target.fields.companyName = some name := by
  obtain ⟨own, hown, _, hsame⟩ := Address.bears_iff.1 (List.find?_some hfirst)
  obtain ⟨row, ⟨hfields, _, _⟩, _⟩ := hsettled.exists_row target (mem_of_firstShipTo? hfirst).1
  have hvalue : row.value? "company_name" = some own := by
    rw [hfields] at hown
    exact hown
  rw [hown, ← hname, ← hsame, (Row.trim_value_of_eq_some hvalue).1]

/-- An export writes the values of the row that an address was made from. -/
theorem IsSettled.exportCell_eq {row : Row} {address : Address}
    (hrefers : registry.Refers row address) {field : Field}
    (hfield : field ∈ Schema.fields address.kind) :
    Sheet.exportCell (registry.shipToNames address.project) address field =
      (row.value? field.key).getD "" := by
  obtain ⟨hfields, _, hinstall⟩ := hrefers
  rcases Schema.mem_fields_iff.1 hfield with ⟨hkind, rfl⟩ | hcommon
  · obtain ⟨name, target, hname, hfirst, hshipTo⟩ := hinstall hkind
    have hvalue : row.value? Schema.shipToField.key = some name := hname
    have hnodup : ((registry.select address.project .shipTo).map (·.id)).Nodup :=
      hsettled.nodup_ids.sublist (List.filter_sublist.map _)
    have hcompany :=
      hsettled.companyName_eq hfirst (Row.trim_value_of_eq_some hname).1
    have hlookup := Sheet.lookup_shipToNames hnodup (List.mem_of_find?_eq_some hfirst) hcompany
    rw [Sheet.exportCell, if_pos (by decide), hshipTo, hvalue]
    exact congrArg (·.getD "") hlookup
  · have hother : ∀ field ∈ Schema.commonFields, (field.key == Schema.shipToKey) = false := by decide
    rw [Sheet.exportCell, if_neg (by simp [hother field hcommon]), hfields,
      AddressFields.getD_get?_ofRow row hcommon]

/-- The row that is read back of an exported address. -/
def exportedRow (registry : Registry) (address : Address) : Row :=
  (Columns.ofKeys (Schema.fields address.kind)).row
    ((Sheet.record address.kind (registry.shipToNames address.project) address).map Text.trim)

/-- What is read back of an exported address are the values of the row that it was made from. -/
theorem IsSettled.value?_exportedRow {row : Row} {address : Address}
    (hrefers : registry.Refers row address) {field : Field}
    (hfield : field ∈ Schema.fields address.kind) :
    (registry.exportedRow address).value? field.key = row.value? field.key := by
  rw [exportedRow, Sheet.record, List.map_map,
    Columns.value?_row_ofKeys (Schema.nodup_keys_fields address.kind) _ hfield,
    Function.comp_apply, hsettled.exportCell_eq hrefers hfield, Text.isBlank_trim, Text.trim_trim]
  cases hvalue : row.value? field.key with
  | none => rfl
  | some value =>
    obtain ⟨htrim, hvisible⟩ := Row.trim_value_of_eq_some hvalue
    rw [Option.getD_some, htrim, hvisible]
    rfl

theorem IsSettled.ofRow_exportedRow {address : Address} (hmem : address ∈ registry.addresses) :
    AddressFields.ofRow (registry.exportedRow address) = address.fields := by
  obtain ⟨row, hrefers, _⟩ := hsettled.exists_row address hmem
  rw [hrefers.1]
  exact AddressFields.ofRow_congr fun field hfield =>
    hsettled.value?_exportedRow hrefers (Schema.mem_fields_iff.2 (.inr hfield))

theorem IsSettled.isAdmissible_exportedRow {address : Address}
    (hmem : address ∈ registry.addresses) :
    (registry.exportedRow address).IsAdmissible address.kind := by
  obtain ⟨row, hrefers, hrow⟩ := hsettled.exists_row address hmem
  intro field hfield
  rw [hsettled.value?_exportedRow hrefers hfield]
  exact hrow field hfield

/-- An exported install-at address names the ship-to address that it refers to. -/
theorem IsSettled.firstShipTo?_exportedRow {address : Address}
    (hmem : address ∈ registry.addresses) (hkind : address.kind = .installAt) :
    ∃ (name : String) (target : Address),
      (registry.exportedRow address).value? Schema.shipToKey = some name ∧
      registry.firstShipTo? address.project name = some target ∧
      address.shipTo = some target.id := by
  obtain ⟨row, hrefers, _⟩ := hsettled.exists_row address hmem
  obtain ⟨name, target, hname, hfirst, hshipTo⟩ := hrefers.2.2 hkind
  have hvalue := hsettled.value?_exportedRow hrefers
    (Schema.mem_fields_iff.2 (.inl ⟨hkind, rfl⟩))
  exact ⟨name, target, hvalue.trans hname, hfirst, hshipTo⟩

/-- An exported address has a value for each field that is always required. -/
theorem IsSettled.exists_visible_mem_record {address : Address}
    (hmem : address ∈ registry.addresses) :
    ∃ cell ∈ Sheet.record address.kind (registry.shipToNames address.project) address,
      Text.isBlank cell = false := by
  obtain ⟨row, hrefers, hrow⟩ := hsettled.exists_row address hmem
  obtain ⟨field, hfield, halways⟩ := Schema.exists_alwaysRequired address.kind
  obtain ⟨value, hvalue⟩ := Option.isSome_iff_exists.1 ((hrow field hfield).isSome halways)
  refine ⟨_, List.mem_map_of_mem hfield, ?_⟩
  rw [hsettled.exportCell_eq hrefers hfield, hvalue]
  exact (Row.trim_value_of_eq_some hvalue).2

/-- Without NUL characters in the addresses of a project there are none in its exports. -/
theorem IsSettled.nul_not_mem_record {address : Address} (hmem : address ∈ registry.addresses)
    (hbinary : ∀ other ∈ registry.addresses, other.project = address.project →
      ∀ field ∈ Schema.commonFields, ∀ value ∈ other.fields.get? field.key,
        '\x00' ∉ value.toList) :
    ∀ cell ∈ Sheet.record address.kind (registry.shipToNames address.project) address,
      '\x00' ∉ cell.toList := by
  intro cell hcell
  obtain ⟨field, hfield, rfl⟩ := List.mem_map.1 hcell
  obtain ⟨row, hrefers, _⟩ := hsettled.exists_row address hmem
  rw [hsettled.exportCell_eq hrefers hfield]
  cases hvalue : row.value? field.key with
  | none => exact List.not_mem_nil
  | some value =>
    rcases Schema.mem_fields_iff.1 hfield with ⟨hkind, rfl⟩ | hcommon
    · obtain ⟨name, target, hname, hfirst, _⟩ := hrefers.2.2 hkind
      obtain rfl : name = value := Option.some.inj (hname.symm.trans hvalue)
      obtain ⟨htarget, hproject, _⟩ := mem_of_firstShipTo? hfirst
      have hcompany : ∃ field ∈ Schema.commonFields, field.key = "company_name" := by decide
      obtain ⟨field, hfield, hkey⟩ := hcompany
      refine hbinary target htarget hproject field hfield name ?_
      rw [hkey]
      exact hsettled.companyName_eq hfirst (Row.trim_value_of_eq_some hname).1
    · have hsame := AddressFields.getD_get?_ofRow row hcommon
      rw [hvalue, ← hrefers.1] at hsame
      rw [← hsame]
      cases hstored : address.fields.get? field.key with
      | none => exact List.not_mem_nil
      | some stored => exact hbinary address hmem rfl field hcommon stored hstored

end Registry

namespace MemoryStore

open Pipeline

/-- In every history the registry is settled, as long as no two records receive the same identity. -/
theorem isSettled_registry_applyAll (stamps : Nat → Stamp) (changes : List Change)
    (hdistinct : ∀ m n, m < n → n < ((empty stamps).allSources changes).length →
      (stamps m).id ≠ (stamps n).id) :
    ((empty stamps).applyAll changes).registry.IsSettled := by
  have hgrown := (isGrown_empty stamps).applyAll changes
  have hadmitted := (isAdmitted_empty stamps).applyAll changes
  have hboth : List.Forall₂ (fun row address =>
      ((empty stamps).applyAll changes).registry.Refers row address ∧ row.IsAdmissible address.kind)
      ((empty stamps).allSources changes) ((empty stamps).applyAll changes).registry.addresses :=
    hgrown.refers.mp (fun _ _ hrefers hrow => ⟨hrefers, hrow⟩) hadmitted
  exact ⟨hgrown.nodup_ids hdistinct, fun _ hmem => exists_of_forall₂_of_mem hboth hmem⟩

/-- A row gives an address again: the same values and, for an install-at address, a name that stands
for the same ship-to address. -/
structure Restores (store : MemoryStore) (row : Row) (address : Address) : Prop where
  fields : AddressFields.ofRow row = address.fields
  shipTo : address.kind = .installAt → ∃ (name : String) (id : RecordId),
    row.value? Schema.shipToKey = some name ∧
    (run answer (shipToLookup address.project) store).1.resolve? name = some id ∧
    address.shipTo = some id

/-- In every history of an empty store, as long as no two records receive the same identity, the
export of the addresses of a project and kind can be uploaded again. Unless a value holds a NUL
character, the file is read as a table whose columns all hold a field, with one row for each address
that restores it, and the rows pass the check without a policy. -/
theorem exports_can_be_uploaded_again (stamps : Nat → Stamp) (changes : List Change)
    (hdistinct : ∀ m n, m < n → n < ((empty stamps).allSources changes).length →
      (stamps m).id ≠ (stamps n).id)
    (project : String) (kind : AddressKind)
    (hsome : ((empty stamps).applyAll changes).registry.select project kind ≠ [])
    (hbinary : ∀ address ∈ ((empty stamps).applyAll changes).registry.addresses,
      address.project = project → ∀ field ∈ Schema.commonFields,
        ∀ value ∈ address.fields.get? field.key, '\x00' ∉ value.toList)
    {charset : String} (hutf8 : Text.Encoding.ofDetected charset = "utf-8") :
    let store := (empty stamps).applyAll changes
    let addresses := store.registry.select project kind
    let names := Sheet.shipToNames (store.registry.select project .shipTo)
    ∃ (text : List Char) (table : Table),
      (Sheet.ofAddresses kind addresses names).render = .ok text ∧
      Table.parse .csv (.bytes (Text.Utf8.encode text) charset) = .ok table ∧
      let columns := Columns.ofHeaders (Schema.fields kind) table.headers
      let rows := columns.rows table.rows
      columns.keys = (Schema.fields kind).map (some ·.key) ∧ columns.unrecognized = [] ∧
      List.Forall₂ store.Restores rows addresses ∧
      Validation.checkRows kind (Policy.requiredKeys (Schema.fields kind) .empty)
        (some (run answer (shipToLookup project) store).1) rows = [] := by
  intro store addresses names
  have hsettled : store.registry.IsSettled := isSettled_registry_applyAll stamps changes hdistinct
  have hreadable : store.readable = true := ((isGrown_empty stamps).applyAll changes).readable
  have hselected : ∀ address ∈ addresses,
      address ∈ store.registry.addresses ∧ address.project = project ∧ address.kind = kind := by
    intro address hmem
    simpa [addresses, Registry.select] using hmem
  have hrecord : ∀ address ∈ addresses,
      (Columns.ofKeys (Schema.fields kind)).row ((Sheet.record kind names address).map Text.trim) =
        store.registry.exportedRow address := by
    intro address hmem
    obtain ⟨_, rfl, rfl⟩ := hselected address hmem
    rfl
  have htext : ∀ address ∈ addresses, ∀ cell ∈ Sheet.record kind names address,
      '\x00' ∉ cell.toList := by
    intro address hmem
    obtain ⟨hstored, rfl, rfl⟩ := hselected address hmem
    exact hsettled.nul_not_mem_record hstored hbinary
  have hvisible : ∀ address ∈ addresses, ∃ cell ∈ Sheet.record kind names address,
      Text.isBlank cell = false := by
    intro address hmem
    obtain ⟨hstored, rfl, rfl⟩ := hselected address hmem
    exact hsettled.exists_visible_mem_record hstored
  have hrows : (Columns.ofKeys (Schema.fields kind)).rows
      (addresses.map fun address => (Sheet.record kind names address).map Text.trim) =
        addresses.map store.registry.exportedRow := by
    rw [Columns.rows, List.map_map]
    exact List.map_congr_left hrecord
  refine ⟨_, _, Sheet.render_ofAddresses, Sheet.parse_exportText hutf8 hsome htext hvisible, ?_⟩
  dsimp only
  rw [Columns.ofHeaders_labels, hrows]
  have hresolve (name : String) := resolve?_run_shipToLookup hreadable project name
  refine ⟨rfl, rfl, ?_, ?_⟩
  · refine List.forall₂_map_left_iff.2 (List.forall₂_same.2 fun address hmem => ?_)
    obtain ⟨hstored, rfl, rfl⟩ := hselected address hmem
    refine ⟨hsettled.ofRow_exportedRow hstored, fun hkind => ?_⟩
    obtain ⟨name, target, hname, hfirst, hshipTo⟩ := hsettled.firstShipTo?_exportedRow hstored hkind
    exact ⟨name, target.id, hname, by rw [hresolve, hfirst, Option.map_some], hshipTo⟩
  · refine Validation.checkRows_eq_nil_iff.2 fun index row hrow _ => ?_
    obtain ⟨address, hmem, rfl⟩ := List.mem_map.1 (List.mem_of_getElem? hrow)
    obtain ⟨hstored, rfl, rfl⟩ := hselected address hmem
    refine Validation.checkRow_eq_nil_of_isAdmissible (hsettled.isAdmissible_exportedRow hstored)
      (fun hkind other hother => ?_) _
    obtain ⟨name, target, hname, hfirst, _⟩ := hsettled.firstShipTo?_exportedRow hstored hkind
    obtain rfl : name = other := Option.some.inj (hname.symm.trans hother)
    rw [Validation.isKnown, Option.bind_some, hresolve, hfirst]
    rfl

/-- A company name with a comma and quotes, and an address of two lines. -/
theorem exports_can_be_uploaded_again_after_quoted_names :
    let stamps (n : Nat) : Stamp :=
      ⟨⟨List.replicate 31 0 ++ [Fin.ofNat 16 n], rfl⟩, .epoch⟩
    let shipTo : List Row := [.ofList [("address_line1", "1 Main St\nSuite 2"),
      ("city", "Springfield"), ("company_name", " Acme, \"East\""), ("country", "US"),
      ("state", "IL")]]
    let installAt : List Row := [.ofList [("address_line1", "2 Main St"), ("city", "Springfield"),
      ("country", "US"), ("ship_to_name", "Acme, \"East\" "), ("state", "IL")]]
    let changes : List Change := [.commit (fun _ => none) "project" .shipTo shipTo .default,
      .commit (fun _ => none) "project" .installAt installAt .default]
    let store := (empty stamps).applyAll changes
    ∃ (text : List Char) (table : Table),
      (Sheet.ofAddresses .installAt (store.registry.select "project" .installAt)
        (Sheet.shipToNames (store.registry.select "project" .shipTo))).render = .ok text ∧
      Table.parse .csv (.bytes (Text.Utf8.encode text) "ascii") = .ok table ∧
      List.Forall₂ store.Restores
        ((Columns.ofHeaders (Schema.fields .installAt) table.headers).rows table.rows)
        (store.registry.select "project" .installAt) := by
  intro stamps shipTo installAt changes store
  let before := (empty stamps).create (shipTo.map
    (CommitJob.ofCommit "project" .shipTo .default ((empty stamps).shipToAnswer "project")).newAddress)
  let after := before.create (installAt.map
    (CommitJob.ofCommit "project" .installAt .default (before.shipToAnswer "project")).newAddress)
  have hbefore : (empty stamps).apply (.commit (fun _ => none) "project" .shipTo shipTo .default) =
      before := by
    have hclean : (CommitJob.ofCommit "project" .shipTo .default
        ((empty stamps).shipToAnswer "project")).cleanRows (fun _ => none) shipTo = shipTo := by
      decide +kernel
    rw [apply_commit, sources, if_pos (errorsOf_eq_nil rfl (by decide +kernel) (by decide +kernel)),
      hclean]
    rfl
  have hafter : before.apply (.commit (fun _ => none) "project" .installAt installAt .default) =
      after := by
    have hclean : (CommitJob.ofCommit "project" .installAt .default
        (before.shipToAnswer "project")).cleanRows (fun _ => none) installAt = installAt := by
      decide +kernel
    rw [apply_commit, sources, if_pos (errorsOf_eq_nil rfl (by decide +kernel) (by decide +kernel)),
      hclean]
    rfl
  have hstore : store = after := by
    rw [← hafter, ← hbefore]
    rfl
  have hdistinct : ∀ m n, m < n → n < ((empty stamps).allSources changes).length →
      (stamps m).id ≠ (stamps n).id := by
    intro m n hlt hbound
    have hfew : n < 2 := Nat.lt_of_lt_of_le hbound (allSources_sublist_rows _ _).length_le
    obtain ⟨rfl, rfl⟩ : m = 0 ∧ n = 1 := by omega
    decide
  have hsome : store.registry.select "project" .installAt ≠ [] := by
    rw [hstore]
    decide +kernel
  have hbinary : ∀ address ∈ store.registry.addresses, address.project = "project" →
      ∀ field ∈ Schema.commonFields, ∀ value ∈ address.fields.get? field.key,
        '\x00' ∉ value.toList := by
    rw [hstore]
    decide +kernel
  have hutf8 : Text.Encoding.ofDetected "ascii" = "utf-8" := by decide
  obtain ⟨text, table, hrender, hparse, _, _, hrows, _⟩ := exports_can_be_uploaded_again stamps
    changes hdistinct "project" .installAt hsome hbinary hutf8
  exact ⟨text, table, hrender, hparse, hrows⟩

end MemoryStore

end AddressIntake

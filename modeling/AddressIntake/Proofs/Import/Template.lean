import AddressIntake.Proofs.Import.Upload
import AddressIntake.Proofs.Naming
import AddressIntake.Proofs.Rendering
import AddressIntake.Proofs.ShipToLookup
import AddressIntake.Proofs.Store.Outcome

namespace AddressIntake

open Pipeline

namespace Row

/-- The row that holds the sample of each field. -/
def sample (kind : AddressKind) : Row :=
  (Columns.ofKeys (Schema.fields kind)).row ((Schema.fields kind).map (·.sample))

variable {kind : AddressKind}

theorem value?_sample {field : Field} (hmem : field ∈ Schema.fields kind) :
    (sample kind).value? field.key = some field.sample := by
  have hvisible : ∀ field ∈ Schema.fields kind,
      Text.isBlank field.sample = false ∧ Text.trim field.sample = field.sample :=
    Schema.forall_mem_fields (by decide) kind
  obtain ⟨hfilled, htrimmed⟩ := hvisible field hmem
  rw [sample, Columns.value?_row_ofKeys (Schema.nodup_keys_fields kind) (·.sample) hmem, hfilled,
    htrimmed, if_neg Bool.false_ne_true]

theorem isBlank_sample (kind : AddressKind) : (sample kind).isBlank = false := by
  rw [sample]
  exact Schema.fields_cases (by decide +kernel) (by decide +kernel) kind

theorem filledCount_sample (kind : AddressKind) : filledCount [sample kind] = 1 :=
  List.countP_eq_length.2 (by simp [isBlank_sample])

end Row

namespace Validation

variable {kind : AddressKind} {required : List String} {lookup : Option ShipToLookup}

/-- Samples have the format of their fields, and no field is without one. -/
theorem checkField_sample (number : Nat) {field : Field} (hmem : field ∈ Schema.fields kind) :
    checkField required number (Row.sample kind) field = [] := by
  have hformats : ∀ field ∈ Schema.fields kind,
      ∀ rule ∈ field.format, rule.accepts field.sample = true :=
    Schema.forall_mem_fields (by decide +kernel) kind
  rw [checkField_eq_nil_iff, Row.value?_sample hmem]
  refine ⟨fun _ => rfl, fun value rule hvalue hrule => ?_⟩
  rw [← Option.some.inj hvalue]
  exact hformats field hmem rule hrule

/-- The row of samples passes every check, if the ship-to address that it names is known. -/
theorem checkRows_sample
    (hknown : kind = .installAt → isKnown lookup Schema.shipToField.sample = true) :
    checkRows kind required lookup [Row.sample kind] = [] := by
  refine checkRows_eq_nil_iff.2 fun index row hrow _ => ?_
  obtain rfl : row = Row.sample kind := List.mem_singleton.1 (List.mem_of_getElem? hrow)
  refine List.append_eq_nil_iff.2
    ⟨List.flatMap_eq_nil_iff.2 fun field hmem => checkField_sample _ hmem, ?_⟩
  split
  · next hkind =>
    obtain rfl : kind = .installAt := by simpa using hkind
    have hshipTo : Schema.shipToField ∈ Schema.fields .installAt := List.mem_cons_self
    have hname : (Row.sample .installAt).value? Schema.shipToKey = some Schema.shipToField.sample :=
      Row.value?_sample hshipTo
    rw [checkReference, hname]
    exact if_pos (hknown rfl)
  · rfl

end Validation

namespace Sheet

/-- A header is a spelling of the label of its field, with the mark and without it. -/
theorem spells_templateHeader (flags : PolicyFlags) (field : Field) :
    Header.Spells field.label.toList (templateHeader flags field).toList := by
  refine templateHeader_cases (motive := fun header =>
    Header.Spells field.label.toList header.toList) flags (.refl field.label.toList) ?_
  have hsuffix : requiredSuffix.toList = [' '] ++ ['*'] := rfl
  have hmarked : Header.Spells field.label.toList
      ([] ++ field.label.toList ++ [' '] ++ ['*'] ++ []) :=
    .marked (List.forall_mem_nil _) (.refl field.label.toList) (List.forall_mem_singleton.2 rfl)
      (.star rfl) (List.forall_mem_nil _)
  rwa [List.nil_append, List.append_nil, List.append_assoc, ← hsuffix,
    ← String.toList_append] at hmarked

theorem names_templateHeader (kind : AddressKind) (flags : PolicyFlags) :
    ∀ field ∈ Schema.fields kind,
      Columns.Names (Schema.fields kind) (templateHeader flags field) field.key :=
  fun field hmem => Columns.names_iff.2 ⟨field, hmem, rfl,
    Field.isNamedBy_of_spells hmem (.inl (spells_templateHeader flags field))⟩

theorem ofHeaders_template (kind : AddressKind) (flags : PolicyFlags) :
    Columns.ofHeaders (Schema.fields kind) (template kind flags).headers =
      Columns.ofKeys (Schema.fields kind) :=
  Columns.ofHeaders_eq_ofKeys (Schema.nodup_keys_fields kind) (names_templateHeader kind flags)

/-- The file of a template: its rendered text as UTF-8, with the charset that a detector names. -/
def templateFile (kind : AddressKind) (flags : PolicyFlags) (charset : String) : Document :=
  .bytes (Text.Utf8.encode ((template kind flags).records.flatMap Delimited.writeRecord)) charset

/-- The table that is read from the file of a template. -/
def templateTable (kind : AddressKind) (flags : PolicyFlags) : Table :=
  ⟨.csv, (template kind flags).headers, [(Schema.fields kind).map (·.sample)], some "utf-8",
    some ','⟩

theorem parse_templateFile (kind : AddressKind) (flags : PolicyFlags) {charset : String}
    (hutf8 : Text.Encoding.ofDetected charset = "utf-8") :
    Table.parse .csv (templateFile kind flags charset) = .ok (templateTable kind flags) := by
  have hparse := (isUploadable_template kind flags).parse_eq_ok hutf8
  have hrows : (template kind flags).rows.map (·.map Text.trim) =
      [(Schema.fields kind).map (·.sample)] := by
    rw [template, List.map_singleton, map_trim_samples]
  rw [hrows] at hparse
  exact hparse

end Sheet

/-- The preview of a template that was not filled in: its row of samples is valid, and every column
has a field. -/
structure ValidationResult.IsOfSample (result : ValidationResult) (kind : AddressKind) : Prop where
  rows : result.rows = [Row.sample kind]
  totalRows : result.totalRows = 1
  validRows : result.validRows = 1
  isClean : result.isClean = true
  unrecognized : result.source.unrecognized = []

/-- A store from which a template for a project and kind has its flags. If the template names a
ship-to address, the store finds an address with this name. -/
structure Store.Offers {σ : Type} (store : Store (StateM σ)) (state : σ) (project : String)
    (kind : AddressKind) (flags : PolicyFlags) : Prop where
  policy : ∃ policy?, (store (.policy project kind) state).1 = .ok policy? ∧
    Policy.flagsOf policy? = flags
  shipTo : kind = .installAt → ∃ addresses,
    (store (.select project .shipTo) (store (.policy project kind) state).2).1 = .ok addresses ∧
    ∃ address ∈ addresses, address.bears Schema.shipToField.sample = true

/-- A registry that holds the policy with the flags of a template, and the ship-to address that the
template names. -/
structure Registry.Offers (registry : Registry) (project : String) (kind : AddressKind)
    (flags : PolicyFlags) : Prop where
  policy : Policy.flagsOf (registry.policy? project kind) = flags
  shipTo : kind = .installAt → ∃ address ∈ registry.select project .shipTo,
    address.bears Schema.shipToField.sample = true

variable {project : String} {kind : AddressKind} {flags : PolicyFlags}

/-- A store in memory offers what it holds. -/
theorem MemoryStore.offers {store : MemoryStore}
    (hoffers : store.registry.Offers project kind flags)
    (hreadable : kind = .installAt → store.readable = true) :
    Store.Offers answer store project kind flags where
  policy := ⟨_, rfl, hoffers.policy⟩
  shipTo hkind := by
    refine ⟨_, ?_, hoffers.shipTo hkind⟩
    simp only [answer, respond, hreadable hkind, ↓reduceIte]
    rfl

/-- A folder on a machine on which nothing goes wrong offers what its files hold. -/
theorem StoreFolder.offers {folder : String} {host : Host} {registry : Registry}
    (hhealthy : host.IsHealthy) (hloaded : loaded folder host.tree = .ok registry)
    (hoffers : registry.Offers project kind flags) :
    Store.Offers (answer Host.answer Host.fresh folder) host project kind flags where
  policy := by
    obtain ⟨count, hload⟩ := exists_load_eq folder hhealthy
    rw [hloaded] at hload
    exact ⟨_, congrArg Prod.fst (Contents.bind_eq_of_eq hload), hoffers.policy⟩
  shipTo hkind := by
    obtain ⟨⟨count, hasked⟩, _⟩ :=
      query_spec folder hhealthy (rfl : (StoreRequest.policy project kind).isQuery = true)
    have hhealthy' : (host.moved host.tree count).IsHealthy := hhealthy
    obtain ⟨count', hload⟩ := exists_load_eq folder hhealthy'
    rw [Host.moved_tree, hloaded] at hload
    rw [hasked]
    exact ⟨_, congrArg Prod.fst (Contents.bind_eq_of_eq hload), hoffers.shipTo hkind⟩

/-- Without errors all rows are valid. -/
theorem ValidationResult.validRows_summarize_nil (rows : List Row) :
    (summarize rows []).validRows = Row.filledCount rows :=
  Nat.sub_zero (Row.filledCount rows)

namespace Store.Offers

variable {σ : Type} {store : Store (StateM σ)} {state : σ}
  (hoffers : store.Offers state project kind flags)

include hoffers

/-- The lookup of a preview knows the ship-to address that a template names. -/
theorem exists_run_neededLookup :
    ∃ (lookup : Option ShipToLookup) (after : σ),
      run store (neededLookup project kind) (store (.policy project kind) state).2 =
        (lookup, after) ∧
      (kind = .installAt → Validation.isKnown lookup Schema.shipToField.sample = true) := by
  by_cases hkind : kind = .installAt
  · subst hkind
    obtain ⟨addresses, hselect, address, hmem, hbears⟩ := hoffers.shipTo rfl
    refine ⟨_, _, run_neededLookup_installAt _, fun _ => ?_⟩
    rw [hselect, ShipToLookup.ofAnswer, Validation.isKnown, Option.bind_some,
      ShipToLookup.resolve?_ofAddresses, Option.isSome_map, List.find?_isSome]
    exact ⟨address, hmem, hbears⟩
  · exact ⟨_, _, run_neededLookup_of_ne hkind _, fun hinstall => absurd hinstall hkind⟩

/-- A preview of the row of samples finds no errors. -/
theorem exists_run_previewRows :
    ∃ after, run store (previewRows project kind [Row.sample kind]) state =
      (.ok (.summarize [Row.sample kind] []), after) := by
  obtain ⟨policy?, hpolicy, _⟩ := hoffers.policy
  obtain ⟨lookup, after, hlookup, hknown⟩ := hoffers.exists_run_neededLookup
  have hcheck := run_checkStored_of_policy (Prod.ext hpolicy rfl) hlookup [Row.sample kind]
  rw [Validation.checkRows_sample hknown] at hcheck
  exact ⟨after, run_previewRows_of_checkStored hcheck⟩

/-- A preview of the file of a template finds its row of samples, and it is valid. -/
theorem exists_run_previewUpload {charset : String}
    (hutf8 : Text.Encoding.ofDetected charset = "utf-8") :
    ∃ (result : ValidationResult) (after : σ),
      run store (previewUpload (Sheet.templateFile kind flags charset) .csv project kind) state =
        (.ok result, after) ∧
      result.IsOfSample kind := by
  obtain ⟨after, hrun⟩ := hoffers.exists_run_previewRows
  refine ⟨_, after, run_previewUpload_of_run_previewRows (Sheet.parse_templateFile kind flags hutf8)
    (Sheet.ofHeaders_template kind flags) hrun, ?_⟩
  exact {
    rows := rfl
    totalRows := Row.filledCount_sample kind
    validRows := (ValidationResult.validRows_summarize_nil _).trans (Row.filledCount_sample kind)
    isClean := rfl
    unrecognized := rfl }

end Store.Offers

namespace Sheet

/-- A template under any flags is accepted as it is. Its headers carry the mark exactly in the
columns of required fields. Its text is read as a table whose columns hold the fields in their order,
with no header left over. Where the flags come from the policy of the store, and the ship-to address
exists that an install-at template names, the preview finds one row, and it is valid. A store in
memory and a folder offer the policy and the address as soon as they hold them. -/
theorem templates_are_accepted (kind : AddressKind) (flags : PolicyFlags) {charset : String}
    (hutf8 : Text.Encoding.ofDetected charset = "utf-8") :
    List.Forall₂ (fun field header => requiredSuffix.toList <:+ header.toList ↔
      field.key ∈ Policy.requiredKeys (Schema.fields kind) flags)
      (Schema.fields kind) (template kind flags).headers ∧
    ∃ (text : List Char) (table : Table), (template kind flags).render = .ok text ∧
      let document := Document.bytes (Text.Utf8.encode text) charset
      Table.parse .csv document = .ok table ∧
      let columns := Columns.ofHeaders (Schema.fields kind) table.headers
      columns.keys = (Schema.fields kind).map (some ·.key) ∧ columns.unrecognized = [] ∧
      ∀ project : String,
        (∀ {σ : Type} (store : Store (StateM σ)) (state : σ),
          store.Offers state project kind flags →
          ∃ (result : ValidationResult) (after : σ),
            run store (previewUpload document .csv project kind) state = (.ok result, after) ∧
            result.IsOfSample kind) ∧
        (∀ store : MemoryStore, store.registry.Offers project kind flags →
          (kind = .installAt → store.readable = true) →
          Store.Offers MemoryStore.answer store project kind flags) ∧
        ∀ (folder : String) (host : Host) (registry : Registry), host.IsHealthy →
          StoreFolder.loaded folder host.tree = .ok registry →
          registry.Offers project kind flags →
          Store.Offers (StoreFolder.answer Host.answer Host.fresh folder) host project kind
            flags := by
  have hcolumns : Columns.ofHeaders (Schema.fields kind) (templateTable kind flags).headers =
      Columns.ofKeys (Schema.fields kind) := ofHeaders_template kind flags
  refine ⟨?marks, _, templateTable kind flags, (isRectangular_template kind flags).render_eq_ok,
    parse_templateFile kind flags hutf8, ?_, ?_, fun project =>
      ⟨fun store state hoffers => hoffers.exists_run_previewUpload hutf8,
        fun store hoffers hreadable => MemoryStore.offers hoffers hreadable,
        fun folder host registry hhealthy hloaded hoffers =>
          StoreFolder.offers hhealthy hloaded hoffers⟩⟩
  case marks =>
    exact List.forall₂_map_right_iff.2 (List.forall₂_same.2 fun field hmem =>
      requiredSuffix_isSuffix_templateHeader_iff kind flags hmem)
  all_goals rw [hcolumns]; rfl

/-- A policy with a flag of a common field, one of a field that is required anyway and one of no
field, for install-at addresses in memory, and no policy at all for bill-to addresses in a new
folder. -/
theorem templates_are_accepted_with_unknown_flags :
    let flags : PolicyFlags := .ofList [("phone", true), ("city", false), ("fax", true)]
    let fields := AddressFields.ofRow (.ofList [("company_name", " Acme Corporation")])
    let acme : Address := ⟨.zero, "project", .shipTo, fields, none, .epoch⟩
    let store : MemoryStore := { MemoryStore.empty fun _ => ⟨.zero, .epoch⟩ with
      registry := ⟨[acme], [⟨"project", .installAt, flags, .epoch⟩]⟩ }
    let host := Host.working (StoreFolder.make FileTree.answer "data" .empty).2
      fun _ => ⟨.zero, .epoch⟩
    (∃ (text : List Char) (result : ValidationResult) (after : MemoryStore),
      (template .installAt flags).render = .ok text ∧
      run MemoryStore.answer
        (previewUpload (.bytes (Text.Utf8.encode text) "ascii") .csv "project" .installAt) store =
        (.ok result, after) ∧ result.IsOfSample .installAt) ∧
    ∃ (text : List Char) (result : ValidationResult) (after : Host),
      (template .billTo .empty).render = .ok text ∧
      run (StoreFolder.answer Host.answer Host.fresh "data")
        (previewUpload (.bytes (Text.Utf8.encode text) "ascii") .csv "project" .billTo) host =
        (.ok result, after) ∧ result.IsOfSample .billTo := by
  intro flags fields acme store host
  have hutf8 : Text.Encoding.ofDetected "ascii" = "utf-8" := by decide
  refine ⟨?memory, ?folder⟩
  case memory =>
    obtain ⟨_, text, _, htext, _, _, _, hstores⟩ := templates_are_accepted .installAt flags hutf8
    obtain ⟨haccepted, hmemory, _⟩ := hstores "project"
    have hoffers : store.registry.Offers "project" .installAt flags :=
      ⟨by decide, fun _ => ⟨acme, by decide, by decide⟩⟩
    obtain ⟨result, after, hrun, hresult⟩ :=
      haccepted _ store (hmemory store hoffers fun _ => rfl)
    exact ⟨text, result, after, htext, hrun, hresult⟩
  case folder =>
    obtain ⟨_, text, _, htext, _, _, _, hstores⟩ := templates_are_accepted .billTo .empty hutf8
    obtain ⟨haccepted, _, hfolder⟩ := hstores "project"
    have hoffers : Registry.empty.Offers "project" .billTo .empty := ⟨rfl, by simp⟩
    obtain ⟨result, after, hrun, hresult⟩ :=
      haccepted _ host (hfolder "data" host .empty (fun _ => rfl) rfl hoffers)
    exact ⟨text, result, after, htext, hrun, hresult⟩

end Sheet

end AddressIntake

import AddressIntake.Proofs.Import.Persistence
import AddressIntake.Proofs.Import.Summary

namespace AddressIntake

/-- Rows that pass the check are not bad, unless the store refuses their addresses. -/
theorem CommitJob.isBad_eq_false_of_clean (project : String) (options : CommitOptions)
    {kind : AddressKind} {rows : List Row} {answer : Except StoreError (List Address)}
    {flags : PolicyFlags} {refuses : NewAddress → Option String} (hnever : ∀ new, refuses new = none)
    (hclean : Validation.checkRows kind (Policy.requiredKeys (Schema.fields kind) flags)
      (ShipToLookup.needed kind answer) rows = []) :
    ∀ row ∈ rows, (CommitJob.ofCommit project kind options answer).isBad refuses row = false := by
  intro row hmem
  obtain ⟨index, hrow⟩ := List.mem_iff_getElem?.1 hmem
  cases hblank : row.isBlank with
  | true => simp [isBad, hblank]
  | false =>
    have hpassed := Validation.checkRows_eq_nil_iff.1 hclean index row hrow hblank
    have hknown : (CommitJob.ofCommit project kind options answer).isDangling row = false := by
      by_cases hkind : kind = .installAt
      · subst hkind
        obtain ⟨name, id, hname, hid⟩ := Validation.resolves_of_checkRow_eq_nil
          (Policy.shipToKey_mem_requiredKeys flags) hpassed
        simp [isDangling, shipTo?, ofCommit, hname, hid]
      · simp [isDangling, ofCommit, hkind]
    simp [isBad, hknown, hnever]

namespace MemoryStore

open Pipeline

variable (store : MemoryStore) (project : String) (kind : AddressKind) (rows : List Row)

theorem run_answer_previewRows :
    run answer (previewRows project kind rows) store =
      (.ok (.summarize rows (store.errorsOf project kind rows (store.shipToAnswer project))),
        store) :=
  run_previewRows_of_checkStored (run_answer_checkStored store project kind rows)

/-- What a commit leaves behind that wrote every row which is not blank: a result without failures,
and after the stored addresses a record for each of the rows, in their order. -/
structure ImportsAll (options : CommitOptions) (result : ImportResult) (after : MemoryStore) :
    Prop where
  total : result.totalRows = Row.filledCount rows
  imported : result.imported = Row.filledCount rows
  failed : result.failed = 0
  rolledBack : result.rolledBack = false
  committed : ∀ report ∈ result.chunks, report.state = .committed
  addresses : after.registry.addresses = store.registry.addresses ++ store.recordsOf
    (.ofCommit project kind options (store.shipToAnswer project)) (rows.filter (!·.isBlank))
  policies : after.registry.policies = store.registry.policies
  issued : after.issued = store.issued + Row.filledCount rows
  stamps : after.stamps = store.stamps
  readable : after.readable = store.readable
  refuses : after.refuses = store.refuses

variable {store project kind rows} in
/-- A commit to a store that refuses nothing writes all rows if the check finds no errors. -/
theorem importsAll_of_errorsOf_eq_nil (hnever : ∀ new, store.refuses new = none)
    (hclean : store.errorsOf project kind rows (store.shipToAnswer project) = [])
    (options : CommitOptions) :
    ∃ (result : ImportResult) (after : MemoryStore),
      run answer (commitRows project kind rows options) store = (.ok result, after) ∧
      store.ImportsAll project kind rows options result after := by
  obtain ⟨_, hwritten⟩ := run_answer_commitRows store project kind rows options
  obtain ⟨hafter, attempts, hchunks, hresult, hattempts⟩ := hwritten hclean
  have hsize := CommitJob.chunkSize_ofCommit_pos project kind options (store.shipToAnswer project)
  have hgood := CommitJob.isBad_eq_false_of_clean project options hnever hclean
  have hok : ∀ attempt ∈ attempts, ∃ records, attempt.outcome = .ok records ∧
      records.length = Row.filledCount attempt.chunk := by
    intro attempt hmem
    refine hattempts attempt hmem (List.any_eq_false.2 fun row hrow => ?_)
    have hrows : row ∈ rows := by
      rw [← flatten_chunksOf hsize rows, ← hchunks]
      exact List.mem_flatten.2 ⟨attempt.chunk, List.mem_map_of_mem hmem, hrow⟩
    rw [hgood row hrows]
    exact Bool.false_ne_true
  obtain ⟨himported, hfailed, hrolledBack, hcommitted⟩ :=
    CommitJob.summary_of_all_committed hsize hchunks hok (Row.filledCount rows)
  rw [CommitJob.cleanRows_eq_filter _ _ hgood] at hafter
  refine ⟨_, _, Prod.ext hresult hafter, ?_⟩
  exact {
    total := rfl
    imported := himported
    failed := hfailed
    rolledBack := hrolledBack
    committed := hcommitted
    addresses := addresses_create_map ..
    policies := rfl
    issued := by simp [Row.filledCount, List.countP_eq_length_filter]
    stamps := rfl
    readable := rfl
    refuses := rfl }

/-- While a store in memory does not change and refuses nothing, a preview tells how a commit of the
same rows ends. After a clean preview every row that is not blank is written, in row order and after
what is stored; otherwise the commit gives the errors of the preview and leaves the store as it is. -/
theorem commitRows_as_previewed (hnever : ∀ new, store.refuses new = none)
    (options : CommitOptions) :
    ∃ (preview : ValidationResult) (result : ImportResult) (after : MemoryStore),
      run answer (previewRows project kind rows) store = (.ok preview, store) ∧
      run answer (commitRows project kind rows options) store = (.ok result, after) ∧
      (preview.isClean = true ↔ result.rolledBack = false) ∧
      (preview.isClean = true →
        result.imported = result.totalRows ∧ result.totalRows = preview.validRows ∧
        result.failed = 0 ∧ (∀ report ∈ result.chunks, report.state = .committed) ∧
        after.registry.addresses = store.registry.addresses ++ store.recordsOf
          (.ofCommit project kind options (store.shipToAnswer project)) (rows.filter (!·.isBlank)) ∧
        after.registry.policies = store.registry.policies) ∧
      (preview.isClean = false →
        result.errors = preview.errors ∧ result.imported = 0 ∧
        result.failed = preview.totalRows ∧ result.chunks = [] ∧ after = store) := by
  have hpreview := run_answer_previewRows store project kind rows
  by_cases herrors : store.errorsOf project kind rows (store.shipToAnswer project) = []
  · obtain ⟨result, after, hcommit, himports⟩ := importsAll_of_errorsOf_eq_nil hnever herrors options
    refine ⟨_, result, after, hpreview, hcommit, ?_, ?_, ?_⟩
    · simp [ValidationResult.isClean, ValidationResult.summarize, herrors, himports.rolledBack]
    · intro _
      refine ⟨himports.imported.trans himports.total.symm, himports.total.trans ?_, himports.failed,
        himports.committed, himports.addresses, himports.policies⟩
      simp [ValidationResult.summarize, herrors, Validation.errorRowCount, Validation.distinct]
    · intro hunclean
      simp [ValidationResult.isClean, ValidationResult.summarize, herrors] at hunclean
  · have hcommit := (run_answer_commitRows store project kind rows options).1 herrors
    refine ⟨_, _, _, hpreview, hcommit, ?_, ?_, ?_⟩
    · simp [ValidationResult.isClean, ValidationResult.summarize, ImportResult.refused, herrors]
    · intro hclean
      simp [ValidationResult.isClean, ValidationResult.summarize, herrors] at hclean
    · intro _
      exact ⟨rfl, rfl, rfl, rfl, rfl⟩

/-- A blank row, and a row that names a ship-to address which one of two projects has. In this project
the rows are found to be valid and the second one is written; in the other one neither happens. -/
theorem commitRows_as_previewed_in_two_projects :
    let stamps (n : Nat) : Stamp := ⟨⟨List.replicate 31 0 ++ [Fin.ofNat 16 n], rfl⟩, .epoch⟩
    let acme : Address := ⟨(stamps 0).id, "project", .shipTo, .ofRow (.ofList [("address_line1",
      "1 Main St"), ("city", "Salem"), ("company_name", "Acme"), ("country", "US"),
      ("state", "OR")]), none, .epoch⟩
    let row : Row := .ofList [("address_line1", "2 Main St"), ("city", "Salem"), ("country", "US"),
      ("ship_to_name", "Acme"), ("state", "OR")]
    let rows := [.ofList [], row]
    let store : MemoryStore := ⟨⟨[acme], []⟩, stamps, 1, true, fun _ => none⟩
    (∃ (preview : ValidationResult) (result : ImportResult) (after : MemoryStore),
      run answer (previewRows "project" .installAt rows) store = (.ok preview, store) ∧
      run answer (commitRows "project" .installAt rows .default) store = (.ok result, after) ∧
      preview.isClean = true ∧ result.rolledBack = false ∧ result.imported = 1 ∧
      after.registry = ⟨[acme, ⟨(stamps 1).id, "project", .installAt, .ofRow row, some acme.id,
        .epoch⟩], []⟩) ∧
    ∃ (preview : ValidationResult) (result : ImportResult),
      run answer (previewRows "other" .installAt rows) store = (.ok preview, store) ∧
      run answer (commitRows "other" .installAt rows .default) store = (.ok result, store) ∧
      preview.isClean = false ∧ result.rolledBack = true ∧ result.errors = preview.errors := by
  intro stamps acme row rows store
  constructor
  · obtain ⟨preview, result, after, hpreview, hcommit, hsame, hwritten, _⟩ :=
      commitRows_as_previewed store "project" .installAt rows (fun _ => rfl) .default
    have herrors : store.errorsOf "project" .installAt rows (store.shipToAnswer "project") = [] :=
      errorsOf_eq_nil rfl (by decide +kernel) (by decide +kernel)
    have hvalid : preview = .summarize rows [] := by
      rw [run_answer_previewRows, herrors, Prod.mk.injEq, Except.ok.injEq] at hpreview
      exact hpreview.1.symm
    have hclean : preview.isClean = true := by
      rw [hvalid]
      rfl
    obtain ⟨himported, htotal, _, _, haddresses, hpolicies⟩ := hwritten hclean
    have hcount : result.imported = 1 := by
      rw [himported, htotal, hvalid]
      decide +kernel
    have hafter : after.registry = ⟨[acme, ⟨(stamps 1).id, "project", .installAt, .ofRow row,
        some acme.id, .epoch⟩], []⟩ :=
      congrArg₂ Registry.mk (haddresses.trans (by decide +kernel)) hpolicies
    exact ⟨preview, result, after, hpreview, hcommit, hclean, hsame.1 hclean, hcount, hafter⟩
  · obtain ⟨preview, result, after, hpreview, hcommit, hsame, _, hrefused⟩ :=
      commitRows_as_previewed store "other" .installAt rows (fun _ => rfl) .default
    have herrors : store.errorsOf "other" .installAt rows (store.shipToAnswer "other") ≠ [] := by
      intro hclean
      have hrow := Validation.checkRows_eq_nil_iff.1 hclean 1 row rfl (by decide)
      obtain ⟨name, id, _, hid⟩ :=
        Validation.resolves_of_checkRow_eq_nil (Policy.shipToKey_mem_requiredKeys _) hrow
      cases hid
    have hunclean : preview.isClean = false := by
      rw [run_answer_previewRows, Prod.mk.injEq, Except.ok.injEq] at hpreview
      rw [← hpreview.1]
      simp [ValidationResult.isClean, ValidationResult.summarize, herrors]
    obtain ⟨hresult, _, _, _, rfl⟩ := hrefused hunclean
    refine ⟨preview, result, hpreview, hcommit, hunclean, ?_, hresult⟩
    simpa [hunclean] using hsame

end MemoryStore

end AddressIntake

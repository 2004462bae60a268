import AddressIntake.Proofs.Import.CleanRows
import AddressIntake.Proofs.Validation

namespace AddressIntake

/-- The lookup that rows of a kind get from an answer to the query for ship-to addresses. -/
def ShipToLookup.needed (kind : AddressKind) (answer : Except StoreError (List Address)) :
    Option ShipToLookup :=
  if kind = .installAt then some (.ofAnswer answer) else none

/-- The job of a commit whose lookup is built from an answer to the query for ship-to addresses. -/
def CommitJob.ofCommit (project : String) (kind : AddressKind) (options : CommitOptions)
    (answer : Except StoreError (List Address)) : CommitJob :=
  ⟨project, kind, max options.chunkSize 1, ShipToLookup.needed kind answer⟩

theorem CommitJob.chunkSize_ofCommit_pos (project : String) (kind : AddressKind)
    (options : CommitOptions) (answer : Except StoreError (List Address)) :
    0 < (CommitJob.ofCommit project kind options answer).chunkSize :=
  Nat.lt_of_lt_of_le Nat.one_pos (Nat.le_max_right ..)

namespace MemoryStore

open Pipeline

/-- The answer to a query for the ship-to addresses of a project. -/
def shipToAnswer (store : MemoryStore) (project : String) : Except StoreError (List Address) :=
  (respond (.select project .shipTo) store).1

/-- The errors of rows under the stored policy, with the names in an answer to the query for ship-to
addresses. -/
def errorsOf (store : MemoryStore) (project : String) (kind : AddressKind) (rows : List Row)
    (answer : Except StoreError (List Address)) : List RowError :=
  Validation.checkRows kind
    (Policy.requiredKeys (Schema.fields kind)
      (Policy.flagsOf (store.registry.policy? project kind)))
    (ShipToLookup.needed kind answer) rows

/-- Without a policy, a commit of admissible rows that name known ship-to addresses finds no
errors. -/
theorem errorsOf_eq_nil {store : MemoryStore} {project : String} {kind : AddressKind}
    {rows : List Row} {answer : Except StoreError (List Address)}
    (hpolicy : store.registry.policy? project kind = none)
    (hrows : ∀ row ∈ rows, row.isBlank = false → row.IsAdmissible kind)
    (hknown : kind = .installAt → ∀ row ∈ rows, ∀ name ∈ row.value? Schema.shipToKey,
      Validation.isKnown (ShipToLookup.needed kind answer) name = true) :
    store.errorsOf project kind rows answer = [] := by
  rw [errorsOf, hpolicy]
  exact Validation.checkRows_eq_nil_of_isAdmissible hrows hknown

variable (drift : Drift) (store : MemoryStore) (asked : Nat) (project : String)
  (kind : AddressKind) (rows : List Row)

theorem run_neededLookup :
    run (Store.drifting drift answer) (neededLookup project kind) (store, asked) =
      (ShipToLookup.needed kind (drift asked (store.shipToAnswer project)),
        (store, if kind = .installAt then asked + 1 else asked)) := by
  by_cases hkind : kind = .installAt
  · subst hkind
    exact run_neededLookup_installAt (store, asked)
  · simp only [ShipToLookup.needed, if_neg hkind]
    exact run_neededLookup_of_ne hkind (store, asked)

theorem run_checkStored :
    run (Store.drifting drift answer) (checkStored project kind rows) (store, asked) =
      (.ok (store.errorsOf project kind rows (drift asked (store.shipToAnswer project))),
        (store, if kind = .installAt then asked + 1 else asked)) :=
  run_checkStored_of_policy rfl (run_neededLookup drift store asked project kind) rows

/-- A commit asks for the ship-to addresses of install-at rows twice, for the check and for the
lookup. If the check finds no errors, every chunk is attempted, and the clean rows are written. -/
theorem run_commitRows_attempts (options : CommitOptions) :
    let first := drift asked (store.shipToAnswer project)
    let second := drift (asked + 1) (store.shipToAnswer project)
    let job := CommitJob.ofCommit project kind options second
    let outcome :=
      run (Store.drifting drift answer) (commitRows project kind rows options) (store, asked)
    let errors := store.errorsOf project kind rows first
    (errors ≠ [] → outcome.1 = .ok (.refused (Row.filledCount rows) errors) ∧ outcome.2.1 = store) ∧
    (errors = [] →
      outcome.2.1 = store.create ((job.cleanRows store.refuses rows).map job.newAddress) ∧
      ∃ attempts : List Attempt, attempts.map (·.chunk) = chunksOf job.chunkSize rows ∧
        outcome.1 = .ok (job.summary 0 (.start (Row.filledCount rows)) attempts) ∧
        ∀ attempt ∈ attempts, attempt.IsDecided job store.refuses) := by
  intro first second job outcome errors
  obtain ⟨transcript, hends, hfollows⟩ := exists_transcript_run
    (Store.drifting drift answer) (commitRows project kind rows options) (store, asked)
  have hcheck := run_checkStored drift store asked project kind rows
  rcases ends_commitRows_iff.1 hends with ⟨e, hfailed, _⟩ | ⟨found, hne, hfound, hresult⟩ |
    ⟨before, between, lookup, attempts, hclean, hlookup, hchunks, rfl, hresult⟩
  · rw [run_eq_iff.2 ⟨transcript, hfailed, hfollows⟩] at hcheck
    cases hcheck
  · rw [run_eq_iff.2 ⟨transcript, hfound, hfollows⟩] at hcheck
    obtain ⟨herrors, hstate⟩ := Prod.mk.inj hcheck
    obtain rfl : found = errors := Except.ok.inj herrors
    exact ⟨fun _ => ⟨hresult, congrArg Prod.fst hstate⟩, fun hempty => absurd hempty hne⟩
  · obtain ⟨checked, hbefore, hfollows⟩ := Transcript.follows_append_iff.1 hfollows
    rw [run_eq_iff.2 ⟨before, hclean, hbefore⟩] at hcheck
    obtain ⟨herrors, hstate⟩ := Prod.mk.inj hcheck
    have hempty : errors = [] := (Except.ok.inj herrors).symm
    refine ⟨fun hne => absurd hempty hne, fun _ => ?_⟩
    subst hstate
    obtain ⟨looked, hbetween, hfollows⟩ := Transcript.follows_append_iff.1 hfollows
    have hneeded := run_eq_iff.2 ⟨between, hlookup, hbetween⟩
    rw [run_neededLookup] at hneeded
    obtain ⟨hfound, hstate⟩ := Prod.mk.inj hneeded
    subst hstate
    have hsecond : lookup = ShipToLookup.needed kind second := by
      rw [← hfound]
      by_cases hkind : kind = .installAt <;> simp [ShipToLookup.needed, hkind, second]
    subst hsecond
    change attempts.map (·.chunk) = chunksOf job.chunkSize rows at hchunks
    have hexchanges : Transcript.Follows answer store (job.exchanges 0 attempts) outcome.2.1 :=
      (Store.follows_drifting_exchanges_iff.1 hfollows).1
    obtain ⟨hafter, hattempts⟩ := follows_exchanges hexchanges
    have hsize := CommitJob.chunkSize_ofCommit_pos project kind options second
    refine ⟨?_, attempts, hchunks, hresult, hattempts⟩
    rw [hafter, job.map_newAddress_cleanRows store.refuses hsize, ← hchunks, List.flatMap_map]

/-- In a commit whose check finds no errors, every chunk without bad rows is written whole. -/
theorem run_commitRows (options : CommitOptions) :
    let first := drift asked (store.shipToAnswer project)
    let second := drift (asked + 1) (store.shipToAnswer project)
    let job := CommitJob.ofCommit project kind options second
    let outcome :=
      run (Store.drifting drift answer) (commitRows project kind rows options) (store, asked)
    let errors := store.errorsOf project kind rows first
    (errors ≠ [] → outcome.1 = .ok (.refused (Row.filledCount rows) errors) ∧ outcome.2.1 = store) ∧
    (errors = [] →
      outcome.2.1 = store.create ((job.cleanRows store.refuses rows).map job.newAddress) ∧
      ∃ attempts : List Attempt, attempts.map (·.chunk) = chunksOf job.chunkSize rows ∧
        outcome.1 = .ok (job.summary 0 (.start (Row.filledCount rows)) attempts) ∧
        ∀ attempt ∈ attempts, attempt.chunk.any (job.isBad store.refuses) = false →
          ∃ records, attempt.outcome = .ok records ∧
            records.length = Row.filledCount attempt.chunk) := by
  intro first second job outcome errors
  obtain ⟨hrefused, hwritten⟩ :=
    run_commitRows_attempts drift store asked project kind rows options
  refine ⟨hrefused, fun hclean => ?_⟩
  obtain ⟨hafter, attempts, hchunks, hresult, hdecided⟩ := hwritten hclean
  exact ⟨hafter, attempts, hchunks, hresult, fun attempt hmem => (hdecided attempt hmem).committed⟩

theorem run_answer_checkStored :
    run answer (checkStored project kind rows) store =
      (.ok (store.errorsOf project kind rows (store.shipToAnswer project)), store) := by
  obtain ⟨total, hrun⟩ := Store.run_drifting_id answer (checkStored project kind rows) store 0
  rw [run_checkStored] at hrun
  obtain ⟨hvalue, hstate⟩ := Prod.mk.inj hrun
  exact Prod.ext hvalue.symm (congrArg Prod.fst hstate).symm

/-- Without drift, the check and the lookup of a commit get the same answer. -/
theorem run_answer_commitRows (options : CommitOptions) :
    let job := CommitJob.ofCommit project kind options (store.shipToAnswer project)
    let outcome := run answer (commitRows project kind rows options) store
    let errors := store.errorsOf project kind rows (store.shipToAnswer project)
    (errors ≠ [] → outcome = (.ok (.refused (Row.filledCount rows) errors), store)) ∧
    (errors = [] →
      outcome.2 = store.create ((job.cleanRows store.refuses rows).map job.newAddress) ∧
      ∃ attempts : List Attempt, attempts.map (·.chunk) = chunksOf job.chunkSize rows ∧
        outcome.1 = .ok (job.summary 0 (.start (Row.filledCount rows)) attempts) ∧
        ∀ attempt ∈ attempts, attempt.chunk.any (job.isBad store.refuses) = false →
          ∃ records, attempt.outcome = .ok records ∧
            records.length = Row.filledCount attempt.chunk) := by
  intro job outcome errors
  obtain ⟨asked, hrun⟩ := Store.run_drifting_id answer (commitRows project kind rows options) store 0
  obtain ⟨hrefused, hwritten⟩ :=
    run_commitRows (fun _ answer => answer) store 0 project kind rows options
  rw [hrun] at hrefused hwritten
  exact ⟨fun herrors => Prod.ext (hrefused herrors).1 (hrefused herrors).2, hwritten⟩

/-- After a commit whose check finds no errors, the stored addresses are those from before and then,
in row order, one record for each row that is not blank and lies in a chunk without bad rows. The
check and the commit ask for the ship-to addresses separately, and each may get any answer: the
references are those of the second one. A commit whose check finds errors changes nothing. -/
theorem commitRows_stores_clean_rows (options : CommitOptions) :
    let drifting := Store.drifting drift answer
    let check := run drifting (checkStored project kind rows) (store, 0)
    let commit := run drifting (commitRows project kind rows options) (store, 0)
    let job := CommitJob.ofCommit project kind options (drift 1 (store.shipToAnswer project))
    (check.1 = .ok [] →
      commit.2.1.registry.addresses =
        store.registry.addresses ++ store.recordsOf job (job.cleanRows store.refuses rows) ∧
      commit.2.1.registry.policies = store.registry.policies) ∧
    (check.1 ≠ .ok [] → commit.2.1 = store) := by
  intro drifting check commit job
  obtain ⟨hrefused, hwritten⟩ := run_commitRows drift store 0 project kind rows options
  have hcheck : check.1 =
      .ok (store.errorsOf project kind rows (drift 0 (store.shipToAnswer project))) :=
    congrArg Prod.fst (run_checkStored drift store 0 project kind rows)
  constructor
  · intro hclean
    rw [hcheck, Except.ok.injEq] at hclean
    have hafter : commit.2.1 =
        store.create ((job.cleanRows store.refuses rows).map job.newAddress) := (hwritten hclean).1
    rw [hafter]
    exact ⟨addresses_create_map .., rfl⟩
  · intro herrors
    rw [hcheck, ne_eq, Except.ok.injEq] at herrors
    exact (hrefused herrors).2

/-- Five rows in chunks of two, the second row blank. The name in the third row is lost before the
rows are written, and with it the chunk; the chunks around it are stored. -/
theorem commitRows_stores_clean_rows_around_a_lost_chunk :
    let stamps (n : Nat) : Stamp := ⟨⟨List.replicate 31 0 ++ [Fin.ofNat 16 n], rfl⟩, .epoch⟩
    let shipTo (name : String) : Row := .ofList [("address_line1", "1 Main St"), ("city", "Salem"),
      ("company_name", name), ("country", "US"), ("state", "OR")]
    let installAt (street name : String) : Row := .ofList [("address_line1", street),
      ("city", "Salem"), ("country", "US"), ("ship_to_name", name), ("state", "OR")]
    let acme : Address :=
      ⟨(stamps 0).id, "project", .shipTo, .ofRow (shipTo "Acme"), none, .epoch⟩
    let bolt : Address :=
      ⟨(stamps 1).id, "project", .shipTo, .ofRow (shipTo "Bolt"), none, .epoch⟩
    let policy : Policy := ⟨"project", .shipTo, .empty, .epoch⟩
    let store : MemoryStore := ⟨⟨[acme, bolt], [policy]⟩, stamps, 2, true, fun _ => none⟩
    let drifting := Store.drifting (fun asked answer =>
      if asked = 0 then answer else answer.map (·.take 1)) answer
    let rows := [installAt "2 Main St" "Acme", .ofList [], installAt "3 Main St" "Bolt",
      installAt "4 Main St" "Acme", installAt "5 Main St" "Acme"]
    let commit := run drifting (commitRows "project" .installAt rows ⟨2⟩) (store, 0)
    (run drifting (checkStored "project" .installAt rows) (store, 0)).1 = .ok [] ∧
    commit.2.1.registry.addresses = [acme, bolt,
      ⟨(stamps 2).id, "project", .installAt, .ofRow (installAt "2 Main St" "Acme"), some acme.id,
        .epoch⟩,
      ⟨(stamps 3).id, "project", .installAt, .ofRow (installAt "5 Main St" "Acme"), some acme.id,
        .epoch⟩] ∧
    commit.2.1.registry.policies = [policy] := by
  intro stamps shipTo installAt acme bolt policy store drifting rows commit
  let drift : Drift := fun asked answer => if asked = 0 then answer else answer.map (·.take 1)
  have hclean : store.errorsOf "project" .installAt rows
      (drift 0 (store.shipToAnswer "project")) = [] :=
    errorsOf_eq_nil rfl (by decide +kernel) (by decide +kernel)
  have hcheck : (run drifting (checkStored "project" .installAt rows) (store, 0)).1 = .ok [] :=
    (congrArg Prod.fst (run_checkStored drift store 0 "project" .installAt rows)).trans
      (congrArg Except.ok hclean)
  obtain ⟨haddresses, hpolicies⟩ :=
    (commitRows_stores_clean_rows drift store "project" .installAt rows ⟨2⟩).1 hcheck
  exact ⟨hcheck, haddresses.trans (by decide +kernel), hpolicies⟩

end MemoryStore

end AddressIntake

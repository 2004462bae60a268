import AddressIntake.Proofs.Import.Chunk
import AddressIntake.Proofs.Store.Backend
import AddressIntake.Proofs.Store.Drift

namespace AddressIntake

namespace MemoryStore

/-- The store after addresses were created. -/
def create (store : MemoryStore) (created : List NewAddress) : MemoryStore :=
  { store with
    registry := store.registry.append (store.stamped created)
    issued := store.issued + created.length }

@[simp]
theorem length_stamped (store : MemoryStore) (created : List NewAddress) :
    (store.stamped created).length = created.length := by
  simp [stamped]

/-- The records of one transaction, each with the stamp of its place. -/
theorem stamped_eq (store : MemoryStore) (created : List NewAddress) :
    store.stamped created = created.zipIdx.map fun entry =>
      Address.ofNew (store.stamps (store.issued + entry.2)) entry.1 :=
  rfl

@[simp]
theorem map_payload_stamped (store : MemoryStore) (created : List NewAddress) :
    (store.stamped created).map Address.payload = created := by
  have hpayload : Address.payload ∘
      (fun entry => Address.ofNew (store.stamps (store.issued + entry.2)) entry.1) =
        Prod.fst (α := NewAddress) (β := Nat) := rfl
  rw [stamped_eq, List.map_map, hpayload, List.zipIdx_map_fst]

theorem stamped_append (store : MemoryStore) (first second : List NewAddress) :
    store.stamped (first ++ second) =
      store.stamped first ++ (store.create first).stamped second := by
  have hshift : (second.zipIdx first.length).map
      (fun entry => Address.ofNew (store.stamps (store.issued + entry.2)) entry.1) =
      (store.create first).stamped second := by
    rw [List.zipIdx_eq_map_add, List.map_map, stamped_eq]
    congr 1
    funext entry
    simp [create, Nat.add_assoc, Nat.add_comm first.length]
  rw [← hshift, stamped_eq, stamped_eq, List.zipIdx_append, List.map_append, Nat.zero_add]

theorem create_nil (store : MemoryStore) : store.create [] = store := by
  simp [create, stamped, Registry.append]

/-- Creating addresses in two steps is creating them in one. -/
theorem create_create (store : MemoryStore) (first second : List NewAddress) :
    (store.create first).create second = store.create (first ++ second) := by
  simp only [create, stamped_append store first second, Registry.append, List.append_assoc,
    List.length_append, Nat.add_assoc]

/-- The records that rows become in a store: one for each of them, in their order and under the next
stamps. -/
def recordsOf (store : MemoryStore) (job : CommitJob) (rows : List Row) : List Address :=
  rows.zipIdx.map fun (row, i) =>
    { id := (store.stamps (store.issued + i)).id
      project := job.project
      kind := job.kind
      fields := .ofRow row
      shipTo := job.shipTo? row
      createdAt := (store.stamps (store.issued + i)).createdAt }

@[simp]
theorem length_recordsOf (store : MemoryStore) (job : CommitJob) (rows : List Row) :
    (store.recordsOf job rows).length = rows.length := by
  simp [recordsOf]

theorem stamped_map_newAddress (store : MemoryStore) (job : CommitJob) (rows : List Row) :
    store.stamped (rows.map job.newAddress) = store.recordsOf job rows := by
  rw [stamped_eq, List.zipIdx_map, List.map_map]
  rfl

/-- Creating the addresses of rows puts their records after what is stored. -/
theorem addresses_create_map (store : MemoryStore) (job : CommitJob) (rows : List Row) :
    (store.create (rows.map job.newAddress)).registry.addresses =
      store.registry.addresses ++ store.recordsOf job rows :=
  congrArg (store.registry.addresses ++ ·) (store.stamped_map_newAddress job rows)

theorem respond_transact (store : MemoryStore) (drafts : List Draft) :
    respond (.transact drafts) store =
      match stage store.refuses drafts with
      | .ok created => (.ok (store.stamped created), store.create created)
      | .error abort => (.error abort, store) := by
  rw [respond]
  cases stage store.refuses drafts <;> simp [create]

/-- A store in memory, with the addresses of its registry and those that it refuses. -/
def backend : Backend where
  State := MemoryStore
  store := answer
  held store := store.registry.addresses
  refuses store := store.refuses

/-- A transaction creates what is staged, or it fails as the staging does. -/
theorem respond_transact_cases (store : MemoryStore) (drafts : List Draft) :
    (∃ created, stage store.refuses drafts = .ok created ∧
      respond (.transact drafts) store = (.ok (store.stamped created), store.create created)) ∨
    ∃ abort, stage store.refuses drafts = .error abort ∧
      respond (.transact drafts) store = (.error abort, store) := by
  rw [respond_transact]
  cases stage store.refuses drafts with
  | ok created => exact .inl ⟨created, rfl, rfl⟩
  | error abort => exact .inr ⟨abort, rfl, rfl⟩

/-- A store in memory is sound, whatever it refuses. -/
theorem isSound_backend : backend.IsSound where
  refuses_eq request before := by
    cases request with
    | find | select | policy | savePolicy => rfl
    | transact drafts =>
      obtain ⟨_, _, hrun⟩ | ⟨_, _, hrun⟩ := respond_transact_cases before drafts
      · exact congrArg (fun answered => answered.2.refuses) hrun
      · exact congrArg (fun answered => answered.2.refuses) hrun
  held_eq request before hrequest := by
    cases request with
    | find | select | policy | savePolicy => rfl
    | transact drafts => exact absurd rfl (hrequest drafts)
  committed drafts before after records hanswer := by
    obtain ⟨created, hstage, hrun⟩ | ⟨_, _, hrun⟩ := respond_transact_cases before drafts
    · cases hrun.symm.trans hanswer
      exact ⟨hstage.trans (congrArg Except.ok (map_payload_stamped before created).symm), rfl⟩
    · cases hrun.symm.trans hanswer
  aborted drafts before after abort hanswer := by
    obtain ⟨_, _, hrun⟩ | ⟨_, hstage, hrun⟩ := respond_transact_cases before drafts
    · cases hrun.symm.trans hanswer
    · cases hrun.symm.trans hanswer
      exact ⟨.inl hstage, rfl⟩

end MemoryStore

namespace CommitJob

/-- The addresses that are created for a chunk: all of its rows, or none if one of them is bad. -/
def writtenAddresses (job : CommitJob) (refuses : NewAddress → Option String) (chunk : List Row) :
    List NewAddress :=
  if chunk.any (job.isBad refuses) then [] else job.chunkAddresses chunk

end CommitJob

namespace MemoryStore

/-- The transaction for a chunk answers with a record for every address if no row is bad. Otherwise it
fails and changes nothing. -/
theorem respond_transact_drafts (store : MemoryStore) (job : CommitJob) (offset : Nat)
    (chunk : List Row) :
    (respond (.transact (job.drafts offset chunk)) store).2 =
      store.create (job.writtenAddresses store.refuses chunk) ∧
    (chunk.any (job.isBad store.refuses) = false →
      (respond (.transact (job.drafts offset chunk)) store).1 =
        .ok (store.stamped (job.chunkAddresses chunk))) ∧
    (chunk.any (job.isBad store.refuses) = true →
      ∃ abort, (respond (.transact (job.drafts offset chunk)) store).1 = .error abort) := by
  rw [respond_transact, CommitJob.writtenAddresses]
  cases hbad : chunk.any (job.isBad store.refuses) with
  | false =>
    rw [CommitJob.stage_drafts_of_clean job store.refuses hbad]
    exact ⟨rfl, fun _ => rfl, fun hdirty => by cases hdirty⟩
  | true =>
    obtain ⟨before, row, after, rfl, hbefore, hrow⟩ := job.exists_first_isBad store.refuses hbad
    rw [job.stage_drafts_of_bad store.refuses hbefore hrow]
    exact ⟨store.create_nil.symm, fun hclean => (by cases hclean), fun _ => ⟨_, rfl⟩⟩

end MemoryStore

/-- An attempt whose outcome depends on the rows of the chunk alone: without a bad row it creates a
record for every row that is not blank, and with one it fails. -/
structure Attempt.IsDecided (job : CommitJob) (refuses : NewAddress → Option String)
    (attempt : Attempt) : Prop where
  committed : attempt.chunk.any (job.isBad refuses) = false → ∃ records,
    attempt.outcome = .ok records ∧ records.length = Row.filledCount attempt.chunk
  aborted : attempt.chunk.any (job.isBad refuses) = true → ∃ abort, attempt.outcome = .error abort

namespace MemoryStore

/-- Attempts one after the other create the addresses of the chunks without bad rows, in order. -/
theorem follows_exchanges {store after : MemoryStore} {job : CommitJob} {index : Nat}
    {attempts : List Attempt}
    (hfollows : Transcript.Follows answer store (job.exchanges index attempts) after) :
    after = store.create (attempts.flatMap fun attempt =>
        job.writtenAddresses store.refuses attempt.chunk) ∧
    ∀ attempt ∈ attempts, attempt.IsDecided job store.refuses := by
  induction attempts generalizing store index with
  | nil => exact ⟨hfollows.trans store.create_nil.symm, fun _ hmem => by cases hmem⟩
  | cons attempt attempts ih =>
    rw [CommitJob.exchanges, List.zipIdx_cons, List.map_cons] at hfollows
    obtain ⟨houtcome, hrest⟩ := hfollows
    obtain ⟨hstore, hcommitted, haborted⟩ :=
      store.respond_transact_drafts job (index * job.chunkSize) attempt.chunk
    have hbetween : (answer (job.exchange attempt index).request store).2 =
        store.create (job.writtenAddresses store.refuses attempt.chunk) := hstore
    rw [hbetween] at hrest
    obtain ⟨hafter, hothers⟩ := ih hrest
    refine ⟨?_, fun other hmem => ?_⟩
    · rw [hafter, create_create, List.flatMap_cons]
      rfl
    · rcases List.mem_cons.1 hmem with rfl | hmem
      · refine ⟨fun hclean => ⟨_, houtcome.symm.trans (hcommitted hclean), ?_⟩, fun hbad => ?_⟩
        · simp [CommitJob.chunkAddresses, Row.filledCount, List.countP_eq_length_filter]
        · obtain ⟨abort, habort⟩ := haborted hbad
          exact ⟨abort, houtcome.symm.trans habort⟩
      · exact hothers other hmem

end MemoryStore

end AddressIntake

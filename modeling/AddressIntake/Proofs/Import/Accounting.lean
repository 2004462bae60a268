import AddressIntake.Proofs.Import.Words
import AddressIntake.Proofs.Store.Folder
import AddressIntake.Proofs.Store.Memory
import AddressIntake.Proofs.Validation

namespace AddressIntake

/-- An error that tells why a chunk was given up: the name in the first bad row of the chunk is not
known, or the store is to blame, which is told at the first row of the chunk. -/
structure CommitJob.Explains (job : CommitJob) (refuses : NewAddress → Option String)
    (rows : List Row) (report : ChunkReport) (error : RowError) : Prop where
  first_le : report.firstRow ≤ error.row
  le_last : error.row ≤ report.lastRow
  cause : (error.field = "Transaction" ∧ error.row = report.firstRow) ∨
    ∃ (index : Nat) (row : Row), rows[index]? = some row ∧
      error = Validation.unresolved (Row.number index) ((row.value? Schema.shipToKey).getD "") ∧
      job.isDangling row = true ∧ job.isBad refuses row = true ∧
      ∀ (earlier : Nat) (other : Row), rows[earlier]? = some other →
        report.firstRow ≤ Row.number earlier → earlier < index → job.isBad refuses other = false

namespace CommitJob

variable {job : CommitJob} {refuses : NewAddress → Option String} {rows : List Row}
  {attempts : List Attempt}

/-- The error of an answered attempt explains the report on its chunk. -/
theorem explains_of_isAnswered (hsize : 0 < job.chunkSize)
    (hchunks : attempts.map (·.chunk) = chunksOf job.chunkSize rows) {index : Nat} {attempt : Attempt}
    (hattempt : attempts[index]? = some attempt) (hanswered : attempt.IsAnswered job refuses index)
    {error : RowError} (herror : job.chunkError? attempt index = some error) :
    job.Explains refuses rows (job.chunkReport attempt index) error := by
  obtain ⟨hinside, hchunk⟩ := attempt_chunk_eq hsize hchunks hattempt
  have hlength := length_attempt_chunk hsize hchunks hattempt
  have hrows (i : Nat) (hi : i < attempt.chunk.length) :
      attempt.chunk[i]? = rows[index * job.chunkSize + i]? := by
    rw [hchunk, List.getElem?_take_of_lt (by omega), List.getElem?_drop]
  cases houtcome : attempt.outcome with
  | ok records => simp [chunkError?, houtcome] at herror
  | error abort =>
    simp only [chunkError?, houtcome, Option.some.injEq] at herror
    cases abort with
    | store e =>
      subst herror
      refine ⟨Nat.le_refl _, ?_, .inl ⟨rfl, rfl⟩⟩
      simp only [chunkError, chunkReport, Row.number]
      omega
    | unresolved cause =>
      obtain ⟨before, row, after, hsplit, hbefore, hrow, hdangling, hcause⟩ :=
        hanswered.unresolved cause houtcome
      have hposition : before.length < attempt.chunk.length := by
        rw [hsplit, List.length_append, List.length_cons]
        omega
      have hfound : rows[index * job.chunkSize + before.length]? = some row := by
        rw [← hrows before.length hposition, hsplit, List.getElem?_append_right (Nat.le_refl _),
          Nat.sub_self, List.getElem?_cons_zero]
      subst herror
      have hnumber : cause.row = Row.number (index * job.chunkSize + before.length) := by
        rw [hcause, Validation.unresolved]
      refine ⟨?_, ?_, .inr ⟨_, row, hfound, hcause, hdangling, hrow, ?_⟩⟩
      · simp only [chunkError, hnumber, chunkReport, Row.number]
        omega
      · simp only [chunkError, hnumber, chunkReport, Row.number]
        omega
      · intro earlier other hother hfirst hlt
        simp only [chunkReport, Row.number] at hfirst
        obtain ⟨i, rfl⟩ := Nat.exists_eq_add_of_le (Nat.le_of_add_le_add_right hfirst)
        have hi : i < before.length := by omega
        rw [← hrows i (by omega), hsplit, List.getElem?_append_left hi] at hother
        have hgood := List.any_eq_false.1 hbefore other (List.mem_of_getElem? hother)
        simpa using hgood

end CommitJob

namespace Backend

open Pipeline

/-- The result of the check with which a commit starts, and the state after it. -/
def checked (backend : Backend) (project : String) (kind : AddressKind) (rows : List Row)
    (before : backend.State) : Except StoreError (List RowError) × backend.State :=
  run backend.store (checkStored project kind rows) before

/-- The job of a commit, with the lookup that is built after the check. -/
def jobOf (backend : Backend) (project : String) (kind : AddressKind) (rows : List Row)
    (options : CommitOptions) (before : backend.State) : CommitJob :=
  ⟨project, kind, max options.chunkSize 1,
    (run backend.store (neededLookup project kind) (backend.checked project kind rows before).2).1⟩

/-- A result that tells the truth about a commit. -/
structure Accounts (backend : Backend) (project : String) (kind : AddressKind) (rows : List Row)
    (options : CommitOptions) (before after : backend.State) (result : ImportResult) : Prop where
  total_eq : result.totalRows = Row.filledCount rows
  imported_eq : ∃ added, backend.held after = backend.held before ++ added ∧
    result.imported = added.length
  sum_eq : result.imported + result.failed = result.totalRows
  rolledBack_iff : result.rolledBack = true ↔
    (backend.checked project kind rows before).1 ≠ .ok [] ∨
      ∃ report ∈ result.chunks, report.state = .rolledBack
  tile : (backend.checked project kind rows before).1 = .ok [] →
    ChunkReport.Tile (max options.chunkSize 1) rows.length result.chunks
  errors : (backend.checked project kind rows before).1 = .ok [] →
    List.Forall₂
      ((backend.jobOf project kind rows options before).Explains (backend.refuses before) rows)
      (result.chunks.filter (·.state = .rolledBack)) result.errors
  /-- The loop over chunks gives the same result in 64-bit words, where it may not overflow. -/
  words : (backend.checked project kind rows before).1 = .ok [] → ∃ attempts : List Attempt,
    attempts.map (·.chunk) = chunksOf (max options.chunkSize 1) rows ∧
      (backend.jobOf project kind rows options before).summary? 0 (.start (Row.filledCount rows))
        attempts = some result
  numbers : ∀ index < rows.length, Row.number? index = some (Row.number index)

variable {backend : Backend} {project : String} {kind : AddressKind} {rows : List Row}
  {options : CommitOptions} {before after : backend.State} {result : ImportResult}

/-- The result of a commit over a sound store tells the truth. -/
theorem IsSound.accounts (hsound : backend.IsSound) (hrows : rows.length < 2 ^ 63)
    (hrun : run backend.store (commitRows project kind rows options) before = (.ok result, after)) :
    backend.Accounts project kind rows options before after result := by
  have hnumbers : ∀ index < rows.length, Row.number? index = some (Row.number index) := by
    intro index hindex
    refine Row.number?_eq_some ?_
    rw [Number.maxWord64]
    omega
  obtain ⟨transcript, hends, hfollows⟩ := run_eq_iff.1 hrun
  obtain ⟨e, _, hfailed⟩ | ⟨errors, hne, hcheck, hresult⟩ |
    ⟨first, second, lookup, attempts, hcheck, hlookup, hchunks, rfl, hresult⟩ :=
      ends_commitRows_iff.1 hends
  · cases hfailed
  · obtain rfl : result = .refused (Row.filledCount rows) errors := Except.ok.inj hresult
    have hchecked : (backend.checked project kind rows before).1 = .ok errors :=
      congrArg Prod.fst (run_eq_iff.2 ⟨transcript, hcheck, hfollows⟩)
    have hunclean : (backend.checked project kind rows before).1 ≠ .ok [] := by
      rw [hchecked, ne_eq, Except.ok.injEq]
      exact hne
    obtain ⟨hheld, _⟩ := hsound.held_of_follows (not_transact_of_ends_checkStored hcheck) hfollows
    exact {
      total_eq := rfl
      imported_eq := ⟨[], by rw [hheld, List.append_nil], rfl⟩
      sum_eq := Nat.zero_add _
      rolledBack_iff := ⟨fun _ => .inl hunclean, fun _ => rfl⟩
      tile := fun hclean => absurd hclean hunclean
      errors := fun hclean => absurd hclean hunclean
      words := fun hclean => absurd hclean hunclean
      numbers := hnumbers }
  · obtain ⟨checked, hfirst, hfollows⟩ := Transcript.follows_append_iff.1 hfollows
    obtain ⟨looked, hsecond, hfollows⟩ := Transcript.follows_append_iff.1 hfollows
    have hchecked : backend.checked project kind rows before = (.ok [], checked) :=
      run_eq_iff.2 ⟨first, hcheck, hfirst⟩
    have hlooked : run backend.store (neededLookup project kind) checked = (lookup, looked) :=
      run_eq_iff.2 ⟨second, hlookup, hsecond⟩
    have hjob : backend.jobOf project kind rows options before =
        ⟨project, kind, max options.chunkSize 1, lookup⟩ := by
      rw [jobOf, hchecked, hlooked]
    rw [← hjob] at hchunks hfollows hresult
    obtain ⟨hheldFirst, hrefusesFirst⟩ :=
      hsound.held_of_follows (not_transact_of_ends_checkStored hcheck) hfirst
    obtain ⟨hheldSecond, hrefusesSecond⟩ :=
      hsound.held_of_follows (not_transact_of_ends_neededLookup hlookup) hsecond
    obtain ⟨hanswered, added, hadded, hlength⟩ := hsound.exchanges hfollows
    rw [hheldSecond, hheldFirst] at hadded
    rw [hrefusesSecond, hrefusesFirst] at hanswered
    have hsize : 0 < (backend.jobOf project kind rows options before).chunkSize :=
      Nat.lt_of_lt_of_le Nat.one_pos (Nat.le_max_right ..)
    have hcomplete : ∀ attempt ∈ attempts, attempt.IsComplete := by
      intro attempt hmem
      obtain ⟨i, hattempt⟩ := List.mem_iff_getElem?.1 hmem
      exact (hanswered i attempt hattempt).complete
    obtain rfl := Except.ok.inj hresult
    exact {
      total_eq := rfl
      imported_eq := by
        refine ⟨added, hadded, ?_⟩
        rw [hlength, CommitJob.summary, ImportResult.start, Nat.zero_add]
      sum_eq := CommitJob.imported_add_failed_summary hsize hchunks hcomplete _
      rolledBack_iff := by
        rw [CommitJob.rolledBack_summary_iff, hchecked]
        simp
      tile := fun _ => CommitJob.tile_chunks_summary hsize hchunks _
      errors := fun _ => CommitJob.forall₂_errors_summary _ fun index attempt error hattempt herror =>
        CommitJob.explains_of_isAnswered hsize hchunks hattempt
          (by simpa using hanswered index attempt hattempt) herror
      words := fun _ =>
        ⟨attempts, hchunks, CommitJob.summary?_start_eq_some hsize hchunks hcomplete hrows _⟩
      numbers := hnumbers }

/-- The backends that there are: a store in memory, whatever it refuses, and a store in a folder over
files that do what they tell, each with any drift of the ship-to addresses. -/
inductive IsProvided : Backend → Prop where
  | memory : IsProvided MemoryStore.backend
  | folder {φ : Type} {files : Files (StateM φ)} {fresh : StateM φ Stamp} {folder : String}
      {content : Contents φ} (hfiles : files.IsFaithful content (StoreFolder.paths folder))
      (hfresh : content.Keeps (StoreFolder.paths folder) fresh) :
      IsProvided (StoreFolder.backend files fresh folder content)
  | drifting {backend : Backend} (hbackend : IsProvided backend) (drift : Drift) :
      IsProvided (backend.drifting drift)

theorem IsProvided.isSound (hprovided : backend.IsProvided) : backend.IsSound := by
  induction hprovided with
  | memory => exact MemoryStore.isSound_backend
  | folder hfiles hfresh => exact StoreFolder.isSound_backend hfiles hfresh
  | drifting _ drift ih => exact ih.drifting drift

end Backend

end AddressIntake

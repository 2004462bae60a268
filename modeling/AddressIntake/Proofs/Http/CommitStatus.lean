import AddressIntake.Http.Payload
import AddressIntake.Proofs.Import.Persistence
import AddressIntake.Proofs.Validation

namespace AddressIntake

/-- Rows without values have no errors. -/
theorem Validation.filledCount_pos_of_checkRows_ne_nil {kind : AddressKind} {required : List String}
    {lookup : Option ShipToLookup} {rows : List Row}
    (herrors : checkRows kind required lookup rows ≠ []) : 0 < Row.filledCount rows := by
  rw [Row.filledCount, List.countP_pos_iff]
  by_contra hblank
  refine herrors (checkRows_eq_nil_iff.2 fun index row hrow hfilled => ?_)
  exact absurd ⟨row, List.mem_of_getElem? hrow, by rw [hfilled]; rfl⟩ hblank

namespace Attempt.IsDecided

variable {job : CommitJob} {refuses : NewAddress → Option String} {attempt : Attempt}

theorem isComplete (hdecided : attempt.IsDecided job refuses) : attempt.IsComplete := by
  intro records houtcome
  cases hbad : attempt.chunk.any (job.isBad refuses) with
  | false =>
    obtain ⟨others, hothers, hlength⟩ := hdecided.committed hbad
    rw [houtcome, Except.ok.injEq] at hothers
    rw [hothers, hlength]
  | true =>
    obtain ⟨abort, habort⟩ := hdecided.aborted hbad
    rw [houtcome] at habort
    cases habort

theorem created_eq (hdecided : attempt.IsDecided job refuses) :
    attempt.created = (job.writtenAddresses refuses attempt.chunk).length := by
  rw [CommitJob.writtenAddresses]
  cases hbad : attempt.chunk.any (job.isBad refuses) with
  | false =>
    obtain ⟨records, houtcome, hlength⟩ := hdecided.committed hbad
    simp [Attempt.created, houtcome, hlength, CommitJob.chunkAddresses, Row.filledCount,
      List.countP_eq_length_filter]
  | true =>
    obtain ⟨abort, habort⟩ := hdecided.aborted hbad
    simp [Attempt.created, habort]

/-- A chunk that is given up has a bad row, which is not blank and so is lost. -/
theorem lost_pos_iff (hdecided : attempt.IsDecided job refuses) :
    0 < attempt.lost ↔ attempt.state = .rolledBack := by
  cases hbad : attempt.chunk.any (job.isBad refuses) with
  | false =>
    obtain ⟨records, houtcome, _⟩ := hdecided.committed hbad
    simp [Attempt.lost, Attempt.state, houtcome]
  | true =>
    obtain ⟨abort, habort⟩ := hdecided.aborted hbad
    obtain ⟨row, hmem, hrow⟩ := List.any_eq_true.1 hbad
    have hfilled : (!row.isBlank) = true := (Bool.and_eq_true_iff.1 hrow).1
    have hpos : 0 < Row.filledCount attempt.chunk := List.countP_pos_iff.2 ⟨row, hmem, hfilled⟩
    simp [Attempt.lost, Attempt.state, habort, hpos]

end Attempt.IsDecided

namespace CommitJob

variable {job : CommitJob} {refuses : NewAddress → Option String} {rows : List Row}
  {attempts : List Attempt}

/-- The rows that are counted as imported are the clean ones. -/
theorem imported_summary_of_isDecided (hsize : 0 < job.chunkSize)
    (hchunks : attempts.map (·.chunk) = chunksOf job.chunkSize rows)
    (hdecided : ∀ attempt ∈ attempts, attempt.IsDecided job refuses) (total : Nat) :
    (job.summary 0 (.start total) attempts).imported = (job.cleanRows refuses rows).length := by
  have hlength := congrArg List.length (job.map_newAddress_cleanRows refuses hsize rows)
  rw [List.length_map, ← hchunks, List.flatMap_map, List.length_flatMap] at hlength
  have hcreated : attempts.map Attempt.created =
      attempts.map fun attempt => (job.writtenAddresses refuses attempt.chunk).length :=
    List.map_congr_left fun attempt hmem => (hdecided attempt hmem).created_eq
  rw [hlength, ← hcreated, summary, ImportResult.start, Nat.zero_add]

/-- A summary shows that something was given up if and only if a row was lost. -/
theorem rolledBack_summary_iff_failed_pos
    (hdecided : ∀ attempt ∈ attempts, attempt.IsDecided job refuses) (total : Nat) :
    (job.summary 0 (.start total) attempts).rolledBack = true ↔
      0 < (job.summary 0 (.start total) attempts).failed := by
  simp only [summary, ImportResult.start, Bool.false_or, Nat.zero_add, List.any_eq_true,
    decide_eq_true_eq, List.sum_pos_iff_exists_pos_nat, List.mem_map]
  constructor
  · rintro ⟨attempt, hmem, hstate⟩
    exact ⟨_, ⟨attempt, hmem, rfl⟩, (hdecided attempt hmem).lost_pos_iff.2 hstate⟩
  · rintro ⟨_, ⟨attempt, hmem, rfl⟩, hlost⟩
    exact ⟨attempt, hmem, (hdecided attempt hmem).lost_pos_iff.1 hlost⟩

end CommitJob

namespace Http.CommitStatus

/-- A status that is true of the rows that are not blank and of those that were stored. -/
structure IsAccurate (status : String) (filled stored : List Row) : Prop where
  imported : status = "imported" ↔ stored = filled
  rolledBack : status = "rolled_back" ↔ filled ≠ [] ∧ stored = []
  partially : status = "partial" ↔ stored ≠ [] ∧ stored ≠ filled

/-- The status is accurate if the counts of the result are, and the flag says whether a row was
lost. -/
theorem isAccurate_ofResult {result : ImportResult} {filled stored : List Row}
    (hstored : stored.Sublist filled) (himported : result.imported = stored.length)
    (hsum : result.imported + result.failed = filled.length)
    (hflag : result.rolledBack = true ↔ 0 < result.failed) :
    IsAccurate (ofResult result).tag filled stored := by
  have hall : stored = filled ↔ result.failed = 0 := by
    constructor
    · rintro rfl
      omega
    · intro hfailed
      exact hstored.eq_of_length (by omega)
  have hnone : stored = [] ↔ result.imported = 0 := by rw [himported, List.length_eq_zero_iff]
  cases hrolledBack : result.rolledBack with
  | false =>
    have hfailed : result.failed = 0 := by
      rw [hrolledBack] at hflag
      have hnot := mt hflag.2 Bool.false_ne_true
      omega
    have htag : (ofResult result).tag = "imported" := by simp [ofResult, hrolledBack, tag]
    rw [htag]
    have hsame := hall.2 hfailed
    refine ⟨iff_of_true rfl hsame, iff_of_false (by decide) ?_, iff_of_false (by decide) ?_⟩
    · rintro ⟨hfilled, hnothing⟩
      exact hfilled (hsame ▸ hnothing)
    · rintro ⟨_, hother⟩
      exact hother hsame
  | true =>
    have hfailed : 0 < result.failed := hflag.1 hrolledBack
    have hother : stored ≠ filled := fun hsame => by
      have hzero := hall.1 hsame
      omega
    by_cases hzero : result.imported = 0
    · have htag : (ofResult result).tag = "rolled_back" := by simp [ofResult, hrolledBack, hzero, tag]
      rw [htag]
      have hnothing := hnone.2 hzero
      refine ⟨iff_of_false (by decide) hother, iff_of_true rfl ⟨?_, hnothing⟩,
        iff_of_false (by decide) fun hsome => hsome.1 hnothing⟩
      exact fun hfilled => hother (hnothing.trans hfilled.symm)
    · have htag : (ofResult result).tag = "partial" := by simp [ofResult, hrolledBack, hzero, tag]
      rw [htag]
      have hsome := mt hnone.1 hzero
      exact ⟨iff_of_false (by decide) hother, iff_of_false (by decide) fun hnothing =>
        hsome hnothing.2, iff_of_true rfl ⟨hsome, hother⟩⟩

end Http.CommitStatus

namespace MemoryStore

open Pipeline

/-- Whatever a store in memory refuses and however its ship-to addresses drift, the response to a
commit tells what became of the rows that are not blank: its status is that all of them are stored
now, that there are some and none is stored, or that some are stored and some are not. -/
theorem commitResponse_is_accurate (drift : Drift) (store : MemoryStore) (project : String)
    (kind : AddressKind) (rows : List Row) (options : CommitOptions) :
    let job := CommitJob.ofCommit project kind options (drift 1 (store.shipToAnswer project))
    let filled := rows.filter (!·.isBlank)
    ∃ (result : ImportResult) (after : MemoryStore) (asked : Nat) (stored : List Row)
      (status : String),
      run (Store.drifting drift answer) (commitRows project kind rows options) (store, 0) =
        (.ok result, (after, asked)) ∧
      stored.Sublist filled ∧
      after.registry.addresses = store.registry.addresses ++ store.recordsOf job stored ∧
      after.registry.policies = store.registry.policies ∧
      Http.commitResponse result = .obj [("status", .str status), ("result", result.toJson)] ∧
      Http.CommitStatus.IsAccurate status filled stored ∧
      (result.rolledBack = true ↔ 0 < result.failed) := by
  intro job filled
  have hcount : filled.length = Row.filledCount rows := List.countP_eq_length_filter.symm
  obtain ⟨hrefused, hwritten⟩ := run_commitRows_attempts drift store 0 project kind rows options
  by_cases herrors : store.errorsOf project kind rows (drift 0 (store.shipToAnswer project)) = []
  · obtain ⟨hafter, attempts, hchunks, hresult, hdecided⟩ := hwritten herrors
    have hsize := CommitJob.chunkSize_ofCommit_pos project kind options
      (drift 1 (store.shipToAnswer project))
    have hflag := CommitJob.rolledBack_summary_iff_failed_pos hdecided (Row.filledCount rows)
    have hsum := CommitJob.imported_add_failed_summary hsize hchunks
      (fun attempt hmem => (hdecided attempt hmem).isComplete) (Row.filledCount rows)
    have hstored := job.cleanRows_sublist_filter store.refuses rows
    refine ⟨_, _, _, job.cleanRows store.refuses rows, _,
      Prod.ext hresult (Prod.ext hafter rfl), hstored, addresses_create_map .., rfl, rfl, ?_, hflag⟩
    exact Http.CommitStatus.isAccurate_ofResult hstored
      (CommitJob.imported_summary_of_isDecided hsize hchunks hdecided _)
      (hsum.trans hcount.symm) hflag
  · obtain ⟨hresult, hafter⟩ := hrefused herrors
    have hpos := Validation.filledCount_pos_of_checkRows_ne_nil herrors
    have hflag : (ImportResult.refused (Row.filledCount rows) (store.errorsOf project kind rows
        (drift 0 (store.shipToAnswer project)))).rolledBack = true ↔ 0 < Row.filledCount rows :=
      iff_of_true rfl hpos
    refine ⟨_, _, _, [], _, Prod.ext hresult (Prod.ext hafter rfl), List.nil_sublist _,
      (List.append_nil _).symm, rfl, rfl, ?_, hflag⟩
    exact Http.CommitStatus.isAccurate_ofResult (List.nil_sublist _) rfl
      ((Nat.zero_add _).trans hcount.symm) hflag

/-- Three rows and a blank one in chunks of one, and a store that refuses the city of one of them. -/
theorem commitResponse_is_accurate_of_a_partial_commit :
    let stamps (n : Nat) : Stamp := ⟨⟨List.replicate 31 0 ++ [Fin.ofNat 16 n], rfl⟩, .epoch⟩
    let row (city : String) : Row := .ofList [("address_line1", "1 Main St"), ("city", city),
      ("country", "US"), ("state", "OR")]
    let record (n : Nat) (city : String) : Address :=
      ⟨(stamps n).id, "project", .billTo, .ofRow (row city), none, .epoch⟩
    let store : MemoryStore := ⟨⟨[record 0 "Salem"], []⟩, stamps, 1, true, fun new =>
      if new.fields.city = "Bend" then some "closed" else none⟩
    let rows := [row "Albany", .ofList [], row "Bend", row "Eugene"]
    ∃ (result : ImportResult) (after : MemoryStore) (asked : Nat),
      run (Store.drifting (fun _ answer => answer) answer)
        (commitRows "project" .billTo rows ⟨1⟩) (store, 0) = (.ok result, (after, asked)) ∧
      after.registry.addresses = [record 0 "Salem", record 1 "Albany", record 2 "Eugene"] ∧
      Http.commitResponse result = .obj [("status", .str "partial"), ("result", result.toJson)] := by
  intro stamps row record store rows
  obtain ⟨result, after, asked, stored, status, hrun, _, haddresses, _, hresponse, haccurate, _⟩ :=
    commitResponse_is_accurate (fun _ answer => answer) store "project" .billTo rows ⟨1⟩
  obtain ⟨_, hwritten⟩ := run_commitRows (fun _ answer => answer) store 0 "project" .billTo rows ⟨1⟩
  have hclean : store.errorsOf "project" .billTo rows (store.shipToAnswer "project") = [] :=
    errorsOf_eq_nil rfl (by decide +kernel) (fun hkind => by cases hkind)
  obtain ⟨hafter, _⟩ := hwritten hclean
  rw [hrun] at hafter
  have hrecords : after.registry.addresses =
      [record 0 "Salem", record 1 "Albany", record 2 "Eugene"] :=
    (congrArg (·.registry.addresses) hafter).trans (by decide +kernel)
  have hlength : stored.length = 2 := by
    have hsame := congrArg List.length (haddresses.symm.trans hrecords)
    rw [List.length_append, length_recordsOf] at hsame
    change 1 + stored.length = 3 at hsame
    omega
  obtain rfl : status = "partial" := by
    refine haccurate.partially.2 ⟨?_, ?_⟩
    · rintro rfl
      cases hlength
    · rintro rfl
      exact absurd hlength (by decide +kernel)
  exact ⟨result, after, asked, hrun, hrecords, hresponse⟩

end MemoryStore

end AddressIntake

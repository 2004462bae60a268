import AddressIntake.Proofs.Import.Chunk
import AddressIntake.Proofs.Import.Conversation
import Mathlib.Data.List.Forall2

namespace AddressIntake

/-- An attempt that succeeds only with a record for every row that is not blank. -/
def Attempt.IsComplete (attempt : Attempt) : Prop :=
  ∀ records, attempt.outcome = .ok records → records.length = Row.filledCount attempt.chunk

theorem Attempt.IsComplete.created_add_lost {attempt : Attempt} (hcomplete : attempt.IsComplete) :
    attempt.created + attempt.lost = Row.filledCount attempt.chunk := by
  cases houtcome : attempt.outcome with
  | ok records => simp [Attempt.created, Attempt.lost, houtcome, hcomplete records houtcome]
  | error abort => simp [Attempt.created, Attempt.lost, houtcome]

/-- The records of an attempt that succeeded. -/
def Attempt.records? (attempt : Attempt) : Option (List Address) :=
  match attempt.outcome with
  | .ok records => some records
  | .error _ => none

theorem Attempt.records?_eq_some_iff {attempt : Attempt} {records : List Address} :
    attempt.records? = some records ↔ attempt.outcome = .ok records := by
  cases houtcome : attempt.outcome <;> simp [records?, houtcome]

/-- Reports that cut a number of rows into consecutive chunks of a size, of which only the last one
may be smaller. The first row is shown as row 2, and no chunk is left without an outcome. -/
structure ChunkReport.Tile (size count : Nat) (reports : List ChunkReport) : Prop where
  index : ∀ (i : Nat) (report : ChunkReport), reports[i]? = some report → report.index = i
  first : ∀ report, reports.head? = some report → report.firstRow = 2
  next : ∀ (i : Nat) (report following : ChunkReport), reports[i]? = some report →
    reports[i + 1]? = some following → following.firstRow = report.lastRow + 1
  last : ∀ report, reports.getLast? = some report → report.lastRow = count + 1
  covers : reports = [] ↔ count = 0
  size_eq : ∀ (i : Nat) (report : ChunkReport), reports[i]? = some report →
    i + 1 < reports.length → report.size = size
  size_pos : ∀ report ∈ reports, 0 < report.size
  size_le : ∀ report ∈ reports, report.size ≤ size
  finished : ∀ report ∈ reports, report.state = .committed ∨ report.state = .rolledBack

theorem exists_of_forall₂_of_mem {α β : Type} {R : α → β → Prop} {as : List α} {bs : List β}
    (hpairs : List.Forall₂ R as bs) {b : β} (hmem : b ∈ bs) : ∃ a, R a b := by
  induction hpairs with
  | nil => cases hmem
  | cons hpair _ ih =>
    rcases List.mem_cons.1 hmem with rfl | hrest
    · exact ⟨_, hpair⟩
    · exact ih hrest

/-- What is told of entries and what is made of them agree one by one, if the same entries are passed
over in both. -/
theorem forall₂_filter_filterMap {α β γ : Type} {entries : List α} {report : α → β}
    {told : β → Bool} {value : α → Option γ} {P : β → γ → Prop}
    (hsame : ∀ entry, told (report entry) = (value entry).isSome)
    (hvalue : ∀ entry ∈ entries, ∀ made, value entry = some made → P (report entry) made) :
    List.Forall₂ P ((entries.map report).filter told) (entries.filterMap value) := by
  induction entries with
  | nil => exact .nil
  | cons entry entries ih =>
    have hrest := ih fun other hmem => hvalue other (List.mem_cons_of_mem _ hmem)
    have hfirst := hvalue entry List.mem_cons_self
    cases hmade : value entry with
    | none =>
      rw [List.map_cons, List.filter_cons_of_neg (by simp [hsame, hmade]),
        List.filterMap_cons_none hmade]
      exact hrest
    | some made =>
      rw [List.map_cons, List.filter_cons_of_pos (by simp [hsame, hmade]),
        List.filterMap_cons_some hmade]
      exact .cons (hfirst made hmade) hrest

namespace CommitJob

variable {job : CommitJob} {rows : List Row} {attempts : List Attempt}

theorem attempt_chunk_eq (hsize : 0 < job.chunkSize)
    (hchunks : attempts.map (·.chunk) = chunksOf job.chunkSize rows) {index : Nat} {attempt : Attempt}
    (hattempt : attempts[index]? = some attempt) :
    index * job.chunkSize < rows.length ∧
      attempt.chunk = (rows.drop (index * job.chunkSize)).take job.chunkSize := by
  have hchunk := getElem?_chunksOf hsize rows index
  rw [← hchunks, List.getElem?_map, hattempt, Option.map_some, eq_comm,
    Option.ite_none_right_eq_some] at hchunk
  exact ⟨hchunk.1, (Option.some.inj hchunk.2).symm⟩

theorem length_attempt_chunk (hsize : 0 < job.chunkSize)
    (hchunks : attempts.map (·.chunk) = chunksOf job.chunkSize rows) {index : Nat} {attempt : Attempt}
    (hattempt : attempts[index]? = some attempt) :
    attempt.chunk.length = min job.chunkSize (rows.length - index * job.chunkSize) := by
  rw [(attempt_chunk_eq hsize hchunks hattempt).2, List.length_take, List.length_drop]

theorem lt_length_attempts_iff (hsize : 0 < job.chunkSize)
    (hchunks : attempts.map (·.chunk) = chunksOf job.chunkSize rows) (index : Nat) :
    index < attempts.length ↔ index * job.chunkSize < rows.length := by
  have hchunk := getElem?_chunksOf hsize rows index
  rw [← hchunks, List.getElem?_map] at hchunk
  constructor
  · intro hlt
    by_cases hinside : index * job.chunkSize < rows.length
    · exact hinside
    · rw [if_neg hinside, List.getElem?_eq_getElem hlt] at hchunk
      cases hchunk
  · intro hinside
    by_cases hlt : index < attempts.length
    · exact hlt
    · rw [if_pos hinside, List.getElem?_eq_none (Nat.not_lt.1 hlt)] at hchunk
      cases hchunk

/-- The chunks of a summary are those of its attempts, each with the index of its attempt. -/
theorem getElem?_chunks_summary (total index : Nat) :
    (job.summary 0 (.start total) attempts).chunks[index]? =
      attempts[index]?.map (job.chunkReport · index) := by
  simp only [summary, ImportResult.start, List.nil_append, List.getElem?_map, List.getElem?_zipIdx,
    Option.map_map, Nat.zero_add]
  rfl

theorem mem_chunks_summary_iff (total : Nat) {report : ChunkReport} :
    report ∈ (job.summary 0 (.start total) attempts).chunks ↔
      ∃ (index : Nat) (attempt : Attempt), attempts[index]? = some attempt ∧
        job.chunkReport attempt index = report := by
  simp only [List.mem_iff_getElem?, getElem?_chunks_summary, Option.map_eq_some_iff]

theorem length_chunks_summary (total : Nat) :
    (job.summary 0 (.start total) attempts).chunks.length = attempts.length := by
  simp [summary, ImportResult.start]

/-- The report at an index is about the rows from the multiple of the size on, up to the next
multiple or the last row. -/
theorem report_of_getElem?_chunks_summary (hsize : 0 < job.chunkSize)
    (hchunks : attempts.map (·.chunk) = chunksOf job.chunkSize rows) {total index : Nat}
    {report : ChunkReport}
    (hreport : (job.summary 0 (.start total) attempts).chunks[index]? = some report) :
    report.index = index ∧ index * job.chunkSize < rows.length ∧
      report.firstRow = index * job.chunkSize + 2 ∧
      report.lastRow = min ((index + 1) * job.chunkSize) rows.length + 1 ∧
      (report.state = .committed ∨ report.state = .rolledBack) := by
  rw [getElem?_chunks_summary] at hreport
  obtain ⟨attempt, hattempt, rfl⟩ := Option.map_eq_some_iff.1 hreport
  have hinside := (attempt_chunk_eq hsize hchunks hattempt).1
  have hlength := length_attempt_chunk hsize hchunks hattempt
  refine ⟨rfl, hinside, rfl, ?_, ?_⟩
  · simp only [chunkReport, Row.number, Nat.succ_mul]
    omega
  · cases houtcome : attempt.outcome <;> simp [chunkReport, Attempt.state, houtcome]

theorem lt_length_chunks_summary_iff (hsize : 0 < job.chunkSize)
    (hchunks : attempts.map (·.chunk) = chunksOf job.chunkSize rows) (total index : Nat) :
    index < (job.summary 0 (.start total) attempts).chunks.length ↔
      index * job.chunkSize < rows.length := by
  rw [length_chunks_summary, lt_length_attempts_iff hsize hchunks]

/-- The reports of a commit tile the rows. -/
theorem tile_chunks_summary (hsize : 0 < job.chunkSize)
    (hchunks : attempts.map (·.chunk) = chunksOf job.chunkSize rows) (total : Nat) :
    ChunkReport.Tile job.chunkSize rows.length (job.summary 0 (.start total) attempts).chunks := by
  have hcount := lt_length_chunks_summary_iff hsize hchunks total
  have hat (i : Nat) (report : ChunkReport)
      (hreport : (job.summary 0 (.start total) attempts).chunks[i]? = some report) :=
    report_of_getElem?_chunks_summary hsize hchunks hreport
  have hmem (report : ChunkReport)
      (hreport : report ∈ (job.summary 0 (.start total) attempts).chunks) :=
    List.mem_iff_getElem?.1 hreport
  generalize (job.summary 0 (.start total) attempts).chunks = reports at hcount hat hmem
  refine ⟨fun i report hreport => (hat i report hreport).1, ?first, ?next, ?last, ?covers,
    ?size_eq, ?size_pos, ?size_le, ?finished⟩
  case first =>
    intro report hhead
    rw [List.head?_eq_getElem?] at hhead
    obtain ⟨_, _, hfirst, _⟩ := hat 0 report hhead
    omega
  case next =>
    intro i report following hreport hfollowing
    obtain ⟨_, _, _, hlast, _⟩ := hat i report hreport
    obtain ⟨_, hinside, hfirst, _⟩ := hat (i + 1) following hfollowing
    omega
  case last =>
    intro report hreport
    rw [List.getLast?_eq_getElem?] at hreport
    obtain ⟨_, _, _, hlast, _⟩ := hat (reports.length - 1) report hreport
    have hbound := (List.getElem?_eq_some_iff.1 hreport).1
    have hend := hcount (reports.length - 1 + 1)
    omega
  case covers =>
    have hnone := hcount 0
    rw [Nat.zero_mul] at hnone
    rw [← List.length_eq_zero_iff]
    omega
  case size_eq =>
    intro i report hreport hlt
    obtain ⟨_, _, hfirst, hlast, _⟩ := hat i report hreport
    have hinside := (hcount (i + 1)).1 hlt
    rw [ChunkReport.size, hfirst, hlast, Nat.succ_mul]
    rw [Nat.succ_mul] at hinside
    omega
  case size_pos =>
    intro report hreport
    obtain ⟨i, hi⟩ := hmem report hreport
    obtain ⟨_, _, hfirst, hlast, _⟩ := hat i report hi
    rw [ChunkReport.size, hfirst, hlast, Nat.succ_mul]
    omega
  case size_le =>
    intro report hreport
    obtain ⟨i, hi⟩ := hmem report hreport
    obtain ⟨_, _, hfirst, hlast, _⟩ := hat i report hi
    rw [ChunkReport.size, hfirst, hlast, Nat.succ_mul]
    omega
  case finished =>
    intro report hreport
    obtain ⟨i, hi⟩ := hmem report hreport
    exact (hat i report hi).2.2.2.2

/-- Every row that is not blank is either written or counted as failed. -/
theorem imported_add_failed_summary (hsize : 0 < job.chunkSize)
    (hchunks : attempts.map (·.chunk) = chunksOf job.chunkSize rows)
    (hcomplete : ∀ attempt ∈ attempts, attempt.IsComplete) (total : Nat) :
    (job.summary 0 (.start total) attempts).imported +
      (job.summary 0 (.start total) attempts).failed = Row.filledCount rows := by
  have hsum : (attempts.map Attempt.created).sum + (attempts.map Attempt.lost).sum =
      ((attempts.map (·.chunk)).map Row.filledCount).sum := by
    clear hchunks
    induction attempts with
    | nil => rfl
    | cons attempt attempts ih =>
      have hfirst := (hcomplete attempt List.mem_cons_self).created_add_lost
      have hrest := ih fun other hmem => hcomplete other (List.mem_cons_of_mem _ hmem)
      simp only [List.map_cons, List.sum_cons]
      omega
  have hflat : ((chunksOf job.chunkSize rows).map Row.filledCount).sum = Row.filledCount rows := by
    conv => rhs; rw [Row.filledCount, ← flatten_chunksOf hsize rows, List.countP_flatten]
    rfl
  rw [← hflat, ← hchunks, ← hsum]
  simp [summary, ImportResult.start]

theorem rolledBack_summary_iff (total : Nat) :
    (job.summary 0 (.start total) attempts).rolledBack = true ↔
      ∃ report ∈ (job.summary 0 (.start total) attempts).chunks, report.state = .rolledBack := by
  simp only [mem_chunks_summary_iff]
  simp only [summary, ImportResult.start, Bool.false_or, List.any_eq_true, decide_eq_true_eq,
    List.mem_iff_getElem?]
  constructor
  · rintro ⟨attempt, ⟨i, hattempt⟩, hstate⟩
    exact ⟨_, ⟨i, attempt, hattempt, rfl⟩, hstate⟩
  · rintro ⟨_, ⟨i, attempt, hattempt, rfl⟩, hstate⟩
    exact ⟨attempt, ⟨i, hattempt⟩, hstate⟩

/-- If every attempt succeeds, all rows that are not blank are written and every chunk is
committed. -/
theorem summary_of_all_committed (hsize : 0 < job.chunkSize)
    (hchunks : attempts.map (·.chunk) = chunksOf job.chunkSize rows)
    (hok : ∀ attempt ∈ attempts, ∃ records, attempt.outcome = .ok records ∧
      records.length = Row.filledCount attempt.chunk) (total : Nat) :
    let result := job.summary 0 (.start total) attempts
    result.imported = Row.filledCount rows ∧ result.failed = 0 ∧ result.rolledBack = false ∧
      ∀ report ∈ result.chunks, report.state = .committed := by
  intro result
  have hcomplete : ∀ attempt ∈ attempts, attempt.IsComplete := by
    intro attempt hmem records houtcome
    obtain ⟨others, hothers, hlength⟩ := hok attempt hmem
    rw [houtcome, Except.ok.injEq] at hothers
    rw [hothers, hlength]
  have hfailed : result.failed = 0 := by
    simp only [result, summary, ImportResult.start, Nat.zero_add]
    rw [List.sum_eq_zero_iff_forall_eq_nat, List.forall_mem_map]
    intro attempt hmem
    obtain ⟨records, houtcome, _⟩ := hok attempt hmem
    rw [Attempt.lost, houtcome]
  have hstates : ∀ report ∈ result.chunks, report.state = .committed := by
    intro report hmem
    obtain ⟨index, attempt, hattempt, rfl⟩ := (mem_chunks_summary_iff total).1 hmem
    obtain ⟨records, houtcome, _⟩ := hok attempt (List.mem_of_getElem? hattempt)
    simp [chunkReport, Attempt.state, houtcome]
  refine ⟨?_, hfailed, ?_, hstates⟩
  · have hcounts := imported_add_failed_summary hsize hchunks hcomplete total
    rwa [hfailed, Nat.add_zero] at hcounts
  · rw [Bool.eq_false_iff, ne_eq, rolledBack_summary_iff]
    rintro ⟨report, hmem, hstate⟩
    rw [hstates report hmem] at hstate
    cases hstate

/-- The errors of a commit belong, one by one and in order, to the chunks that were given up. -/
theorem forall₂_errors_summary {P : ChunkReport → RowError → Prop} (total : Nat)
    (hattempt : ∀ (index : Nat) (attempt : Attempt) (error : RowError),
      attempts[index]? = some attempt → job.chunkError? attempt index = some error →
      P (job.chunkReport attempt index) error) :
    List.Forall₂ P
      ((job.summary 0 (.start total) attempts).chunks.filter (·.state = .rolledBack))
      (job.summary 0 (.start total) attempts).errors := by
  refine forall₂_filter_filterMap (fun entry => ?_) fun entry hmem error =>
    hattempt entry.2 entry.1 error (List.mem_zipIdx_iff_getElem?.1 hmem)
  cases houtcome : entry.1.outcome <;> simp [chunkReport, Attempt.state, chunkError?, houtcome]

/-- The committed chunks of a commit belong, one by one and in order, to the attempts that
succeeded. -/
theorem forall₂_records_summary {P : ChunkReport → List Address → Prop} (total : Nat)
    (hattempt : ∀ (index : Nat) (attempt : Attempt) (records : List Address),
      attempts[index]? = some attempt → attempt.outcome = .ok records →
      P (job.chunkReport attempt index) records) :
    List.Forall₂ P
      ((job.summary 0 (.start total) attempts).chunks.filter (·.state = .committed))
      (attempts.filterMap Attempt.records?) := by
  have hentries : attempts.filterMap Attempt.records? =
      attempts.zipIdx.filterMap (Attempt.records? ∘ Prod.fst) := by
    rw [← List.filterMap_map, List.zipIdx_map_fst]
  rw [hentries]
  refine forall₂_filter_filterMap (fun entry => ?_) fun entry hmem records hrecords => ?_
  · cases houtcome : entry.1.outcome <;>
      simp [chunkReport, Attempt.state, Attempt.records?, houtcome]
  · exact hattempt entry.2 entry.1 records (List.mem_zipIdx_iff_getElem?.1 hmem)
      (Attempt.records?_eq_some_iff.1 hrecords)

end CommitJob

end AddressIntake

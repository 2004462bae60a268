import AddressIntake.Proofs.Import.Summary

namespace AddressIntake

namespace Number

/-- The sum of two words, unless it is no word. -/
def addWords? (m n : Nat) : Option Nat :=
  if m + n ≤ maxWord64 then some (m + n) else none

/-- The product of two words, unless it is no word. -/
def mulWords? (m n : Nat) : Option Nat :=
  if m * n ≤ maxWord64 then some (m * n) else none

/-- The difference of two words, unless it is below zero. -/
def subWords? (m n : Nat) : Option Nat :=
  if n ≤ m then some (m - n) else none

theorem addWords?_eq_some {m n : Nat} (hfits : m + n ≤ maxWord64) : addWords? m n = some (m + n) :=
  if_pos hfits

theorem mulWords?_eq_some {m n : Nat} (hfits : m * n ≤ maxWord64) : mulWords? m n = some (m * n) :=
  if_pos hfits

theorem subWords?_eq_some {m n : Nat} (hle : n ≤ m) : subWords? m n = some (m - n) :=
  if_pos hle

end Number

open Number

/-- The number of a row, unless it is no word. -/
def Row.number? (n : Nat) : Option Nat :=
  addWords? n 2

theorem Row.number?_eq_some {n : Nat} (hfits : n + 2 ≤ maxWord64) :
    Row.number? n = some (Row.number n) :=
  addWords?_eq_some hfits

namespace CommitJob

/-- The report on a chunk, unless a number in it or on the way to it is no word. -/
def chunkReport? (job : CommitJob) (attempt : Attempt) (index : Nat) : Option ChunkReport := do
  let offset ← mulWords? index job.chunkSize
  let firstRow ← Row.number? offset
  let stop ← addWords? offset attempt.chunk.length
  let lastRow ← Row.number? (← subWords? stop 1)
  return ⟨index, firstRow, lastRow, attempt.state⟩

/-- The numbers of the rows of a chunk, unless one of them is no word. -/
def rowNumbers? (job : CommitJob) (attempt : Attempt) (index : Nat) : Option (List Nat) := do
  let offset ← mulWords? index job.chunkSize
  (List.range attempt.chunk.length).mapM fun i => do
    Row.number? (← addWords? offset i)

/-- The result after an attempt, unless a number on the way to it is no word. -/
def turn? (job : CommitJob) (index : Nat) (result : ImportResult) (attempt : Attempt) :
    Option ImportResult := do
  let report ← job.chunkReport? attempt index
  let _ ← job.rowNumbers? attempt index
  let _ ← addWords? index 1
  let imported ← addWords? result.imported attempt.created
  let failed ← addWords? result.failed attempt.lost
  return {
    totalRows := result.totalRows
    imported := imported
    failed := failed
    errors := result.errors ++ (job.chunkError? attempt index).toList
    rolledBack := result.rolledBack || attempt.state = .rolledBack
    chunks := result.chunks ++ [report] }

/-- The result after attempts one after the other, unless a number on the way to it is no word. -/
def summary? (job : CommitJob) (index : Nat) (result : ImportResult) :
    List Attempt → Option ImportResult
  | [] => some result
  | attempt :: rest => do
    let next ← job.turn? index result attempt
    job.summary? (index + 1) next rest

variable {job : CommitJob} {index : Nat} {result : ImportResult} {attempt : Attempt}

theorem chunkReport?_eq_some (hfilled : 0 < attempt.chunk.length)
    (hfits : index * job.chunkSize + attempt.chunk.length + 2 ≤ maxWord64) :
    job.chunkReport? attempt index = some (job.chunkReport attempt index) := by
  simp only [chunkReport?, mulWords?_eq_some (m := index) (n := job.chunkSize) (by omega),
    Row.number?_eq_some (n := index * job.chunkSize) (by omega),
    addWords?_eq_some (m := index * job.chunkSize) (n := attempt.chunk.length) (by omega),
    subWords?_eq_some (m := index * job.chunkSize + attempt.chunk.length) (n := 1) (by omega),
    Row.number?_eq_some (n := index * job.chunkSize + attempt.chunk.length - 1) (by omega),
    Option.bind_eq_bind, Option.bind_some]
  rfl

theorem rowNumbers?_eq_some
    (hfits : index * job.chunkSize + attempt.chunk.length + 2 ≤ maxWord64) :
    job.rowNumbers? attempt index =
      some ((List.range attempt.chunk.length).map fun i =>
        Row.number (index * job.chunkSize + i)) := by
  have hnumber (is : List Nat) (his : ∀ i ∈ is, i < attempt.chunk.length) :
      (is.mapM fun i => do Row.number? (← addWords? (index * job.chunkSize) i)) =
        some (is.map fun i => Row.number (index * job.chunkSize + i)) := by
    induction is with
    | nil => rfl
    | cons i is ih =>
      have hi := his i List.mem_cons_self
      have hrest := ih fun other hmem => his other (List.mem_cons_of_mem _ hmem)
      rw [List.mapM_cons, hrest, addWords?_eq_some (by omega)]
      simp only [Option.bind_eq_bind, Option.bind_some]
      rw [Row.number?_eq_some (by omega)]
      rfl
  rw [rowNumbers?, mulWords?_eq_some (by omega), Option.bind_eq_bind, Option.bind_some]
  exact hnumber _ fun i hmem => List.mem_range.1 hmem

/-- One turn of the loop stays within the words if its chunk does. -/
theorem turn?_eq_some (hsize : 0 < job.chunkSize) (hfilled : 0 < attempt.chunk.length)
    (hfits : index * job.chunkSize + attempt.chunk.length + 2 ≤ maxWord64)
    (himported : result.imported + attempt.created ≤ maxWord64)
    (hfailed : result.failed + attempt.lost ≤ maxWord64) :
    job.turn? index result attempt = some (job.summary index result [attempt]) := by
  have hindex : index ≤ index * job.chunkSize := Nat.le_mul_of_pos_right index hsize
  rw [turn?, chunkReport?_eq_some hfilled hfits, rowNumbers?_eq_some hfits,
    addWords?_eq_some (m := index) (by omega), addWords?_eq_some himported,
    addWords?_eq_some hfailed]
  cases hfound : job.chunkError? attempt index <;> simp [summary, hfound]

/-- The loop over chunks stays within the words, whatever became of the chunks. -/
theorem summary?_eq_some {attempts : List Attempt} (hsize : 0 < job.chunkSize)
    (hfits : ∀ (i : Nat) (attempt : Attempt), attempts[i]? = some attempt →
      0 < attempt.chunk.length ∧
        (index + i) * job.chunkSize + attempt.chunk.length + 2 ≤ maxWord64)
    (himported : result.imported + (attempts.map Attempt.created).sum ≤ maxWord64)
    (hfailed : result.failed + (attempts.map Attempt.lost).sum ≤ maxWord64) :
    job.summary? index result attempts = some (job.summary index result attempts) := by
  induction attempts generalizing index result with
  | nil => rw [summary?, summary_nil]
  | cons attempt attempts ih =>
    rw [List.map_cons, List.sum_cons] at himported hfailed
    obtain ⟨hfilled, hfirst⟩ : 0 < attempt.chunk.length ∧
        index * job.chunkSize + attempt.chunk.length + 2 ≤ maxWord64 := hfits 0 attempt rfl
    rw [summary?, turn?_eq_some hsize hfilled hfirst (by omega) (by omega),
      summary_cons job index result attempt attempts, Option.bind_eq_bind, Option.bind_some]
    refine ih (fun i other hother => ?_) ?_ ?_
    · rw [Nat.add_assoc index 1 i, Nat.add_comm 1 i]
      exact hfits (i + 1) other hother
    · simp only [summary, List.map_cons, List.map_nil, List.sum_cons, List.sum_nil]
      omega
    · simp only [summary, List.map_cons, List.map_nil, List.sum_cons, List.sum_nil]
      omega

/-- A commit of rows that fit into memory stays within the words. -/
theorem summary?_start_eq_some {rows : List Row} {attempts : List Attempt} (hsize : 0 < job.chunkSize)
    (hchunks : attempts.map (·.chunk) = chunksOf job.chunkSize rows)
    (hcomplete : ∀ attempt ∈ attempts, attempt.IsComplete) (hrows : rows.length < 2 ^ 63)
    (total : Nat) :
    job.summary? 0 (.start total) attempts = some (job.summary 0 (.start total) attempts) := by
  have hcounts := imported_add_failed_summary hsize hchunks hcomplete total
  have hfilled : Row.filledCount rows ≤ rows.length := List.countP_le_length
  simp only [summary, ImportResult.start, Nat.zero_add] at hcounts
  refine summary?_eq_some hsize (fun i attempt hattempt => ?_) ?_ ?_
  · have hinside := (attempt_chunk_eq hsize hchunks hattempt).1
    have hlength := length_attempt_chunk hsize hchunks hattempt
    rw [Nat.zero_add, maxWord64]
    omega
  · simp only [ImportResult.start, Nat.zero_add, maxWord64]
    omega
  · simp only [ImportResult.start, Nat.zero_add, maxWord64]
    omega

end CommitJob

end AddressIntake

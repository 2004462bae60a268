import AddressIntake.Import.Commit
import AddressIntake.Proofs.Transcript
import Mathlib.Algebra.GroupWithZero.Nat

namespace AddressIntake

/-- The names that the answer to a query for ship-to addresses makes known. -/
def ShipToLookup.ofAnswer : Except StoreError (List Address) → ShipToLookup
  | .ok addresses => .ofAddresses addresses
  | .error _ => .empty

/-- The flags of a policy that is found or not. -/
def Policy.flagsOf : Option Policy → PolicyFlags
  | some policy => policy.required
  | none => .empty

namespace Pipeline

variable {project : String} {kind : AddressKind} {rows : List Row} {transcript : Transcript}

theorem ends_shipToLookup_iff {lookup : ShipToLookup} :
    Ends (shipToLookup project) transcript lookup ↔
      ∃ answer : Except StoreError (List Address),
        transcript = [⟨.select project .shipTo, answer⟩] ∧ lookup = .ofAnswer answer := by
  simp only [shipToLookup, ends_bind_iff, ends_ask_iff]
  constructor
  · rintro ⟨_, answer, second, rfl, rfl, hends⟩
    cases answer with
    | ok addresses =>
      obtain ⟨rfl, rfl⟩ := hends
      exact ⟨.ok addresses, rfl, rfl⟩
    | error e =>
      simp only [ends_bind_iff, ends_log_iff, ends_pure_iff] at hends
      obtain ⟨_, _, _, rfl, rfl, rfl, rfl⟩ := hends
      exact ⟨.error e, rfl, rfl⟩
  · rintro ⟨answer, rfl, rfl⟩
    refine ⟨_, answer, [], rfl, rfl, ?_⟩
    cases answer with
    | ok addresses => exact ⟨rfl, rfl⟩
    | error e => exact ends_bind_iff.2 ⟨[], (), [], rfl, ends_log_iff.2 rfl, rfl, rfl⟩

theorem ends_neededLookup_installAt_iff {lookup : Option ShipToLookup} :
    Ends (neededLookup project .installAt) transcript lookup ↔
      ∃ answer : Except StoreError (List Address),
        transcript = [⟨.select project .shipTo, answer⟩] ∧ lookup = some (.ofAnswer answer) := by
  simp only [neededLookup, beq_self_eq_true, ↓reduceIte, ends_bind_iff, ends_shipToLookup_iff,
    ends_pure_iff]
  constructor
  · rintro ⟨_, _, _, rfl, ⟨answer, rfl, rfl⟩, rfl, rfl⟩
    exact ⟨answer, rfl, rfl⟩
  · rintro ⟨answer, rfl, rfl⟩
    exact ⟨_, _, [], rfl, ⟨answer, rfl, rfl⟩, rfl, rfl⟩

theorem ends_neededLookup_iff_of_ne (hkind : kind ≠ .installAt) {lookup : Option ShipToLookup} :
    Ends (neededLookup project kind) transcript lookup ↔ transcript = [] ∧ none = lookup := by
  rw [neededLookup, if_neg (by simpa using hkind), ends_pure_iff]

/-- The only question of a lookup is the one for the ship-to addresses of the project. -/
theorem request_of_ends_neededLookup {lookup : Option ShipToLookup}
    (hends : Ends (neededLookup project kind) transcript lookup) :
    ∀ exchange ∈ transcript, exchange.request = .select project .shipTo := by
  intro exchange hmem
  by_cases hkind : kind = .installAt
  · subst hkind
    obtain ⟨answer, rfl, _⟩ := ends_neededLookup_installAt_iff.1 hends
    rw [List.mem_singleton.1 hmem]
  · obtain ⟨rfl, _⟩ := (ends_neededLookup_iff_of_ne hkind).1 hends
    cases hmem

theorem ends_requiredFlags_iff {flags : Except StoreError PolicyFlags} :
    Ends (requiredFlags project kind) transcript flags ↔
      ∃ answer : Except StoreError (Option Policy),
        transcript = [⟨.policy project kind, answer⟩] ∧ answer.map Policy.flagsOf = flags := by
  simp only [requiredFlags, ends_bind_iff, ends_ask_iff]
  constructor
  · rintro ⟨_, answer, _, rfl, rfl, hends⟩
    rcases answer with e | _ | policy <;> obtain ⟨rfl, rfl⟩ := hends
    · exact ⟨.error e, rfl, rfl⟩
    · exact ⟨.ok none, rfl, rfl⟩
    · exact ⟨.ok (some policy), rfl, rfl⟩
  · rintro ⟨answer, rfl, rfl⟩
    refine ⟨_, answer, [], rfl, rfl, ?_⟩
    rcases answer with e | _ | policy <;> exact ⟨rfl, rfl⟩

/-- The check asks for the policy first. If it gets one, it looks up the names that rows of the kind
need and checks the rows with both. -/
theorem ends_checkStored_iff {result : Except StoreError (List RowError)} :
    Ends (checkStored project kind rows) transcript result ↔
      (∃ e, transcript = [⟨.policy project kind, .error e⟩] ∧ result = .error e) ∨
      ∃ (policy : Option Policy) (rest : Transcript) (lookup : Option ShipToLookup),
        transcript = ⟨.policy project kind, .ok policy⟩ :: rest ∧
        Ends (neededLookup project kind) rest lookup ∧
        result = .ok (Validation.checkRows kind
          (Policy.requiredKeys (Schema.fields kind) (Policy.flagsOf policy)) lookup rows) := by
  simp only [checkStored, ends_bind_iff, ends_requiredFlags_iff]
  constructor
  · rintro ⟨_, _, second, rfl, ⟨answer, rfl, rfl⟩, hends⟩
    cases answer with
    | error e =>
      obtain ⟨rfl, rfl⟩ := hends
      exact .inl ⟨e, rfl, rfl⟩
    | ok policy =>
      obtain ⟨rest, lookup, _, rfl, hlookup, rfl, rfl⟩ := ends_bind_iff.1 hends
      exact .inr ⟨policy, rest, lookup, by simp, hlookup, rfl⟩
  · rintro (⟨e, rfl, rfl⟩ | ⟨policy, rest, lookup, rfl, hlookup, rfl⟩)
    · exact ⟨_, .error e, [], rfl, ⟨.error e, rfl, rfl⟩, rfl, rfl⟩
    · refine ⟨[_], .ok _, rest, rfl, ⟨.ok policy, rfl, rfl⟩, ?_⟩
      exact ends_bind_iff.2 ⟨rest, lookup, [], by simp, hlookup, rfl, rfl⟩

/-- A check that ends asked for the policy, and for ship-to addresses at most after it. -/
theorem exists_rest_of_ends_checkStored {checked : Except StoreError (List RowError)}
    (hends : Ends (checkStored project kind rows) transcript checked) :
    (∃ cause, transcript = [⟨.policy project kind, .error cause⟩] ∧ checked = .error cause) ∨
      ∃ (policy : Option Policy) (rest : Transcript) (errors : List RowError),
        transcript = ⟨.policy project kind, .ok policy⟩ :: rest ∧ checked = .ok errors ∧
        ∀ exchange ∈ rest, exchange.request = .select project .shipTo := by
  obtain hfailed | ⟨policy, rest, lookup, htranscript, hlookup, hchecked⟩ :=
    ends_checkStored_iff.1 hends
  · exact .inl hfailed
  · exact .inr ⟨policy, rest, _, htranscript, hchecked, request_of_ends_neededLookup hlookup⟩

/-- The questions of a check and of a lookup are no transactions. -/
theorem not_transact_of_ends_neededLookup {lookup : Option ShipToLookup}
    (hends : Ends (neededLookup project kind) transcript lookup) :
    ∀ exchange ∈ transcript, ∀ drafts, exchange.request ≠ .transact drafts := by
  intro exchange hmem drafts
  rw [request_of_ends_neededLookup hends exchange hmem]
  exact StoreRequest.noConfusion

theorem not_transact_of_ends_checkStored {result : Except StoreError (List RowError)}
    (hends : Ends (checkStored project kind rows) transcript result) :
    ∀ exchange ∈ transcript, ∀ drafts, exchange.request ≠ .transact drafts := by
  intro exchange hmem drafts
  obtain ⟨_, rfl, _⟩ | ⟨_, rest, _, rfl, _, hselects⟩ := exists_rest_of_ends_checkStored hends
  · rw [List.mem_singleton.1 hmem]
    exact StoreRequest.noConfusion
  · rcases List.mem_cons.1 hmem with rfl | hrest
    · exact StoreRequest.noConfusion
    · rw [hselects exchange hrest]
      exact StoreRequest.noConfusion

/-- A preview asks what the check asks, and sums up the errors that the check finds. -/
theorem ends_previewRows_iff {result : Except ImportError ValidationResult} :
    Ends (previewRows project kind rows) transcript result ↔
      (∃ e, Ends (checkStored project kind rows) transcript (.error e) ∧
        result = .error (.store e)) ∨
      ∃ errors, Ends (checkStored project kind rows) transcript (.ok errors) ∧
        result = .ok (.summarize rows errors) := by
  simp only [previewRows, ends_bind_iff, ends_log_iff]
  constructor
  · rintro ⟨_, _, _, rfl, rfl, first, checked, second, rfl, hcheck, hends⟩
    cases checked with
    | error e =>
      obtain ⟨rfl, rfl⟩ := hends
      exact .inl ⟨e, by simpa using hcheck, rfl⟩
    | ok errors =>
      simp only [ends_bind_iff, ends_logAll_iff, ends_pure_iff] at hends
      obtain ⟨_, _, _, rfl, rfl, rfl, rfl⟩ := hends
      exact .inr ⟨errors, by simpa using hcheck, rfl⟩
  · rintro (⟨e, hcheck, rfl⟩ | ⟨errors, hcheck, rfl⟩)
    · exact ⟨[], (), transcript, rfl, rfl, transcript, _, [], by simp, hcheck, rfl, rfl⟩
    · refine ⟨[], (), transcript, rfl, rfl, transcript, _, [], by simp, hcheck, ?_⟩
      exact ends_bind_iff.2 ⟨[], (), [], rfl, ends_logAll_iff.2 rfl, rfl, rfl⟩

section Run

variable {σ : Type} {store : Store (StateM σ)} {before between after : σ}

theorem run_neededLookup_installAt (before : σ) :
    run store (neededLookup project .installAt) before =
      (some (.ofAnswer (store (.select project .shipTo) before).1),
        (store (.select project .shipTo) before).2) :=
  run_eq_iff.2
    ⟨_, ends_neededLookup_installAt_iff.2 ⟨_, rfl, rfl⟩, Transcript.follows_singleton_iff.2 rfl⟩

theorem run_neededLookup_of_ne (hkind : kind ≠ .installAt) (before : σ) :
    run store (neededLookup project kind) before = (none, before) :=
  run_eq_iff.2 ⟨[], (ends_neededLookup_iff_of_ne hkind).2 ⟨rfl, rfl⟩, rfl⟩

/-- With an answer to the query for the policy, rows are checked under its flags, with the names that
are found after this query. -/
theorem run_checkStored_of_policy {policy : Option Policy} {lookup : Option ShipToLookup}
    (hpolicy : store (.policy project kind) before = (.ok policy, between))
    (hlookup : run store (neededLookup project kind) between = (lookup, after)) (rows : List Row) :
    run store (checkStored project kind rows) before =
      (.ok (Validation.checkRows kind
        (Policy.requiredKeys (Schema.fields kind) (Policy.flagsOf policy)) lookup rows), after) := by
  obtain ⟨transcript, hends, hfollows⟩ := run_eq_iff.1 hlookup
  obtain rfl : (store (.policy project kind) before).2 = between := congrArg Prod.snd hpolicy
  exact run_eq_iff.2 ⟨_, ends_checkStored_iff.2 (.inr ⟨policy, transcript, lookup, rfl, hends, rfl⟩),
    congrArg Prod.fst hpolicy, hfollows⟩

theorem run_previewRows_of_checkStored {errors : List RowError}
    (hcheck : run store (checkStored project kind rows) before = (.ok errors, after)) :
    run store (previewRows project kind rows) before = (.ok (.summarize rows errors), after) := by
  obtain ⟨transcript, hends, hfollows⟩ := run_eq_iff.1 hcheck
  exact run_eq_iff.2 ⟨transcript, ends_previewRows_iff.2 (.inr ⟨errors, hends, rfl⟩), hfollows⟩

end Run

end Pipeline

/-- An attempt to write a chunk: its rows and the answer to its transaction. -/
structure Attempt where
  chunk : List Row
  outcome : Except Abort (List Address)

namespace Attempt

/-- How many records the attempt created. -/
def created (attempt : Attempt) : Nat :=
  match attempt.outcome with
  | .ok records => records.length
  | .error _ => 0

/-- How many rows with values the attempt did not write. -/
def lost (attempt : Attempt) : Nat :=
  match attempt.outcome with
  | .ok _ => 0
  | .error _ => Row.filledCount attempt.chunk

/-- What became of the chunk. -/
def state (attempt : Attempt) : ChunkState :=
  match attempt.outcome with
  | .ok _ => .committed
  | .error _ => .rolledBack

end Attempt

namespace CommitJob

/-- The request for the chunk with an index, with the answer that it gets in an attempt. -/
def exchange (job : CommitJob) (attempt : Attempt) (index : Nat) : Exchange :=
  ⟨.transact (job.drafts (index * job.chunkSize) attempt.chunk), attempt.outcome⟩

/-- The report on the chunk with an index. -/
def chunkReport (job : CommitJob) (attempt : Attempt) (index : Nat) : ChunkReport where
  index := index
  firstRow := Row.number (index * job.chunkSize)
  lastRow := Row.number (index * job.chunkSize + attempt.chunk.length - 1)
  state := attempt.state

/-- The error of the chunk with an index, if it was given up. -/
def chunkError? (job : CommitJob) (attempt : Attempt) (index : Nat) : Option RowError :=
  match attempt.outcome with
  | .ok _ => none
  | .error abort =>
    let report := job.chunkReport attempt index
    some (chunkError report.firstRow report.lastRow abort)

/-- The exchanges of attempts one after the other, the first one with the given index. -/
def exchanges (job : CommitJob) (index : Nat) (attempts : List Attempt) : Transcript :=
  (attempts.zipIdx index).map fun entry => job.exchange entry.1 entry.2

/-- A result with attempts added to it, the first one with the given index. -/
def summary (job : CommitJob) (index : Nat) (result : ImportResult) (attempts : List Attempt) :
    ImportResult where
  totalRows := result.totalRows
  imported := result.imported + (attempts.map Attempt.created).sum
  failed := result.failed + (attempts.map Attempt.lost).sum
  errors := result.errors ++
    (attempts.zipIdx index).filterMap fun entry => job.chunkError? entry.1 entry.2
  rolledBack := result.rolledBack || attempts.any (decide <| ·.state = .rolledBack)
  chunks := result.chunks ++ (attempts.zipIdx index).map fun entry => job.chunkReport entry.1 entry.2

theorem summary_nil (job : CommitJob) (index : Nat) (result : ImportResult) :
    job.summary index result [] = result := by
  simp [summary]

theorem summary_committed (job : CommitJob) (index : Nat) (result : ImportResult)
    (chunk : List Row) (records : List Address) :
    job.summary index result [⟨chunk, .ok records⟩] =
      { result with
        imported := result.imported + records.length
        chunks := result.chunks ++ [job.chunkReport ⟨chunk, .ok records⟩ index] } := by
  simp [summary, Attempt.created, Attempt.lost, Attempt.state, chunkError?]

theorem summary_rolledBack (job : CommitJob) (index : Nat) (result : ImportResult)
    (chunk : List Row) (abort : Abort) :
    job.summary index result [⟨chunk, .error abort⟩] =
      let report := job.chunkReport ⟨chunk, .error abort⟩ index
      { result with
        failed := result.failed + Row.filledCount chunk
        rolledBack := true
        errors := result.errors ++ [chunkError report.firstRow report.lastRow abort]
        chunks := result.chunks ++ [report] } := by
  simp [summary, Attempt.created, Attempt.lost, Attempt.state, chunkError?]

/-- The attempts after the first one are added to the result after the first one. -/
theorem summary_cons (job : CommitJob) (index : Nat) (result : ImportResult) (attempt : Attempt)
    (rest : List Attempt) :
    job.summary index result (attempt :: rest) =
      job.summary (index + 1) (job.summary index result [attempt]) rest := by
  cases hfound : job.chunkError? attempt index <;>
    simp [summary, hfound, Nat.add_assoc, Bool.or_assoc]

end CommitJob

namespace Pipeline

/-- One step of the loop over chunks: a transaction for the first chunk, whose outcome is added to
the result before the loop goes on. -/
theorem ends_commitChunks_cons_iff {job : CommitJob} {index : Nat} {before after : ImportResult}
    {chunk : List Row} {rest : List (List Row)} {transcript : Transcript} :
    Ends (job.commitChunks index before (chunk :: rest)) transcript after ↔
      ∃ (outcome : Except Abort (List Address)) (others : Transcript),
        transcript = job.exchange ⟨chunk, outcome⟩ index :: others ∧
        Ends (job.commitChunks (index + 1) (job.summary index before [⟨chunk, outcome⟩]) rest)
          others after := by
  simp only [CommitJob.commitChunks, ends_bind_iff, ends_ask_iff]
  constructor
  · rintro ⟨_, outcome, others, rfl, rfl, hends⟩
    refine ⟨outcome, others, rfl, ?_⟩
    cases outcome with
    | ok records =>
      obtain ⟨_, _, _, rfl, hlog, hends⟩ := ends_bind_iff.1 hends
      rw [ends_log_iff.1 hlog, CommitJob.summary_committed]
      exact hends
    | error abort =>
      obtain ⟨_, _, _, rfl, hlog, hends⟩ := ends_bind_iff.1 hends
      rw [ends_log_iff.1 hlog, CommitJob.summary_rolledBack]
      exact hends
  · rintro ⟨outcome, others, rfl, hends⟩
    refine ⟨[job.exchange ⟨chunk, outcome⟩ index], outcome, others, rfl, rfl, ?_⟩
    cases outcome with
    | ok records =>
      rw [CommitJob.summary_committed] at hends
      exact ends_bind_iff.2 ⟨[], (), _, rfl, ends_log_iff.2 rfl, hends⟩
    | error abort =>
      rw [CommitJob.summary_rolledBack] at hends
      exact ends_bind_iff.2 ⟨[], (), _, rfl, ends_log_iff.2 rfl, hends⟩

/-- Chunks are attempted one after the other, and the result is the summary of the attempts. -/
theorem ends_commitChunks_iff {job : CommitJob} {index : Nat} {before after : ImportResult}
    {chunks : List (List Row)} {transcript : Transcript} :
    Ends (job.commitChunks index before chunks) transcript after ↔
      ∃ attempts : List Attempt, attempts.map (·.chunk) = chunks ∧
        transcript = job.exchanges index attempts ∧ after = job.summary index before attempts := by
  induction chunks generalizing index before transcript with
  | nil =>
    rw [CommitJob.commitChunks, ends_pure_iff]
    constructor
    · rintro ⟨rfl, rfl⟩
      exact ⟨[], rfl, rfl, (job.summary_nil ..).symm⟩
    · rintro ⟨attempts, hnone, rfl, rfl⟩
      cases List.map_eq_nil_iff.1 hnone
      exact ⟨rfl, (job.summary_nil ..).symm⟩
  | cons chunk rest ih =>
    simp only [ends_commitChunks_cons_iff, ih]
    constructor
    · rintro ⟨outcome, _, rfl, attempts, rfl, rfl, rfl⟩
      exact ⟨⟨chunk, outcome⟩ :: attempts, rfl, rfl, (job.summary_cons ..).symm⟩
    · rintro ⟨attempts, hchunks, rfl, rfl⟩
      obtain ⟨⟨chunk, outcome⟩, attempts, rfl, rfl, rfl⟩ := List.map_eq_cons_iff.1 hchunks
      exact ⟨outcome, _, rfl, attempts, rfl, rfl, job.summary_cons ..⟩

/-- How a commit can go: the check cannot be made, it finds errors, or the lookup is built once more
and every chunk is attempted. -/
theorem ends_commitRows_iff {project : String} {kind : AddressKind} {rows : List Row}
    {options : CommitOptions} {transcript : Transcript} {result : Except ImportError ImportResult} :
    Ends (commitRows project kind rows options) transcript result ↔
      (∃ e, Ends (checkStored project kind rows) transcript (.error e) ∧
        result = .error (.store e)) ∨
      (∃ errors, errors ≠ [] ∧ Ends (checkStored project kind rows) transcript (.ok errors) ∧
        result = .ok (.refused (Row.filledCount rows) errors)) ∨
      ∃ (first second : Transcript) (lookup : Option ShipToLookup) (attempts : List Attempt),
        let job : CommitJob := ⟨project, kind, max options.chunkSize 1, lookup⟩
        Ends (checkStored project kind rows) first (.ok []) ∧
        Ends (neededLookup project kind) second lookup ∧
        attempts.map (·.chunk) = chunksOf job.chunkSize rows ∧
        transcript = first ++ (second ++ job.exchanges 0 attempts) ∧
        result = .ok (job.summary 0 (.start (Row.filledCount rows)) attempts) := by
  simp only [commitRows, ends_bind_iff, ends_log_iff]
  constructor
  · rintro ⟨_, _, _, rfl, rfl, first, checked, second, rfl, hcheck, hends⟩
    rcases checked with e | _ | ⟨error, others⟩
    · obtain ⟨rfl, rfl⟩ := hends
      exact .inl ⟨e, by simpa using hcheck, rfl⟩
    · simp only [ends_bind_iff, ends_commitChunks_iff, ends_log_iff, ends_pure_iff] at hends
      obtain ⟨second, lookup, _, rfl, hlookup, _, _, _, rfl, ⟨attempts, hchunks, rfl, rfl⟩,
        _, _, _, rfl, rfl, rfl, rfl⟩ := hends
      exact .inr (.inr ⟨first, second, lookup, attempts, hcheck, hlookup, hchunks, by simp, rfl⟩)
    · simp only [ends_bind_iff, ends_log_iff, ends_pure_iff] at hends
      obtain ⟨_, _, _, rfl, rfl, rfl, rfl⟩ := hends
      exact .inr (.inl ⟨error :: others, by simp, by simpa using hcheck, rfl⟩)
  · rintro (⟨e, hcheck, rfl⟩ | ⟨errors, hne, hcheck, rfl⟩ |
      ⟨first, second, lookup, attempts, hcheck, hlookup, hchunks, rfl, rfl⟩)
    · exact ⟨[], (), transcript, rfl, rfl, transcript, _, [], by simp, hcheck, rfl, rfl⟩
    · obtain ⟨error, others, rfl⟩ := List.exists_cons_of_ne_nil hne
      refine ⟨[], (), transcript, rfl, rfl, transcript, _, [], by simp, hcheck, ?_⟩
      exact ends_bind_iff.2 ⟨[], (), [], rfl, ends_log_iff.2 rfl, rfl, rfl⟩
    · refine ⟨[], (), _, rfl, rfl, first, _, _, rfl, hcheck, ?_⟩
      refine ends_bind_iff.2 ⟨second, lookup, _, rfl, hlookup, ?_⟩
      refine ends_bind_iff.2 ⟨_, _, [], by simp, ends_commitChunks_iff.2 ⟨attempts, hchunks, rfl, rfl⟩, ?_⟩
      exact ends_bind_iff.2 ⟨[], (), [], rfl, ends_log_iff.2 rfl, rfl, rfl⟩

/-- A commit asks for the policy first. If it gets an answer, it asks for ship-to addresses and for
transactions only, and has a result at the end. -/
theorem exists_rest_of_ends_commitRows {project : String} {kind : AddressKind}
    {rows : List Row} {options : CommitOptions} {transcript : Transcript}
    {result : Except ImportError ImportResult}
    (hends : Ends (commitRows project kind rows options) transcript result) :
    (∃ cause, transcript = [⟨.policy project kind, .error cause⟩] ∧
      result = .error (.store cause)) ∨
      ∃ (policy : Option Policy) (rest : Transcript) (written : ImportResult),
        transcript = ⟨.policy project kind, .ok policy⟩ :: rest ∧ result = .ok written ∧
        ∀ exchange ∈ rest, exchange.request = .select project .shipTo ∨
          ∃ drafts, exchange.request = .transact drafts := by
  obtain ⟨e, hcheck, rfl⟩ | ⟨errors, _, hcheck, rfl⟩ |
    ⟨first, second, lookup, attempts, hcheck, hlookup, _, rfl, rfl⟩ := ends_commitRows_iff.1 hends
  · obtain ⟨cause, rfl, hcause⟩ | ⟨_, _, _, _, hchecked, _⟩ := exists_rest_of_ends_checkStored hcheck
    · exact .inl ⟨cause, rfl, by rw [Except.error.inj hcause]⟩
    · cases hchecked
  · obtain ⟨_, _, hchecked⟩ | ⟨policy, rest, _, rfl, _, hselects⟩ :=
      exists_rest_of_ends_checkStored hcheck
    · cases hchecked
    · exact .inr ⟨policy, rest, _, rfl, rfl, fun exchange hmem => .inl (hselects exchange hmem)⟩
  · obtain ⟨_, _, hchecked⟩ | ⟨policy, rest, _, rfl, _, hselects⟩ :=
      exists_rest_of_ends_checkStored hcheck
    · cases hchecked
    · refine .inr ⟨policy, _, _, rfl, rfl, fun exchange hmem => ?_⟩
      rcases List.mem_append.1 hmem with hrest | hmem
      · exact .inl (hselects exchange hrest)
      · rcases List.mem_append.1 hmem with hsecond | hattempt
        · exact .inl (request_of_ends_neededLookup hlookup exchange hsecond)
        · obtain ⟨entry, _, rfl⟩ := List.mem_map.1 hattempt
          exact .inr ⟨_, rfl⟩

/-- A commit fails only if the policy cannot be read. -/
theorem policy_error_of_run_commitRows {σ : Type} {store : Store (StateM σ)} {before : σ}
    {project : String} {kind : AddressKind} {rows : List Row} {options : CommitOptions}
    {e : ImportError} (hfailed : (run store (commitRows project kind rows options) before).1 = .error e) :
    ∃ cause, e = .store cause ∧ (store (.policy project kind) before).1 = .error cause := by
  obtain ⟨transcript, hends, hfollows⟩ :=
    exists_transcript_run store (commitRows project kind rows options) before
  rw [hfailed] at hends
  obtain ⟨cause, rfl, hresult⟩ | ⟨_, _, _, _, hresult, _⟩ := exists_rest_of_ends_commitRows hends
  · exact ⟨cause, Except.error.inj hresult, hfollows.1⟩
  · cases hresult

end Pipeline

end AddressIntake

import AddressIntake.Proofs.Import.Upload
import AddressIntake.Proofs.Store.Alike

namespace AddressIntake

namespace Pipeline

variable {α β : Type}

/-- A script that never asks for a change. -/
def OnlyQueries (script : Pipeline α) : Prop :=
  ∀ transcript result, Ends script transcript result →
    ∀ exchange ∈ transcript, exchange.request.isQuery = true

section Queries

variable (project : String) (kind : AddressKind)

theorem onlyQueries_neededLookup : OnlyQueries (neededLookup project kind) := by
  intro transcript lookup hends exchange hmem
  rw [request_of_ends_neededLookup hends exchange hmem]
  rfl

theorem onlyQueries_checkStored (rows : List Row) : OnlyQueries (checkStored project kind rows) := by
  intro transcript result hends exchange hmem
  obtain ⟨_, rfl, _⟩ | ⟨_, rest, lookup, rfl, hlookup, _⟩ := ends_checkStored_iff.1 hends
  · rw [List.mem_singleton.1 hmem]
    rfl
  · rcases List.mem_cons.1 hmem with rfl | hrest
    · rfl
    · exact onlyQueries_neededLookup project kind rest lookup hlookup exchange hrest

theorem onlyQueries_previewUpload (document : Document) (fileKind : FileKind) :
    OnlyQueries (previewUpload document fileKind project kind) := by
  intro transcript result hends exchange hmem
  obtain ⟨_, _, rfl, _⟩ | ⟨_, _, _, hrows, _⟩ := ends_previewUpload_iff.1 hends
  · cases hmem
  · obtain ⟨_, hcheck, _⟩ | ⟨_, hcheck, _⟩ := ends_previewRows_iff.1 hrows
    · exact onlyQueries_checkStored project kind _ transcript _ hcheck exchange hmem
    · exact onlyQueries_checkStored project kind _ transcript _ hcheck exchange hmem

end Queries

section Run

variable {σ : Type} (store : Store (StateM σ)) {project : String} {kind : AddressKind}

/-- One step of the loop over chunks: the loop goes on with the outcome of the first transaction added
to the result. -/
theorem run_commitChunks_cons (job : CommitJob) (index : Nat) (result : ImportResult)
    (chunk : List Row) (rest : List (List Row)) (before : σ) :
    let asked := store (.transact (job.drafts (index * job.chunkSize) chunk)) before
    run store (job.commitChunks index result (chunk :: rest)) before =
      run store (job.commitChunks (index + 1) (job.summary index result [⟨chunk, asked.1⟩]) rest)
        asked.2 := by
  intro asked
  obtain ⟨transcript, hends, hfollows⟩ := exists_transcript_run store
    (job.commitChunks (index + 1) (job.summary index result [⟨chunk, asked.1⟩]) rest) asked.2
  exact run_eq_iff.2 ⟨job.exchange ⟨chunk, asked.1⟩ index :: transcript,
    ends_commitChunks_cons_iff.2 ⟨asked.1, transcript, rfl, hends⟩, rfl, hfollows⟩

variable {before after : σ}

/-- The errors of a preview are those that a check of its rows finds. -/
theorem run_checkStored_of_previewUpload {document : Document} {fileKind : FileKind}
    {result : ValidationResult}
    (hpreview : run store (previewUpload document fileKind project kind) before = (.ok result, after)) :
    run store (checkStored project kind result.rows) before = (.ok result.errors, after) := by
  obtain ⟨transcript, hends, hfollows⟩ := run_eq_iff.1 hpreview
  obtain ⟨_, _, _, hfailed⟩ | ⟨table, checked, _, hrows, hresult⟩ := ends_previewUpload_iff.1 hends
  · cases hfailed
  · obtain ⟨_, _, rfl⟩ | ⟨errors, hcheck, rfl⟩ := ends_previewRows_iff.1 hrows
    · cases hresult
    · cases hresult
      exact run_eq_iff.2 ⟨transcript, hcheck, hfollows⟩

variable (rows : List Row) (options : CommitOptions)

/-- Nothing is written if the check cannot be made. -/
theorem run_commitRows_of_failed_check {e : StoreError}
    (hcheck : run store (checkStored project kind rows) before = (.error e, after)) :
    run store (commitRows project kind rows options) before = (.error (.store e), after) := by
  obtain ⟨transcript, hends, hfollows⟩ := run_eq_iff.1 hcheck
  exact run_eq_iff.2 ⟨transcript, ends_commitRows_iff.2 (.inl ⟨e, hends, rfl⟩), hfollows⟩

/-- Rows are refused if the check finds errors. -/
theorem run_commitRows_of_errors {errors : List RowError} (hne : errors ≠ [])
    (hcheck : run store (checkStored project kind rows) before = (.ok errors, after)) :
    run store (commitRows project kind rows options) before =
      (.ok (.refused (Row.filledCount rows) errors), after) := by
  obtain ⟨transcript, hends, hfollows⟩ := run_eq_iff.1 hcheck
  exact run_eq_iff.2
    ⟨transcript, ends_commitRows_iff.2 (.inr (.inl ⟨errors, hne, hends, rfl⟩)), hfollows⟩

/-- Rows are written in chunks if the check finds no errors. -/
theorem run_commitRows_of_clean
    (hcheck : run store (checkStored project kind rows) before = (.ok [], after)) :
    let looked := run store (neededLookup project kind) after
    let job : CommitJob := ⟨project, kind, max options.chunkSize 1, looked.1⟩
    let written := run store (job.commitChunks 0 (.start (Row.filledCount rows))
      (chunksOf job.chunkSize rows)) looked.2
    run store (commitRows project kind rows options) before = (.ok written.1, written.2) := by
  intro looked job written
  have hstart : run store (commitRows project kind rows options) before = run store
      (neededLookup project kind >>= fun lookup => do
        let job : CommitJob := ⟨project, kind, max options.chunkSize 1, lookup⟩
        let result ← job.commitChunks 0 (.start (Row.filledCount rows))
          (chunksOf job.chunkSize rows)
        log (committedLine result)
        return .ok result) after := by
    rw [commitRows, run_bind]
    refine (run_bind store (checkStored project kind rows) _ before).trans ?_
    rw [hcheck]
  rw [hstart, run_bind, run_bind]
  rfl

end Run

end Pipeline

/-- The summary of an attempt does not tell which records it created. -/
theorem CommitJob.summary_congr (job : CommitJob) (index : Nat) (result : ImportResult)
    (chunk : List Row) {outcome other : Except Abort (List Address)}
    (hsame : other.map (·.map Address.payload) = outcome.map (·.map Address.payload)) :
    job.summary index result [⟨chunk, other⟩] = job.summary index result [⟨chunk, outcome⟩] := by
  cases other with
  | error abort =>
    cases outcome with
    | error abort' =>
      cases hsame
      rfl
    | ok records => cases hsame
  | ok records =>
    cases outcome with
    | error abort => cases hsame
    | ok records' =>
      have hlength : records.length = records'.length := by
        simpa using congrArg List.length (Except.ok.inj hsame)
      rw [summary_committed, summary_committed, hlength]
      rfl

namespace StoreFolder

open Pipeline

variable {α : Type} {folder : String} {host other : Host}

/-- The same queries are answered alike where the same is loaded, and change nothing. -/
theorem follows_of_queries {transcript : Transcript}
    (hqueries : ∀ exchange ∈ transcript, exchange.request.isQuery = true) (hhealthy : host.IsHealthy)
    (hother : other.IsHealthy) (hsame : loaded folder other.tree = loaded folder host.tree)
    {after : Host}
    (hfollows : Transcript.Follows (answer Host.answer Host.fresh folder) host transcript after) :
    (∃ count, after = host.moved host.tree count) ∧
      ∃ count, Transcript.Follows (answer Host.answer Host.fresh folder) other transcript
        (other.moved other.tree count) := by
  induction transcript generalizing host other with
  | nil => exact ⟨⟨0, hfollows⟩, 0, rfl⟩
  | cons exchange rest ih =>
    obtain ⟨hquery, hrest⟩ := List.forall_mem_cons.1 hqueries
    obtain ⟨hanswer, hfollows⟩ := hfollows
    obtain ⟨⟨m, hmoved⟩, hanswers⟩ := query_spec folder hhealthy hquery
    obtain ⟨⟨n, hmoved'⟩, _⟩ := query_spec folder hother hquery
    -- Neither machine has changed its files, so the rest starts where the same is loaded again.
    rw [hmoved] at hfollows
    have hhealthy' : (host.moved host.tree m).IsHealthy := hhealthy
    have hother' : (other.moved other.tree n).IsHealthy := hother
    obtain ⟨⟨i, hafter⟩, j, hfollows'⟩ := ih hrest hhealthy' hother' hsame hfollows
    rw [Host.moved_tree, Host.moved_moved] at hafter hfollows'
    refine ⟨⟨m + i, hafter⟩, n + j, (hanswers other hother hsame).trans hanswer, ?_⟩
    rw [hmoved']
    exact hfollows'

/-- A script that only asks ends alike where the same is loaded, and changes nothing. -/
theorem exists_run_of_onlyQueries (folder : String) {script : Pipeline α} (hscript : OnlyQueries script)
    (hhealthy : host.IsHealthy) (hother : other.IsHealthy)
    (hsame : loaded folder other.tree = loaded folder host.tree) :
    ∃ (value : α) (m n : Nat),
      run (answer Host.answer Host.fresh folder) script host = (value, host.moved host.tree m) ∧
      run (answer Host.answer Host.fresh folder) script other = (value, other.moved other.tree n) := by
  obtain ⟨transcript, hends, hfollows⟩ :=
    exists_transcript_run (answer Host.answer Host.fresh folder) script host
  obtain ⟨⟨m, hafter⟩, n, hfollows'⟩ :=
    follows_of_queries (hscript transcript _ hends) hhealthy hother hsame hfollows
  exact ⟨_, m, n, Prod.ext rfl hafter, run_eq_iff.2 ⟨transcript, hends, hfollows'⟩⟩

namespace Alike

variable {first second : Host}

/-- Chunks meet the same fates. -/
theorem run_commitChunks (halike : Alike folder first second) (job : CommitJob) (index : Nat)
    (result : ImportResult) (chunks : List (List Row)) :
    let done := run (answer Host.answer Host.fresh folder) (job.commitChunks index result chunks) first
    let done' :=
      run (answer Host.answer Host.fresh folder) (job.commitChunks index result chunks) second
    done'.1 = done.1 ∧ Alike folder done.2 done'.2 := by
  induction chunks generalizing index result first second with
  | nil => exact ⟨rfl, halike⟩
  | cons chunk rest ih =>
    intro done done'
    obtain ⟨hrecords, hafter⟩ := halike.transact (job.drafts (index * job.chunkSize) chunk)
    have hrest := ih hafter (index + 1) (job.summary index result
      [⟨chunk, (answer Host.answer Host.fresh folder
        (.transact (job.drafts (index * job.chunkSize) chunk)) first).1⟩])
    have hdone : done = _ := run_commitChunks_cons _ job index result chunk rest first
    have hdone' : done' = _ := run_commitChunks_cons _ job index result chunk rest second
    rw [job.summary_congr index result chunk hrecords] at hdone'
    rw [hdone, hdone']
    exact hrest

/-- Where the same is loaded at the start, rows are committed with the same result, and the folders
hold alike at the end. -/
theorem run_commitRows (halike : Alike folder first second) (project : String)
    (kind : AddressKind) (hsame : loaded folder second.tree = loaded folder first.tree) (rows : List Row)
    (options : CommitOptions) :
    let done := run (answer Host.answer Host.fresh folder) (commitRows project kind rows options) first
    let done' :=
      run (answer Host.answer Host.fresh folder) (commitRows project kind rows options) second
    done'.1 = done.1 ∧ Alike folder done.2 done'.2 := by
  intro done done'
  obtain ⟨checked, m, n, hcheck, hcheck'⟩ := exists_run_of_onlyQueries folder
    (onlyQueries_checkStored project kind rows) halike.healthy
    halike.healthy' hsame
  have hmoved := halike.moved m n
  cases checked with
  | error e =>
    have hdone : done = _ := run_commitRows_of_failed_check _ rows options hcheck
    have hdone' : done' = _ := run_commitRows_of_failed_check _ rows options hcheck'
    rw [hdone, hdone']
    exact ⟨rfl, hmoved⟩
  | ok errors =>
    by_cases hclean : errors = []
    · subst hclean
      obtain ⟨lookup, i, j, hlookup, hlookup'⟩ := exists_run_of_onlyQueries folder
        (onlyQueries_neededLookup project kind) hmoved.healthy
        hmoved.healthy' hsame
      have hdone : done = _ := run_commitRows_of_clean _ rows options hcheck
      have hdone' : done' = _ := run_commitRows_of_clean _ rows options hcheck'
      rw [hlookup] at hdone
      rw [hlookup'] at hdone'
      obtain ⟨hresult, hafter⟩ := (hmoved.moved i j).run_commitChunks
        ⟨project, kind, max options.chunkSize 1, lookup⟩ 0 (.start (Row.filledCount rows))
        (chunksOf (max options.chunkSize 1) rows)
      rw [hdone, hdone']
      exact ⟨congrArg Except.ok hresult, hafter⟩
    · have hdone : done = _ := run_commitRows_of_errors _ rows options hclean hcheck
      have hdone' : done' = _ := run_commitRows_of_errors _ rows options hclean hcheck'
      rw [hdone, hdone']
      exact ⟨rfl, hmoved⟩

end Alike

end StoreFolder

end AddressIntake

import AddressIntake.Proofs.Import.Summary
import AddressIntake.Proofs.Validation

namespace AddressIntake

/-- The answer to a request, with an empty list in place of the error of a query for addresses. -/
def StoreRequest.orEmpty : (request : StoreRequest) → request.Answer → request.Answer
  | .select .., .ok addresses => .ok addresses
  | .select .., .error _ => .ok []
  | .find _, answer | .policy .., answer | .savePolicy _, answer | .transact _, answer => answer

/-- A store that finds no addresses where another one fails to look for them. -/
def Store.orEmpty {σ : Type} (store : Store (StateM σ)) : Store (StateM σ) :=
  fun request before => (store request before).map request.orEmpty id

namespace Pipeline

variable {α β : Type}

/-- A script that takes a query that fails for one that finds nothing. -/
def FailsOpen (script : Pipeline α) : Prop :=
  ∀ (σ : Type) (store : Store (StateM σ)) (before : σ),
    run store.orEmpty script before = run store script before

theorem failsOpen_pure (value : α) : FailsOpen (pure value) :=
  fun _ _ _ => rfl

theorem failsOpen_log (line : LogLine) : FailsOpen (log line) :=
  fun _ _ _ => rfl

theorem failsOpen_ask_policy (project : String) (kind : AddressKind) :
    FailsOpen (ask (.policy project kind)) :=
  fun _ _ _ => rfl

theorem failsOpen_ask_transact (drafts : List Draft) : FailsOpen (ask (.transact drafts)) :=
  fun _ _ _ => rfl

theorem FailsOpen.bind {script : Pipeline α} {next : α → Pipeline β} (hscript : FailsOpen script)
    (hnext : ∀ value, FailsOpen (next value)) : FailsOpen (script >>= next) := by
  intro σ store before
  rw [run_bind, run_bind, hscript, hnext]

theorem failsOpen_neededLookup (project : String) (kind : AddressKind) :
    FailsOpen (neededLookup project kind) := by
  intro σ store before
  by_cases hkind : kind = .installAt
  · subst hkind
    have hlookup (answer : Except StoreError (List Address)) :
        ShipToLookup.ofAnswer ((StoreRequest.select project .shipTo).orEmpty answer) =
          .ofAnswer answer := by
      cases answer <;> rfl
    rw [run_neededLookup_installAt, run_neededLookup_installAt]
    exact Prod.ext (congrArg some (hlookup _)) rfl
  · rw [run_neededLookup_of_ne hkind, run_neededLookup_of_ne hkind]

theorem failsOpen_requiredFlags (project : String) (kind : AddressKind) :
    FailsOpen (requiredFlags project kind) :=
  .bind (failsOpen_ask_policy project kind) fun answer => by
    rcases answer with e | _ | policy <;> exact failsOpen_pure _

theorem failsOpen_checkStored (project : String) (kind : AddressKind) (rows : List Row) :
    FailsOpen (checkStored project kind rows) :=
  .bind (failsOpen_requiredFlags project kind) fun flags => by
    cases flags with
    | error e => exact failsOpen_pure _
    | ok flags => exact .bind (failsOpen_neededLookup project kind) fun _ => failsOpen_pure _

theorem failsOpen_commitChunks (job : CommitJob) (index : Nat) (result : ImportResult)
    (chunks : List (List Row)) : FailsOpen (job.commitChunks index result chunks) := by
  induction chunks generalizing index result with
  | nil => exact failsOpen_pure result
  | cons chunk rest ih =>
    refine .bind (failsOpen_ask_transact _) fun outcome => ?_
    cases outcome with
    | ok created => exact .bind (failsOpen_log _) fun _ => ih _ _
    | error abort => exact .bind (failsOpen_log _) fun _ => ih _ _

theorem failsOpen_commitRows (project : String) (kind : AddressKind) (rows : List Row)
    (options : CommitOptions) : FailsOpen (commitRows project kind rows options) := by
  refine .bind (failsOpen_log _) fun _ => .bind (failsOpen_checkStored project kind rows) fun checked => ?_
  rcases checked with e | _ | ⟨error, others⟩
  · exact failsOpen_pure _
  · exact .bind (failsOpen_neededLookup project kind) fun lookup =>
      .bind (failsOpen_commitChunks _ _ _ _) fun _ => .bind (failsOpen_log _) fun _ => failsOpen_pure _
  · exact .bind (failsOpen_log _) fun _ => failsOpen_pure _

end Pipeline

/-- The results of two commits that go the same way but for one chunk, which is given up in the first
for a reason and written in the second. -/
structure ImportResult.LosesChunk (lost kept : ImportResult) (report : ChunkReport)
    (chunk : List Row) (records : List Address) (reason : Abort) : Prop where
  totalRows : lost.totalRows = kept.totalRows
  imported : lost.imported + records.length = kept.imported
  failed : lost.failed = kept.failed + Row.filledCount chunk
  errors : ∃ earlier later : List RowError,
    lost.errors =
      earlier ++ CommitJob.chunkError report.firstRow report.lastRow reason :: later ∧
    kept.errors = earlier ++ later
  rolledBack : lost.rolledBack = true
  rolledBack_iff : kept.rolledBack = true ↔ ∃ other ∈ kept.chunks, other.state = .rolledBack
  chunks : ∃ earlier later : List ChunkReport, earlier.length = report.index ∧
    lost.chunks = earlier ++ { report with state := .rolledBack } :: later ∧
    kept.chunks = earlier ++ { report with state := .committed } :: later

namespace CommitJob

variable {job : CommitJob}

/-- An exchange in a list of attempts is that of the attempt at its place. -/
theorem exists_attempt_of_exchanges_eq {index : Nat} {attempts : List Attempt}
    {first second : Transcript} {exchange : Exchange}
    (hexchanges : job.exchanges index attempts = first ++ exchange :: second) :
    ∃ (earlier later : List Attempt) (attempt : Attempt), attempts = earlier ++ attempt :: later ∧
      first = job.exchanges index earlier ∧
      exchange = job.exchange attempt (index + earlier.length) ∧
      second = job.exchanges (index + earlier.length + 1) later := by
  induction first generalizing index attempts with
  | nil =>
    cases attempts with
    | nil => cases hexchanges
    | cons attempt later =>
      obtain ⟨hexchange, hsecond⟩ := List.cons_eq_cons.1 hexchanges
      exact ⟨[], later, attempt, rfl, rfl, hexchange.symm, hsecond.symm⟩
  | cons entry first ih =>
    cases attempts with
    | nil => cases hexchanges
    | cons head attempts =>
      obtain ⟨hentry, hrest⟩ := List.cons_eq_cons.1 hexchanges
      obtain ⟨earlier, later, attempt, rfl, hfirst, hexchange, hsecond⟩ := ih hrest
      have hindex : index + (head :: earlier).length = index + 1 + earlier.length := by
        rw [List.length_cons]
        omega
      refine ⟨head :: earlier, later, attempt, rfl, ?_, ?_, ?_⟩
      · rw [← hentry, hfirst]
        rfl
      · rw [hindex, hexchange]
      · rw [hindex, hsecond]

theorem exchanges_append_cons (index : Nat) (earlier later : List Attempt) (attempt : Attempt) :
    job.exchanges index (earlier ++ attempt :: later) =
      job.exchanges index earlier ++ job.exchange attempt (index + earlier.length) ::
        job.exchanges (index + earlier.length + 1) later := by
  rw [exchanges, List.zipIdx_append, List.map_append, List.zipIdx_cons, List.map_cons, exchanges,
    exchanges]

/-- An attempt that fails costs its own chunk, whatever the other attempts are. -/
theorem losesChunk_summary (job : CommitJob) (total : Nat) (earlier later : List Attempt)
    (chunk : List Row) (records : List Address) (reason : Abort) :
    (job.summary 0 (.start total) (earlier ++ ⟨chunk, .error reason⟩ :: later)).LosesChunk
      (job.summary 0 (.start total) (earlier ++ ⟨chunk, .ok records⟩ :: later))
      (job.chunkReport ⟨chunk, .error reason⟩ earlier.length) chunk records reason where
  totalRows := rfl
  imported := by
    simp [summary, Attempt.created]
    omega
  failed := by
    simp [summary, Attempt.lost]
    omega
  errors := by
    refine ⟨(earlier.zipIdx).filterMap fun entry => job.chunkError? entry.1 entry.2,
      (later.zipIdx (earlier.length + 1)).filterMap fun entry => job.chunkError? entry.1 entry.2, ?_, ?_⟩
    · simp [summary, ImportResult.start, List.zipIdx_append, chunkError?, chunkReport]
    · simp [summary, ImportResult.start, List.zipIdx_append, chunkError?]
  rolledBack := by simp [summary, Attempt.state]
  rolledBack_iff := rolledBack_summary_iff total
  chunks := by
    refine ⟨(earlier.zipIdx).map fun entry => job.chunkReport entry.1 entry.2,
      (later.zipIdx (earlier.length + 1)).map fun entry => job.chunkReport entry.1 entry.2, ?_, ?_, ?_⟩
    · simp [chunkReport]
    · simp [summary, ImportResult.start, List.zipIdx_append, chunkReport, Attempt.state]
    · simp [summary, ImportResult.start, List.zipIdx_append, chunkReport, Attempt.state]

end CommitJob

namespace Pipeline

variable {project : String} {kind : AddressKind} {rows : List Row} {options : CommitOptions}

/-- With records in place of the reason why a transaction failed, a commit has the same requests, and
a result that differs in the chunk of the transaction. -/
theorem exists_losesChunk_of_ends_commitRows {first second : Transcript} {drafts : List Draft}
    {reason : Abort} {result : Except ImportError ImportResult}
    (hends : Ends (commitRows project kind rows options)
      (first ++ ⟨.transact drafts, .error reason⟩ :: second) result) :
    ∃ (lookup : Option ShipToLookup) (index : Nat) (chunk : List Row) (lost : ImportResult),
      let job : CommitJob := ⟨project, kind, max options.chunkSize 1, lookup⟩
      (chunksOf job.chunkSize rows)[index]? = some chunk ∧
      drafts = job.drafts (index * job.chunkSize) chunk ∧ result = .ok lost ∧
      ∀ records : List Address, ∃ kept : ImportResult,
        Ends (commitRows project kind rows options)
          (first ++ ⟨.transact drafts, .ok records⟩ :: second) (.ok kept) ∧
        lost.LosesChunk kept (job.chunkReport ⟨chunk, .error reason⟩ index) chunk records reason := by
  obtain ⟨e, hcheck, _⟩ | ⟨errors, _, hcheck, _⟩ |
    ⟨checked, looked, lookup, attempts, hcheck, hlookup, hchunks, hsplit, rfl⟩ :=
      ends_commitRows_iff.1 hends
  · exact absurd rfl (not_transact_of_ends_checkStored hcheck _ List.mem_append_cons_self drafts)
  · exact absurd rfl (not_transact_of_ends_checkStored hcheck _ List.mem_append_cons_self drafts)
  · have hchecked : (⟨.transact drafts, .error reason⟩ : Exchange) ∉ checked ++ looked := fun hmem =>
      (List.mem_append.1 hmem).elim
        (fun hmem => not_transact_of_ends_checkStored hcheck _ hmem drafts rfl)
        (fun hmem => not_transact_of_ends_neededLookup hlookup _ hmem drafts rfl)
    rw [← List.append_assoc] at hsplit
    obtain ⟨between, rfl, hattempts⟩ := exists_of_append_eq_append_cons hchecked hsplit.symm
    obtain ⟨earlier, later, ⟨chunk, outcome⟩, rfl, rfl, hexchange, rfl⟩ :=
      CommitJob.exists_attempt_of_exchanges_eq hattempts
    rw [Nat.zero_add] at hexchange
    cases hexchange
    refine ⟨lookup, earlier.length, chunk, _, ?_, rfl, rfl, fun records => ?_⟩
    · rw [← hchunks]
      simp
    · refine ⟨_, ends_commitRows_iff.2 (.inr (.inr ⟨checked, looked, lookup,
        earlier ++ ⟨chunk, .ok records⟩ :: later, hcheck, hlookup, ?_, ?_, rfl⟩)),
        CommitJob.losesChunk_summary _ _ earlier later chunk records reason⟩
      · rw [← hchunks]
        simp
      · rw [CommitJob.exchanges_append_cons, Nat.zero_add, List.append_assoc, List.append_assoc]
        rfl

/-- What becomes of the failures of a store in a commit that asked for the policy first and then had
the rest of a transcript. -/
structure ContainsFaults {σ : Type} (store : Store (StateM σ)) (project : String)
    (kind : AddressKind) (rows : List Row) (options : CommitOptions) (before : σ)
    (rest : Transcript) : Prop where
  ends : Ends (commitRows project kind rows options)
    (⟨.policy project kind, (store (.policy project kind) before).1⟩ :: rest)
    (run store (commitRows project kind rows options) before).1
  follows : Transcript.Follows store before
    (⟨.policy project kind, (store (.policy project kind) before).1⟩ :: rest)
    (run store (commitRows project kind rows options) before).2
  /-- The policy is not asked for again. -/
  requests : ∀ exchange ∈ rest, exchange.request = .select project .shipTo ∨
    ∃ drafts, exchange.request = .transact drafts
  /-- Only a policy that cannot be read ends the commit without a result. -/
  error_iff : ∀ fault, (run store (commitRows project kind rows options) before).1 = .error fault ↔
    ∃ cause, (store (.policy project kind) before).1 = .error cause ∧ fault = .store cause
  /-- Nothing was asked of the store then. -/
  rest_eq_nil : ∀ cause, (store (.policy project kind) before).1 = .error cause → rest = []
  /-- Ship-to addresses that cannot be read are none. -/
  selects : run store.orEmpty (commitRows project kind rows options) before =
    run store (commitRows project kind rows options) before
  /-- A transaction that fails costs its own chunk. -/
  transactions : ∀ (first second : Transcript) (drafts : List Draft) (reason : Abort),
    rest = first ++ ⟨.transact drafts, .error reason⟩ :: second →
    ∃ (lookup : Option ShipToLookup) (index : Nat) (chunk : List Row) (lost : ImportResult),
      let job : CommitJob := ⟨project, kind, max options.chunkSize 1, lookup⟩
      (chunksOf job.chunkSize rows)[index]? = some chunk ∧
      drafts = job.drafts (index * job.chunkSize) chunk ∧
      (run store (commitRows project kind rows options) before).1 = .ok lost ∧
      ∀ records : List Address, ∃ kept : ImportResult,
        Ends (commitRows project kind rows options)
          (⟨.policy project kind, (store (.policy project kind) before).1⟩ ::
            (first ++ ⟨.transact drafts, .ok records⟩ :: second)) (.ok kept) ∧
        lost.LosesChunk kept (job.chunkReport ⟨chunk, .error reason⟩ index) chunk records reason

/-- Whatever fails in a store, a commit ends without a result only if the policy cannot be read, which
it asks for once and before anything else. -/
theorem commitRows_contains_faults {σ : Type} (store : Store (StateM σ)) (project : String)
    (kind : AddressKind) (rows : List Row) (options : CommitOptions) (before : σ) :
    ∃ rest, ContainsFaults store project kind rows options before rest := by
  obtain ⟨transcript, hends, hfollows⟩ :=
    exists_transcript_run store (commitRows project kind rows options) before
  have hselects := failsOpen_commitRows project kind rows options σ store before
  obtain ⟨cause, rfl, hresult⟩ | ⟨policy, rest, written, rfl, hresult, hrequests⟩ :=
    exists_rest_of_ends_commitRows hends
  · have hpolicy : (store (.policy project kind) before).1 = .error cause := hfollows.1
    rw [← hpolicy] at hends hfollows
    exact ⟨[], {
      ends := hends
      follows := hfollows
      requests := List.forall_mem_nil _
      error_iff := fun fault => by
        rw [hresult, hpolicy]
        constructor
        · intro hfault
          exact ⟨cause, rfl, (Except.error.inj hfault).symm⟩
        · rintro ⟨other, hother, rfl⟩
          cases hother
          rfl
      rest_eq_nil := fun _ _ => rfl
      selects := hselects
      transactions := fun first second drafts reason hrest => by simp at hrest }⟩
  · have hpolicy : (store (.policy project kind) before).1 = .ok policy := hfollows.1
    rw [← hpolicy] at hends hfollows
    exact ⟨rest, {
      ends := hends
      follows := hfollows
      requests := hrequests
      error_iff := fun fault => by simp [hresult, hpolicy]
      rest_eq_nil := fun cause hcause => by
        rw [hpolicy] at hcause
        cases hcause
      selects := hselects
      transactions := fun first second drafts reason hrest => by
        rw [hrest, ← List.cons_append] at hends
        exact exists_losesChunk_of_ends_commitRows hends }⟩

/-- A transaction that fails for the first of two rows in chunks of one, the second of which is
blank. -/
theorem commitRows_contains_a_failed_transaction :
    let store : Store (StateM Nat) := fun request asked =>
      match request with
      | .find _ => (.ok none, asked)
      | .select .. => (.error .poisoned, asked)
      | .policy .. => (.ok none, asked)
      | .savePolicy _ => (.ok (), asked)
      | .transact _ => (if asked = 0 then .error (.store .poisoned) else .ok [], asked + 1)
    let rows : List Row := [.ofList [("address_line1", "1 Main"), ("city", "Springfield"),
      ("state", "IL"), ("country", "US")], .ofList []]
    run store (commitRows "project" .billTo rows ⟨1⟩) 0 =
      (.ok ⟨1, 0, 1, [⟨2, "Transaction", "Rows 2-2 rolled back: Store lock poisoned"⟩], true,
        [⟨0, 2, 2, .rolledBack⟩, ⟨1, 3, 3, .committed⟩]⟩, 2) ∧
      ∃ (lost kept : ImportResult) (report : ChunkReport) (chunk : List Row),
        (run store (commitRows "project" .billTo rows ⟨1⟩) 0).1 = .ok lost ∧
        lost.LosesChunk kept report chunk [] (.store .poisoned) := by
  intro store rows
  have hclean : Validation.checkRows .billTo (Policy.requiredKeys (Schema.fields .billTo)
      (Policy.flagsOf none)) none rows = [] :=
    Validation.checkRows_eq_nil_of_isAdmissible (by decide +kernel) (fun hkind => by cases hkind)
  have hlookup : Ends (neededLookup "project" .billTo) [] none :=
    (ends_neededLookup_iff_of_ne (by decide)).2 ⟨rfl, rfl⟩
  have hcheck : Ends (checkStored "project" .billTo rows)
      [⟨.policy "project" .billTo, .ok none⟩] (.ok []) :=
    ends_checkStored_iff.2 (.inr ⟨none, [], none, rfl, hlookup, by rw [hclean]⟩)
  let attempts : List Attempt :=
    [⟨[.ofList [("address_line1", "1 Main"), ("city", "Springfield"), ("state", "IL"),
      ("country", "US")]], .error (.store .poisoned)⟩, ⟨[.ofList []], .ok []⟩]
  have hchunks : attempts.map (·.chunk) = chunksOf 1 rows := by decide +kernel
  let job : CommitJob := ⟨"project", .billTo, 1, none⟩
  have hends : Ends (commitRows "project" .billTo rows ⟨1⟩)
      (⟨.policy "project" .billTo, .ok none⟩ :: job.exchanges 0 attempts)
      (.ok (job.summary 0 (.start (Row.filledCount rows)) attempts)) :=
    ends_commitRows_iff.2 (.inr (.inr ⟨_, [], none, attempts, hcheck, hlookup, hchunks, rfl, rfl⟩))
  have hfollows : Transcript.Follows store 0
      (⟨.policy "project" .billTo, .ok none⟩ :: job.exchanges 0 attempts) 2 := ⟨rfl, rfl, rfl, rfl⟩
  have hresult : job.summary 0 (.start (Row.filledCount rows)) attempts =
      ⟨1, 0, 1, [⟨2, "Transaction", "Rows 2-2 rolled back: Store lock poisoned"⟩], true,
        [⟨0, 2, 2, .rolledBack⟩, ⟨1, 3, 3, .committed⟩]⟩ := by decide +kernel
  obtain ⟨rest, hrest⟩ := commitRows_contains_faults store "project" .billTo rows ⟨1⟩ 0
  obtain ⟨_, rfl⟩ := List.cons_eq_cons.1 (hrest.ends.eq_of_follows hrest.follows hends hfollows)
  obtain ⟨_, _, chunk, lost, _, _, hlost, hkept⟩ := hrest.transactions [] _ _ _ rfl
  obtain ⟨kept, _, hloses⟩ := hkept []
  exact ⟨run_eq_iff.2 ⟨_, hresult ▸ hends, hfollows⟩, lost, kept, _, chunk, hlost, hloses⟩

end Pipeline

end AddressIntake

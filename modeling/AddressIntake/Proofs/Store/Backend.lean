import AddressIntake.Proofs.Import.Summary

namespace AddressIntake

/-- What a stored address was created from. -/
def Address.payload (address : Address) : NewAddress :=
  ⟨address.project, address.kind, address.fields, address.shipTo⟩

/-- A store with its states, the addresses that it holds in a state, and those that it refuses. -/
structure Backend where
  State : Type
  store : Store (StateM State)
  held : State → List Address
  refuses : State → NewAddress → Option String

/-- The records that an exchange added to a store, if it was a transaction that succeeded. -/
def Exchange.block? : Exchange → Option (List Address)
  | ⟨.transact _, .ok records⟩ => some records
  | _ => none

theorem Exchange.block?_eq_some_iff {exchange : Exchange} {block : List Address} :
    exchange.block? = some block ↔ ∃ drafts, exchange = ⟨.transact drafts, .ok block⟩ := by
  constructor
  · obtain ⟨request, answer⟩ := exchange
    intro hblock
    cases request with
    | find | select | policy | savePolicy => cases hblock
    | transact drafts =>
      cases answer with
      | error abort => cases hblock
      | ok records => exact ⟨drafts, congrArg _ (congrArg _ (Option.some.inj hblock))⟩
  · rintro ⟨drafts, rfl⟩
    rfl

namespace Transcript

/-- The records that the exchanges of a transcript added, one block for each transaction that
succeeded. -/
def blocks (transcript : Transcript) : List (List Address) :=
  transcript.filterMap Exchange.block?

theorem blocks_append (first second : Transcript) :
    blocks (first ++ second) = first.blocks ++ second.blocks :=
  List.filterMap_append

theorem blocks_cons_ok (drafts : List Draft) (records : List Address) (rest : Transcript) :
    blocks (⟨.transact drafts, .ok records⟩ :: rest) = records :: rest.blocks :=
  rfl

theorem blocks_eq_nil {transcript : Transcript}
    (hqueries : ∀ exchange ∈ transcript, ∀ drafts, exchange.request ≠ .transact drafts) :
    transcript.blocks = [] := by
  refine List.filterMap_eq_nil_iff.2 fun exchange hmem => ?_
  rw [Option.eq_none_iff_forall_ne_some]
  intro block hblock
  obtain ⟨drafts, rfl⟩ := Exchange.block?_eq_some_iff.1 hblock
  exact hqueries _ hmem drafts rfl

theorem blocks_cons_of_ne {exchange : Exchange}
    (hother : ∀ drafts, exchange.request ≠ .transact drafts) (rest : Transcript) :
    blocks (exchange :: rest) = rest.blocks := by
  have hnone : blocks [exchange] = [] := blocks_eq_nil (by simpa using hother)
  rw [← List.singleton_append, blocks_append, hnone, List.nil_append]

end Transcript

namespace Backend

/-- The requests that are no transactions change no addresses. A transaction adds the staged
addresses, or it fails as the staging does or for a reason of the store and adds none. -/
structure IsSound (backend : Backend) : Prop where
  refuses_eq : ∀ (request : StoreRequest) (before : backend.State),
    backend.refuses (backend.store request before).2 = backend.refuses before
  held_eq : ∀ (request : StoreRequest) (before : backend.State),
    (∀ drafts, request ≠ .transact drafts) →
    backend.held (backend.store request before).2 = backend.held before
  committed : ∀ (drafts : List Draft) (before after : backend.State) (records : List Address),
    backend.store (.transact drafts) before = (.ok records, after) →
    stage (backend.refuses before) drafts = .ok (records.map Address.payload) ∧
      backend.held after = backend.held before ++ records
  aborted : ∀ (drafts : List Draft) (before after : backend.State) (abort : Abort),
    backend.store (.transact drafts) before = (.error abort, after) →
    (stage (backend.refuses before) drafts = .error abort ∨ ∃ e, abort = .store e) ∧
      backend.held after = backend.held before

end Backend

/-- An attempt that a sound store answered: it succeeds only with a record for every row that is not
blank, and if a name is not known, this is so at the first bad row of the chunk. -/
structure Attempt.IsAnswered (job : CommitJob) (refuses : NewAddress → Option String)
    (attempt : Attempt) (index : Nat) : Prop where
  complete : attempt.IsComplete
  unresolved : ∀ error, attempt.outcome = .error (.unresolved error) →
    ∃ (before : List Row) (row : Row) (after : List Row),
      attempt.chunk = before ++ row :: after ∧ before.any (job.isBad refuses) = false ∧
      job.isBad refuses row = true ∧ job.isDangling row = true ∧
      error = Validation.unresolved (Row.number (index * job.chunkSize + before.length))
        ((row.value? Schema.shipToKey).getD "")

namespace Backend

variable {backend : Backend} {job : CommitJob} {attempt : Attempt} {index : Nat}
  {before after : backend.State}

/-- One attempt adds the records that it created and is answered. -/
theorem IsSound.exchange (hsound : backend.IsSound)
    (hanswer : backend.store (.transact (job.drafts (index * job.chunkSize) attempt.chunk)) before =
      (attempt.outcome, after)) :
    attempt.IsAnswered job (backend.refuses before) index ∧
      ∃ added, backend.held after = backend.held before ++ added ∧
        added.length = attempt.created := by
  cases houtcome : attempt.outcome with
  | ok records =>
    rw [houtcome] at hanswer
    obtain ⟨hstage, hheld⟩ := hsound.committed _ _ _ _ hanswer
    refine ⟨⟨fun others hothers => ?_, fun error herror => ?_⟩, records, hheld, ?_⟩
    · rw [houtcome, Except.ok.injEq] at hothers
      subst hothers
      have hlength := congrArg List.length ((job.stage_drafts_eq_ok_iff _).1 hstage).2
      simpa [CommitJob.chunkAddresses, Row.filledCount, List.countP_eq_length_filter]
        using hlength.symm
    · rw [houtcome] at herror
      cases herror
    · rw [Attempt.created, houtcome]
  | error abort =>
    rw [houtcome] at hanswer
    obtain ⟨hcause, hheld⟩ := hsound.aborted _ _ _ _ hanswer
    refine ⟨⟨fun records hrecords => ?_, fun error herror => ?_⟩, [], ?_, ?_⟩
    · rw [houtcome] at hrecords
      cases hrecords
    · rw [houtcome, Except.error.injEq] at herror
      subst herror
      obtain hstage | ⟨e, he⟩ := hcause
      · cases hbad : attempt.chunk.any (job.isBad (backend.refuses before)) with
        | false =>
          rw [job.stage_drafts_of_clean _ hbad] at hstage
          cases hstage
        | true =>
          obtain ⟨earlier, row, later, hchunk, hearlier, hrow⟩ := job.exists_first_isBad _ hbad
          rw [hchunk, job.stage_drafts_of_bad _ hearlier hrow, CommitJob.abortAt] at hstage
          cases hdangling : job.isDangling row with
          | false => simp [hdangling] at hstage
          | true =>
            rw [if_pos hdangling, Except.error.injEq, Abort.unresolved.injEq] at hstage
            exact ⟨earlier, row, later, hchunk, hearlier, hrow, hdangling, hstage.symm⟩
      · cases he
    · rw [hheld, List.append_nil]
    · rw [Attempt.created, houtcome, List.length_nil]

/-- Attempts one after the other add the records that they created, and each of them is answered. -/
theorem IsSound.exchanges (hsound : backend.IsSound) {attempts : List Attempt}
    (hfollows : Transcript.Follows backend.store before (job.exchanges index attempts) after) :
    (∀ (i : Nat) (attempt : Attempt), attempts[i]? = some attempt →
      attempt.IsAnswered job (backend.refuses before) (index + i)) ∧
    ∃ added, backend.held after = backend.held before ++ added ∧
      added.length = (attempts.map Attempt.created).sum := by
  induction attempts generalizing before index with
  | nil =>
    refine ⟨fun i attempt hattempt => ?_, [], ?_, rfl⟩
    · rw [List.getElem?_nil] at hattempt
      cases hattempt
    · rw [hfollows, List.append_nil]
  | cons attempt attempts ih =>
    rw [CommitJob.exchanges, List.zipIdx_cons, List.map_cons] at hfollows
    obtain ⟨houtcome, hrest⟩ := hfollows
    obtain ⟨hanswered, first, hfirst, hcreated⟩ := hsound.exchange (Prod.ext houtcome rfl)
    obtain ⟨hothers, added, hadded, hlength⟩ := ih hrest
    refine ⟨fun i other hother => ?_, first ++ added, ?_, ?_⟩
    · cases i with
      | zero =>
        cases hother
        exact hanswered
      | succ i =>
        have hnext := hothers i other hother
        rw [CommitJob.exchange, hsound.refuses_eq] at hnext
        rwa [Nat.add_assoc, Nat.add_comm 1] at hnext
    · rw [hadded, ← List.append_assoc]
      exact congrArg (· ++ added) hfirst
    · rw [List.length_append, List.map_cons, List.sum_cons, hcreated, hlength]

/-- The addresses grow by the blocks of a transcript, one after the other. -/
theorem IsSound.held_eq_append_blocks (hsound : backend.IsSound) {transcript : Transcript}
    (hfollows : Transcript.Follows backend.store before transcript after) :
    backend.held after = backend.held before ++ transcript.blocks.flatten ∧
      backend.refuses after = backend.refuses before := by
  induction transcript generalizing before with
  | nil =>
    rw [hfollows]
    exact ⟨(List.append_nil _).symm, rfl⟩
  | cons exchange rest ih =>
    obtain ⟨hanswer, hrest⟩ := hfollows
    obtain ⟨hheld, hrefuses⟩ := ih hrest
    refine ⟨?_, hrefuses.trans (hsound.refuses_eq _ _)⟩
    by_cases htransact : ∃ drafts, exchange.request = .transact drafts
    · obtain ⟨request, answer⟩ := exchange
      obtain ⟨drafts, rfl⟩ := htransact
      cases answer with
      | ok records =>
        obtain ⟨_, hadded⟩ := hsound.committed drafts before _ records (Prod.ext hanswer rfl)
        rw [hheld, hadded, Transcript.blocks_cons_ok, List.flatten_cons, List.append_assoc]
      | error abort =>
        obtain ⟨_, hkept⟩ := hsound.aborted drafts before _ abort (Prod.ext hanswer rfl)
        rw [hheld, hkept]
        rfl
    · have hother : ∀ drafts, exchange.request ≠ .transact drafts := not_exists.1 htransact
      rw [hheld, hsound.held_eq _ _ hother, Transcript.blocks_cons_of_ne hother]

/-- Requests that are no transactions leave the addresses as they are. -/
theorem IsSound.held_of_follows (hsound : backend.IsSound) {transcript : Transcript}
    (hqueries : ∀ exchange ∈ transcript, ∀ drafts, exchange.request ≠ .transact drafts)
    (hfollows : Transcript.Follows backend.store before transcript after) :
    backend.held after = backend.held before ∧ backend.refuses after = backend.refuses before := by
  obtain ⟨hheld, hrefuses⟩ := hsound.held_eq_append_blocks hfollows
  rw [Transcript.blocks_eq_nil hqueries, List.flatten_nil, List.append_nil] at hheld
  exact ⟨hheld, hrefuses⟩

end Backend

end AddressIntake

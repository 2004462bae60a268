import AddressIntake.Store.Memory
import AddressIntake.Proofs.Import.Conversation
import AddressIntake.Proofs.Store.Backend

namespace AddressIntake

/-- What an answer to a query for ship-to addresses becomes, by the number of such queries that were
asked before. -/
abbrev Drift := Nat → Except StoreError (List Address) → Except StoreError (List Address)

namespace Store

variable {σ : Type}

/-- The store whose answers to queries for ship-to addresses drift. -/
def drifting (drift : Drift) (store : Store (StateM σ)) : Store (StateM (σ × Nat))
  | .select project .shipTo => fun (s, asked) =>
    let (answer, after) := store (.select project .shipTo) s
    (drift asked answer, (after, asked + 1))
  | r => fun (s, asked) =>
    let (answer, after) := store r s
    (answer, (after, asked))

/-- Without any drift a script goes on as over the store below. -/
theorem run_drifting_id {α : Type} (store : Store (StateM σ)) (script : Pipeline α) (before : σ)
    (asked : Nat) :
    ∃ total, Pipeline.run (store.drifting fun _ answer => answer) script (before, asked) =
      ((Pipeline.run store script before).1, ((Pipeline.run store script before).2, total)) := by
  induction script generalizing before asked with
  | done value => exact ⟨asked, rfl⟩
  | ask effect next ih =>
    cases effect with
    | log line => exact ih () before asked
    | store request =>
      cases request with
      | find | policy | savePolicy | transact => exact ih _ _ asked
      | select project kind =>
        cases kind with
        | shipTo => exact ih _ _ (asked + 1)
        | billFrom | shipFrom | billTo | installAt => exact ih _ _ asked

/-- Transactions do not see the drift. -/
theorem follows_drifting_exchanges_iff {drift : Drift} {store : Store (StateM σ)} {job : CommitJob}
    {index : Nat} {attempts : List Attempt} {before : σ} {asked : Nat} {after : σ × Nat} :
    Transcript.Follows (store.drifting drift) (before, asked) (job.exchanges index attempts) after ↔
      Transcript.Follows store before (job.exchanges index attempts) after.1 ∧ after.2 = asked := by
  induction attempts generalizing index before with
  | nil => exact Prod.ext_iff
  | cons attempt attempts ih =>
    rw [CommitJob.exchanges, List.zipIdx_cons, List.map_cons]
    exact (and_congr_right fun _ => ih).trans and_assoc.symm

end Store

namespace Backend

/-- A backend whose answers to queries for ship-to addresses drift. It holds what the one below
holds. -/
def drifting (drift : Drift) (backend : Backend) : Backend where
  State := backend.State × Nat
  store := backend.store.drifting drift
  held state := backend.held state.1
  refuses state := backend.refuses state.1

/-- The state below changes as if nothing drifted. -/
theorem fst_snd_drifting (drift : Drift) (backend : Backend) (request : StoreRequest)
    (before : backend.State × Nat) :
    ((backend.store.drifting drift) request before).2.1 = (backend.store request before.1).2 := by
  cases request with
  | find | policy | savePolicy | transact => rfl
  | select project kind =>
    cases kind with
    | shipTo | billFrom | shipFrom | billTo | installAt => rfl

/-- Drift does no harm to what a store does. -/
theorem IsSound.drifting {backend : Backend} (hsound : backend.IsSound) (drift : Drift) :
    (backend.drifting drift).IsSound where
  refuses_eq request before :=
    (congrArg backend.refuses (fst_snd_drifting drift backend request before)).trans
      (hsound.refuses_eq request before.1)
  held_eq request before hrequest :=
    (congrArg backend.held (fst_snd_drifting drift backend request before)).trans
      (hsound.held_eq request before.1 hrequest)
  committed drafts before after records hanswer := by
    obtain ⟨hrecords, hafter⟩ := Prod.ext_iff.1 hanswer
    exact hsound.committed drafts before.1 after.1 records (Prod.ext hrecords (congrArg Prod.fst hafter))
  aborted drafts before after abort hanswer := by
    obtain ⟨habort, hafter⟩ := Prod.ext_iff.1 hanswer
    exact hsound.aborted drafts before.1 after.1 abort (Prod.ext habort (congrArg Prod.fst hafter))

end Backend

end AddressIntake

import AddressIntake.Proofs.Import.Persistence
import Mathlib.Data.List.Forall2

namespace AddressIntake

namespace MemoryStore

open Pipeline

/-- A change to a store: a commit, during which the store refuses some addresses, or a policy that
is saved. -/
inductive Change where
  | commit (refuses : NewAddress → Option String) (project : String) (kind : AddressKind)
      (rows : List Row) (options : CommitOptions)
  | savePolicy (policy : Policy)

/-- The rows that a change brings. -/
def Change.rows : Change → List Row
  | .commit _ _ _ rows _ => rows
  | .savePolicy _ => []

/-- The store after a change. -/
def apply (store : MemoryStore) : Change → MemoryStore
  | .commit refuses project kind rows options =>
    (run answer (commitRows project kind rows options) { store with refuses }).2
  | .savePolicy policy => (respond (.savePolicy policy) store).2

/-- The rows that a change turns into addresses: the clean rows of a commit that finds no errors. -/
def sources (store : MemoryStore) : Change → List Row
  | .commit refuses project kind rows options =>
    if store.errorsOf project kind rows (store.shipToAnswer project) = [] then
      (CommitJob.ofCommit project kind options (store.shipToAnswer project)).cleanRows refuses rows
    else []
  | .savePolicy _ => []

/-- The store after changes one after the other. -/
def applyAll (store : MemoryStore) (changes : List Change) : MemoryStore :=
  changes.foldl apply store

/-- The rows that changes turn into addresses, one change after the other. -/
def allSources (store : MemoryStore) : List Change → List Row
  | [] => []
  | change :: rest => store.sources change ++ (store.apply change).allSources rest

theorem sources_sublist_rows (store : MemoryStore) (change : Change) :
    (store.sources change).Sublist change.rows := by
  cases change with
  | savePolicy policy => exact .slnil
  | commit refuses project kind rows options =>
    rw [sources, Change.rows]
    split
    · exact CommitJob.cleanRows_sublist ..
    · exact List.nil_sublist rows

/-- No row is made up: the rows that became addresses are among those that were committed, in the
same order. -/
theorem allSources_sublist_rows (store : MemoryStore) (changes : List Change) :
    (store.allSources changes).Sublist (changes.flatMap Change.rows) := by
  induction changes generalizing store with
  | nil => exact .slnil
  | cons change rest ih =>
    rw [allSources, List.flatMap_cons]
    exact (store.sources_sublist_rows change).append (ih (store.apply change))

theorem map_id_stamped (store : MemoryStore) (created : List NewAddress) :
    (store.stamped created).map (·.id) =
      (List.range created.length).map fun i => (store.stamps (store.issued + i)).id := by
  have hid : (fun address : Address => address.id) ∘
      (fun entry => Address.ofNew (store.stamps (store.issued + entry.2)) entry.1) =
        (fun i => (store.stamps (store.issued + i)).id) ∘ Prod.snd (α := NewAddress) (β := Nat) := rfl
  rw [stamped_eq, List.map_map, hid, ← List.map_map, List.zipIdx_map_snd, List.range_eq_range']

/-- Records are stamped in the order of the rows that they are made from. -/
theorem forall₂_stamped (store : MemoryStore) (job : CommitJob) (rows : List Row) :
    List.Forall₂ (fun row address => job.newAddress row = address.payload) rows
      (store.stamped (rows.map job.newAddress)) := by
  refine List.forall₂_map_left_iff.1 (List.forall₂_map_right_iff.1 ?_)
  rw [map_payload_stamped, List.forall₂_eq_eq_eq]

/-- A commit creates addresses from its source rows, and changes nothing else. -/
theorem apply_commit (store : MemoryStore) (refuses : NewAddress → Option String) (project : String)
    (kind : AddressKind) (rows : List Row) (options : CommitOptions) :
    let job := CommitJob.ofCommit project kind options (store.shipToAnswer project)
    store.apply (.commit refuses project kind rows options) =
      ({ store with refuses } : MemoryStore).create
        ((store.sources (.commit refuses project kind rows options)).map job.newAddress) := by
  intro job
  obtain ⟨hrefused, hwritten⟩ :=
    run_answer_commitRows { store with refuses } project kind rows options
  by_cases herrors : store.errorsOf project kind rows (store.shipToAnswer project) = []
  · rw [sources, if_pos herrors]
    exact (hwritten herrors).1
  · rw [sources, if_neg herrors, List.map_nil, create_nil]
    exact congrArg Prod.snd (hrefused herrors)

end MemoryStore

end AddressIntake

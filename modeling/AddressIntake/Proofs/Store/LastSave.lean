import AddressIntake.Proofs.Http.Service
import AddressIntake.Proofs.Import.Lockstep
import AddressIntake.Proofs.Registry
import AddressIntake.Proofs.Store.Interchange

namespace AddressIntake

open Pipeline

namespace Operation

/-- The policy that an operation saves. -/
def saved? : Operation → Option Policy
  | savePolicy policy => some policy
  | _ => none

/-- The last policy that operations save for a project and kind. -/
def lastSaved? (operations : List Operation) (project : String) (kind : AddressKind) :
    Option Policy :=
  (operations.filterMap saved?).reverse.find? (Registry.governs project kind)

/-- The flags of the last policy that operations save for a project and kind. Without one no flag is
set. -/
def lastFlags (operations : List Operation) (project : String) (kind : AddressKind) : PolicyFlags :=
  Policy.flagsOf (lastSaved? operations project kind)

/-- Only the operation that saves a policy asks for a policy to be saved. -/
theorem not_savePolicy_of_ends {operation : Operation} (hnone : operation.saved? = none)
    {transcript : Transcript} {result : operation.Result}
    (hends : Ends operation.script transcript result) :
    ∀ exchange ∈ transcript, ∀ policy, exchange.request ≠ .savePolicy policy := by
  have hqueries {exchange : Exchange} (hquery : exchange.request.isQuery = true) (policy : Policy) :
      exchange.request ≠ .savePolicy policy := by
    intro hsave
    rw [hsave] at hquery
    cases hquery
  intro exchange hmem policy
  cases operation with
  | savePolicy saved => cases hnone
  | list | find =>
    rw [ends_ask_iff.1 hends] at hmem
    rw [List.mem_singleton.1 hmem]
    exact StoreRequest.noConfusion
  | flags project kind =>
    obtain ⟨answer, rfl, _⟩ := ends_requiredFlags_iff.1 hends
    rw [List.mem_singleton.1 hmem]
    exact StoreRequest.noConfusion
  | lookup project =>
    obtain ⟨answer, rfl, _⟩ := ends_shipToLookup_iff.1 hends
    rw [List.mem_singleton.1 hmem]
    exact StoreRequest.noConfusion
  | preview project kind rows =>
    obtain ⟨_, hcheck, _⟩ | ⟨_, hcheck, _⟩ := ends_previewRows_iff.1 hends
    · exact hqueries (onlyQueries_checkStored project kind rows transcript _ hcheck exchange hmem) _
    · exact hqueries (onlyQueries_checkStored project kind rows transcript _ hcheck exchange hmem) _
  | commit project kind rows options =>
    obtain ⟨_, hcheck, _⟩ | ⟨_, _, hcheck, _⟩ |
      ⟨first, second, lookup, attempts, hcheck, hlookup, _, rfl, _⟩ := ends_commitRows_iff.1 hends
    · exact hqueries (onlyQueries_checkStored project kind rows transcript _ hcheck exchange hmem) _
    · exact hqueries (onlyQueries_checkStored project kind rows transcript _ hcheck exchange hmem) _
    · simp only [List.mem_append] at hmem
      obtain hfirst | hsecond | hthird := hmem
      · exact hqueries (onlyQueries_checkStored project kind rows first _ hcheck exchange hfirst) _
      · exact hqueries (onlyQueries_neededLookup project kind second _ hlookup exchange hsecond) _
      · obtain ⟨entry, _, rfl⟩ := List.mem_map.1 hthird
        exact StoreRequest.noConfusion

end Operation

/-- A store that keeps a registry: policies are read and saved there, queries change nothing, and
transactions add what is staged. -/
structure Store.Keeps {σ : Type} (store : Store (StateM σ)) (refuses : NewAddress → Option String)
    (holds : σ → Registry → Prop) : Prop where
  query : ∀ {state : σ} {registry : Registry} (request : StoreRequest), holds state registry →
    request.isQuery = true → holds (store request state).2 registry
  policy : ∀ {state : σ} {registry : Registry} (project : String) (kind : AddressKind),
    holds state registry →
    (store (.policy project kind) state).1 = .ok (registry.policy? project kind)
  select : ∀ {state state' : σ} {registry registry' : Registry} (project : String)
    (kind : AddressKind), holds state registry → holds state' registry' →
    registry'.addresses = registry.addresses →
    (store (.select project kind) state').1 = (store (.select project kind) state).1
  savePolicy : ∀ {state : σ} {registry : Registry} (policy : Policy), holds state registry →
    (store (.savePolicy policy) state).1 = .ok () ∧
      holds (store (.savePolicy policy) state).2 (registry.savePolicy policy)
  transact : ∀ {state : σ} {registry : Registry} (drafts : List Draft), holds state registry →
    (store (.transact drafts) state).1.map (·.map Address.payload) = stage refuses drafts ∧
      ∃ added, holds (store (.transact drafts) state).2 (registry.append added)

namespace MemoryStore

/-- A store in memory keeps its registry. -/
theorem keeps (readable : Bool) (refuses : NewAddress → Option String) :
    Store.Keeps answer refuses fun store registry =>
      store.registry = registry ∧ store.readable = readable ∧ store.refuses = refuses where
  query request hholds hquery := by
    cases request with
    | find | select | policy => exact hholds
    | savePolicy | transact => cases hquery
  policy project kind hholds := by
    rw [← hholds.1]
    rfl
  select project kind hholds hholds' haddresses := by
    obtain ⟨rfl, rfl, _⟩ := hholds
    obtain ⟨rfl, hreadable, _⟩ := hholds'
    simp only [answer, respond, Registry.select, hreadable, haddresses]
  savePolicy policy hholds := by
    obtain ⟨rfl, hreadable, hrefuses⟩ := hholds
    exact ⟨rfl, rfl, hreadable, hrefuses⟩
  transact {store registry} drafts hholds := by
    obtain ⟨rfl, rfl, rfl⟩ := hholds
    obtain ⟨created, hstage, hrun⟩ | ⟨abort, hstage, hrun⟩ := store.respond_transact_cases drafts
    · have hrun : answer (.transact drafts) store = _ := hrun
      rw [hrun, hstage]
      exact ⟨congrArg Except.ok (store.map_payload_stamped created), _, rfl, rfl, rfl⟩
    · have hrun : answer (.transact drafts) store = _ := hrun
      rw [hrun, hstage]
      refine ⟨rfl, [], ?_, rfl, rfl⟩
      rw [Registry.append, List.append_nil]

end MemoryStore

namespace StoreFolder

/-- A folder on a machine on which nothing goes wrong keeps what its files hold. -/
theorem keeps (folder : String) :
    Store.Keeps (answer Host.answer Host.fresh folder) (fun _ => none) fun host registry =>
      ∃ store, Mirrors folder store host ∧ store.registry = registry where
  query request hholds hquery := by
    obtain ⟨store, hmirrors, rfl⟩ := hholds
    have hafter := (hmirrors.respond_query hquery).2
    refine ⟨_, hafter, ?_⟩
    cases request with
    | find | select | policy => rfl
    | savePolicy | transact => cases hquery
  policy project kind hholds := by
    obtain ⟨store, hmirrors, rfl⟩ := hholds
    exact (hmirrors.respond_query rfl).1
  select project kind hholds hholds' haddresses := by
    obtain ⟨store, hmirrors, rfl⟩ := hholds
    obtain ⟨store', hmirrors', rfl⟩ := hholds'
    rw [(hmirrors.respond_query rfl).1, (hmirrors'.respond_query rfl).1]
    simp only [MemoryStore.answer, MemoryStore.respond, Registry.select, hmirrors.readable,
      hmirrors'.readable, haddresses]
  savePolicy policy hholds := by
    obtain ⟨store, hmirrors, rfl⟩ := hholds
    obtain ⟨hanswer, hafter⟩ := hmirrors.respond_savePolicy policy
    exact ⟨hanswer, _, hafter, rfl⟩
  transact drafts hholds := by
    obtain ⟨store, hmirrors, rfl⟩ := hholds
    obtain ⟨hanswer, hafter⟩ := hmirrors.respond_transact drafts
    obtain ⟨hstage, added, hadded, _⟩ :=
      (MemoryStore.keeps store.readable store.refuses).transact drafts ⟨rfl, rfl, rfl⟩
    rw [hanswer, hstage, hmirrors.refuses]
    exact ⟨rfl, added, _, hafter, hadded⟩

end StoreFolder

namespace Store.Keeps

variable {σ : Type} {store : Store (StateM σ)} {refuses : NewAddress → Option String}
  {holds : σ → Registry → Prop} (hkeeps : store.Keeps refuses holds) {state state' : σ}
  {registry registry' : Registry}

include hkeeps

section Scripts

/-- Unless a policy is saved, addresses are added and nothing else changes. -/
theorem exists_added_of_follows {transcript : Transcript} {after : σ}
    (hnever : ∀ exchange ∈ transcript, ∀ policy, exchange.request ≠ .savePolicy policy)
    (hholds : holds state registry) (hfollows : Transcript.Follows store state transcript after) :
    ∃ added, holds after (registry.append added) := by
  induction transcript generalizing state registry with
  | nil =>
    obtain rfl : after = state := hfollows
    refine ⟨[], ?_⟩
    rw [Registry.append, List.append_nil]
    exact hholds
  | cons exchange rest ih =>
    obtain ⟨hfirst, hrest⟩ := List.forall_mem_cons.1 hnever
    obtain ⟨request, answer⟩ := exchange
    obtain ⟨_, hfollows⟩ := hfollows
    cases request with
    | find id => exact ih hrest (hkeeps.query (.find id) hholds rfl) hfollows
    | select project kind => exact ih hrest (hkeeps.query (.select project kind) hholds rfl) hfollows
    | policy project kind => exact ih hrest (hkeeps.query (.policy project kind) hholds rfl) hfollows
    | savePolicy policy => exact absurd rfl (hfirst policy)
    | transact drafts =>
      obtain ⟨_, first, hafter⟩ := hkeeps.transact drafts hholds
      obtain ⟨others, hothers⟩ := ih hrest hafter hfollows
      refine ⟨first ++ others, ?_⟩
      rw [Registry.append, ← List.append_assoc]
      exact hothers

/-- Queries leave the registry as it is. -/
theorem holds_of_follows {transcript : Transcript} {after : σ}
    (hqueries : ∀ exchange ∈ transcript, exchange.request.isQuery = true)
    (hholds : holds state registry) (hfollows : Transcript.Follows store state transcript after) :
    holds after registry := by
  induction transcript generalizing state with
  | nil =>
    obtain rfl : after = state := hfollows
    exact hholds
  | cons exchange rest ih =>
    obtain ⟨hfirst, hrest⟩ := List.forall_mem_cons.1 hqueries
    exact ih hrest (hkeeps.query exchange.request hholds hfirst) hfollows.2

theorem holds_run_of_onlyQueries {α : Type} {script : Pipeline α} (hscript : OnlyQueries script)
    (hholds : holds state registry) : holds (run store script state).2 registry := by
  obtain ⟨transcript, hends, hfollows⟩ := exists_transcript_run store script state
  exact hkeeps.holds_of_follows (hscript transcript _ hends) hholds hfollows

/-- One step: after an operation the policies are those from before, with the one put among them that
the operation saves, if it saves any. -/
theorem exists_holds_run (operation : Operation) (hholds : holds state registry) :
    ∃ after, holds (run store operation.script state).2 after ∧
      after.policies = Registry.putAll operation.saved?.toList registry.policies := by
  cases hsaved : operation.saved? with
  | some policy =>
    cases operation with
    | savePolicy saved =>
      obtain rfl : saved = policy := Option.some.inj hsaved
      exact ⟨_, (hkeeps.savePolicy saved hholds).2, rfl⟩
    | commit | preview | list | find | flags | lookup => cases hsaved
  | none =>
    obtain ⟨transcript, hends, hfollows⟩ := exists_transcript_run store operation.script state
    obtain ⟨added, hafter⟩ := hkeeps.exists_added_of_follows
      (Operation.not_savePolicy_of_ends hsaved hends) hholds hfollows
    exact ⟨_, hafter, rfl⟩

/-- After any operations the policies are those from before, with the saved ones put among them one
after the other. -/
theorem exists_holds_runAll (operations : List Operation) (hholds : holds state registry) :
    ∃ after, holds (Operation.runAll store operations state).2 after ∧
      after.policies =
        Registry.putAll (operations.filterMap Operation.saved?) registry.policies := by
  induction operations generalizing state registry with
  | nil => exact ⟨registry, hholds, rfl⟩
  | cons operation rest ih =>
    obtain ⟨between, hbetween, hfirst⟩ := hkeeps.exists_holds_run operation hholds
    obtain ⟨after, hafter, hrest⟩ := ih hbetween
    refine ⟨after, hafter, ?_⟩
    rw [hrest, hfirst, List.filterMap_cons]
    cases operation.saved? <;> rfl

end Scripts

section Required

variable (project : String) (kind : AddressKind)

theorem run_requiredFlags (hholds : holds state registry) :
    run store (requiredFlags project kind) state =
      (.ok (Policy.flagsOf (registry.policy? project kind)),
        (store (.policy project kind) state).2) := by
  have hanswer := hkeeps.policy project kind hholds
  exact run_eq_iff.2 ⟨_, ends_requiredFlags_iff.2 ⟨_, rfl, rfl⟩,
    Transcript.follows_singleton_iff.2 (Prod.ext hanswer rfl)⟩

/-- The names that rows may refer to depend on the addresses alone. -/
theorem run_neededLookup_eq (hholds : holds state registry) (hholds' : holds state' registry')
    (haddresses : registry'.addresses = registry.addresses) :
    (run store (neededLookup project kind) state').1 =
      (run store (neededLookup project kind) state).1 := by
  by_cases hkind : kind = .installAt
  · subst hkind
    rw [run_neededLookup_installAt, run_neededLookup_installAt,
      hkeeps.select project .shipTo hholds hholds' haddresses]
  · rw [run_neededLookup_of_ne hkind, run_neededLookup_of_ne hkind]

/-- The errors that a check finds in rows: those under the stored policy. -/
theorem run_checkStored (rows : List Row) (hholds : holds state registry) :
    (run store (checkStored project kind rows) state).1 =
      .ok (Validation.checkRows kind
        (Policy.requiredKeys (Schema.fields kind)
          (Policy.flagsOf (registry.policy? project kind)))
        (run store (neededLookup project kind) state).1 rows) := by
  have hanswer := hkeeps.policy project kind hholds
  have hasked := hkeeps.query (.policy project kind) hholds rfl
  rw [← hkeeps.run_neededLookup_eq project kind hholds hasked rfl]
  exact congrArg Prod.fst (run_checkStored_of_policy (Prod.ext hanswer rfl) rfl rows)

theorem run_previewRows (rows : List Row) (hholds : holds state registry) :
    (run store (previewRows project kind rows) state).1 =
      .ok (.summarize rows (Validation.checkRows kind
        (Policy.requiredKeys (Schema.fields kind)
          (Policy.flagsOf (registry.policy? project kind)))
        (run store (neededLookup project kind) state).1 rows)) :=
  congrArg Prod.fst (run_previewRows_of_checkStored
    (Prod.ext (hkeeps.run_checkStored project kind rows hholds) rfl))

/-- Chunks meet the same fates, whatever is stored. -/
theorem run_commitChunks_eq (job : CommitJob) (index : Nat) (result : ImportResult)
    (chunks : List (List Row)) (hholds : holds state registry) (hholds' : holds state' registry') :
    (run store (job.commitChunks index result chunks) state').1 =
      (run store (job.commitChunks index result chunks) state).1 := by
  induction chunks generalizing index result state state' registry registry' with
  | nil => rfl
  | cons chunk rest ih =>
    obtain ⟨hstage, added, hafter⟩ :=
      hkeeps.transact (job.drafts (index * job.chunkSize) chunk) hholds
    obtain ⟨hstage', added', hafter'⟩ :=
      hkeeps.transact (job.drafts (index * job.chunkSize) chunk) hholds'
    rw [run_commitChunks_cons, run_commitChunks_cons,
      job.summary_congr index result chunk (hstage'.trans hstage.symm)]
    exact ih _ _ hafter hafter'

/-- Where the same addresses are stored and the policies have the same flags, commits have the same
result. -/
theorem run_commitRows_eq (rows : List Row) (options : CommitOptions)
    (hholds : holds state registry) (hholds' : holds state' registry')
    (haddresses : registry'.addresses = registry.addresses)
    (hflags : Policy.flagsOf (registry'.policy? project kind) =
      Policy.flagsOf (registry.policy? project kind)) :
    (run store (commitRows project kind rows options) state').1 =
      (run store (commitRows project kind rows options) state).1 := by
  have hlookup := hkeeps.run_neededLookup_eq project kind hholds hholds' haddresses
  have hcheck := hkeeps.run_checkStored project kind rows hholds
  have hcheck' := hkeeps.run_checkStored project kind rows hholds'
  rw [hflags, hlookup] at hcheck'
  have hchecked := hkeeps.holds_run_of_onlyQueries (onlyQueries_checkStored project kind rows) hholds
  have hchecked' :=
    hkeeps.holds_run_of_onlyQueries (onlyQueries_checkStored project kind rows) hholds'
  generalize Validation.checkRows kind (Policy.requiredKeys (Schema.fields kind)
    (Policy.flagsOf (registry.policy? project kind)))
    (run store (neededLookup project kind) state).1 rows = errors at hcheck hcheck'
  by_cases hclean : errors = []
  · subst hclean
    rw [run_commitRows_of_clean store rows options (Prod.ext hcheck rfl),
      run_commitRows_of_clean store rows options (Prod.ext hcheck' rfl)]
    dsimp only
    rw [hkeeps.run_neededLookup_eq project kind hchecked hchecked' haddresses]
    exact congrArg Except.ok (hkeeps.run_commitChunks_eq _ _ _ _
      (hkeeps.holds_run_of_onlyQueries (onlyQueries_neededLookup project kind) hchecked)
      (hkeeps.holds_run_of_onlyQueries (onlyQueries_neededLookup project kind) hchecked'))
  · rw [run_commitRows_of_errors store rows options hclean (Prod.ext hcheck rfl),
      run_commitRows_of_errors store rows options hclean (Prod.ext hcheck' rfl)]

end Required

end Store.Keeps

namespace Operation

/-- The state that operations leave behind. -/
def leaves {σ : Type} (store : Store (StateM σ)) (start : σ) (operations : List Operation) : σ :=
  (runAll store operations start).2

end Operation

/-- The policies of a store after operations are those that were saved last. There is one for each
project and kind at most, it is the one that is read, and to save another one changes nothing but
what is read for the project and kind of this one. What depends on required fields depends on the flags
that were saved last: the errors of previews and commits and the headers of templates. -/
structure Store.LastSaveCounts {σ : Type} (store : Store (StateM σ))
    (held : σ → Except StoreError Registry) (start : σ) (operations : List Operation) : Prop where
  stored : ∃ registry, held (Operation.leaves store start operations) = .ok registry ∧
    (registry.policies.map Registry.policyKey).Nodup ∧
    ∀ project kind, registry.policy? project kind = Operation.lastSaved? operations project kind
  flags : ∀ project kind,
    (run store (requiredFlags project kind) (Operation.leaves store start operations)).1 =
      .ok (Operation.lastFlags operations project kind)
  saving : ∀ policy, let before := Operation.leaves store start operations
    let saved := store (.savePolicy policy) before
    saved.1 = .ok () ∧
    (∃ registry registry', held before = .ok registry ∧ held saved.2 = .ok registry' ∧
      registry'.addresses = registry.addresses) ∧
    ∀ project kind, Registry.governs project kind policy = false →
      (run store (requiredFlags project kind) saved.2).1 =
        (run store (requiredFlags project kind) before).1
  preview : ∀ project kind rows, let after := Operation.leaves store start operations
    (run store (previewRows project kind rows) after).1 = .ok (.summarize rows
      (Validation.checkRows kind
        (Policy.requiredKeys (Schema.fields kind) (Operation.lastFlags operations project kind))
        (run store (neededLookup project kind) after).1 rows))
  template : ∀ project kind,
    (run store (Http.Service.template project kind.tag).run
      (Operation.leaves store start operations)).1 =
        Http.Service.templateResponse kind (Operation.lastFlags operations project kind)
  alike : ∀ (others : List Operation) (project : String) (kind : AddressKind)
    (registry registry' : Registry),
    Operation.lastFlags others project kind = Operation.lastFlags operations project kind →
    held (Operation.leaves store start operations) = .ok registry →
    held (Operation.leaves store start others) = .ok registry' →
    registry'.addresses = registry.addresses → ∀ (rows : List Row) (options : CommitOptions),
    (run store (previewRows project kind rows) (Operation.leaves store start others)).1 =
        (run store (previewRows project kind rows) (Operation.leaves store start operations)).1 ∧
      (run store (commitRows project kind rows options)
          (Operation.leaves store start others)).1 =
        (run store (commitRows project kind rows options)
          (Operation.leaves store start operations)).1

namespace Store.Keeps

variable {σ : Type} {store : Store (StateM σ)} {refuses : NewAddress → Option String}
  {holds : σ → Registry → Prop}

/-- From an empty registry operations leave the policies behind that they saved last. -/
theorem exists_holds_leaves (hkeeps : store.Keeps refuses holds) {start : σ}
    (hstart : holds start .empty) (operations : List Operation) :
    ∃ registry, holds (Operation.leaves store start operations) registry ∧
      (registry.policies.map Registry.policyKey).Nodup ∧
      ∀ project kind,
        registry.policy? project kind = Operation.lastSaved? operations project kind := by
  obtain ⟨registry, hholds, hpolicies⟩ := hkeeps.exists_holds_runAll operations hstart
  refine ⟨registry, hholds, ?_, fun project kind => ?_⟩
  · rw [hpolicies]
    exact Registry.nodup_putAll _ List.nodup_nil
  · rw [Registry.policy?, hpolicies, Registry.find?_putAll]
    exact Option.or_none

theorem lastSaveCounts (hkeeps : store.Keeps refuses holds) {held : σ → Except StoreError Registry}
    (hheld : ∀ state registry, holds state registry → held state = .ok registry) {start : σ}
    (hstart : holds start .empty) (operations : List Operation) :
    store.LastSaveCounts held start operations := by
  obtain ⟨registry, hholds, hnodup, hlast⟩ := hkeeps.exists_holds_leaves hstart operations
  refine ⟨⟨registry, hheld _ _ hholds, hnodup, hlast⟩, fun project kind => ?flags,
    fun policy => ?saving, fun project kind rows => ?preview, fun project kind => ?template,
    fun others project kind first second hsame hfirst hsecond haddresses rows options => ?alike⟩
  case flags => rw [hkeeps.run_requiredFlags project kind hholds, hlast, Operation.lastFlags]
  case saving =>
    obtain ⟨hanswer, hsaved⟩ := hkeeps.savePolicy policy hholds
    refine ⟨hanswer, ⟨_, _, hheld _ _ hholds, hheld _ _ hsaved, rfl⟩, fun project kind hother => ?_⟩
    rw [hkeeps.run_requiredFlags project kind hholds, hkeeps.run_requiredFlags project kind hsaved,
      Registry.policy?_savePolicy, if_neg (Bool.eq_false_iff.1 hother)]
  case preview =>
    have hpreview := hkeeps.run_previewRows project kind rows hholds
    rw [hlast] at hpreview
    exact hpreview
  case template =>
    rw [Http.Service.run_template (hkeeps.run_requiredFlags project kind hholds), hlast,
      Operation.lastFlags]
  case alike =>
    obtain ⟨registry', hholds', _, hlast'⟩ := hkeeps.exists_holds_leaves hstart others
    obtain rfl : registry = first := Except.ok.inj ((hheld _ _ hholds).symm.trans hfirst)
    obtain rfl : registry' = second := Except.ok.inj ((hheld _ _ hholds').symm.trans hsecond)
    have hflags : Policy.flagsOf (registry'.policy? project kind) =
        Policy.flagsOf (registry.policy? project kind) := by
      rw [hlast, hlast']
      exact hsame
    refine ⟨?_, hkeeps.run_commitRows_eq project kind rows options hholds hholds' haddresses hflags⟩
    rw [hkeeps.run_previewRows project kind rows hholds,
      hkeeps.run_previewRows project kind rows hholds', hflags,
      hkeeps.run_neededLookup_eq project kind hholds hholds' haddresses]

end Store.Keeps

namespace StoreFolder

theorem loaded_of_mirrors {folder : String} {store : MemoryStore} {host : Host}
    (hmirrors : Mirrors folder store host) : loaded folder host.tree = .ok store.registry := by
  rw [loaded, hmirrors.addresses, hmirrors.policies]

end StoreFolder

/-- Whatever is done with an empty store in memory or with a folder without files on a machine on
which nothing goes wrong, the policies are those that were saved last. -/
theorem Store.last_saved_policies_count (operations : List Operation) :
    (∀ start : MemoryStore, start.registry = .empty →
      Store.LastSaveCounts MemoryStore.answer (fun store => .ok store.registry) start operations) ∧
    ∀ (folder : String) (tree : FileTree) (stamps : Nat → Stamp), StoreFolder.IsVacant folder tree →
      Store.LastSaveCounts (StoreFolder.answer Host.answer Host.fresh folder)
        (fun host => StoreFolder.loaded folder host.tree) (.working tree stamps) operations := by
  refine ⟨fun start hempty => ?memory, fun folder tree stamps hvacant => ?folder⟩
  case memory =>
    refine (MemoryStore.keeps start.readable start.refuses).lastSaveCounts
      (fun store registry hholds => ?_) ⟨hempty, rfl, rfl⟩ operations
    rw [hholds.1]
  case folder =>
    refine (StoreFolder.keeps folder).lastSaveCounts (fun host registry hholds => ?_)
      ⟨_, StoreFolder.mirrors_of_isVacant hvacant stamps, rfl⟩ operations
    obtain ⟨store, hmirrors, rfl⟩ := hholds
    exact StoreFolder.loaded_of_mirrors hmirrors

/-- A policy that is saved twice with different flags, and rows that are committed in between. -/
theorem Store.last_saved_policies_count_after_two_saves :
    let stamps : Nat → Stamp := fun _ => ⟨.zero, .epoch⟩
    let made := StoreFolder.make FileTree.answer "data" .empty
    let operations : List Operation :=
      [.savePolicy ⟨"project", .shipTo, Policy.flagsRequiring ["phone", "email"], .epoch⟩,
        .commit "project" .shipTo [.ofList [("city", "Springfield")]] .default,
        .savePolicy ⟨"project", .billTo, Policy.flagsRequiring ["ein"], .epoch⟩,
        .savePolicy ⟨"project", .shipTo, Policy.flagsRequiring ["email"], .epoch⟩]
    Operation.lastFlags operations "project" .shipTo = Policy.flagsRequiring ["email"] ∧
    Store.LastSaveCounts MemoryStore.answer (fun store => .ok store.registry) (.empty stamps)
      operations ∧
    Store.LastSaveCounts (StoreFolder.answer Host.answer Host.fresh "data")
      (fun host => StoreFolder.loaded "data" host.tree) (.working made.2 stamps) operations := by
  intro stamps made operations
  obtain ⟨hmemory, hfolder⟩ := last_saved_policies_count operations
  have hvacant : StoreFolder.IsVacant "data" made.2 := by
    simp only [StoreFolder.IsVacant, StoreFolder.paths, List.forall_mem_cons, List.not_mem_nil]
    exact ⟨rfl, rfl, rfl, rfl, by simp⟩
  exact ⟨by decide, hmemory (.empty stamps) rfl, hfolder "data" made.2 stamps hvacant⟩

end AddressIntake

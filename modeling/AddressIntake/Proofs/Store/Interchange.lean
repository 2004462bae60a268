import AddressIntake.Proofs.Import.Operation
import AddressIntake.Proofs.Store.Memory
import AddressIntake.Proofs.Store.OnHost

namespace AddressIntake

namespace StoreFolder

variable {folder : String} {store : MemoryStore} {host : Host}

/-- Stamps are taken one after the other, as by a store in memory. -/
theorem stampAll_eq (hstamps : host.stamps = store.stamps) (hissued : host.issued = store.issued)
    (created : List NewAddress) :
    stampAll Host.fresh created host =
      (store.stamped created, { host with issued := host.issued + created.length }) := by
  induction created generalizing host store with
  | nil => rfl
  | cons new created ih =>
    let next : Host := { host with issued := host.issued + 1 }
    have hrun : stampAll Host.fresh (new :: created) host =
        (.ofNew (host.stamps host.issued) new :: (stampAll Host.fresh created next).1,
          (stampAll Host.fresh created next).2) := rfl
    have hrest : stampAll Host.fresh created next = ((store.create [new]).stamped created, _) :=
      ih hstamps (congrArg (· + 1) hissued)
    have hfirst : store.stamped [new] = [.ofNew (host.stamps host.issued) new] := by
      rw [hstamps, hissued]
      rfl
    have hsplit : store.stamped (new :: created) = _ := store.stamped_append [new] created
    rw [hrun, hrest, hsplit, hfirst, List.length_cons, Nat.add_comm created.length, ← Nat.add_assoc]
    rfl

/-- A machine whose folder holds what a store in memory holds, both with the same stamps to come. The
store refuses nothing, and nothing goes wrong on the machine. -/
structure Mirrors (folder : String) (store : MemoryStore) (host : Host) : Prop where
  readable : store.readable = true
  refuses : store.refuses = fun _ => none
  stamps : host.stamps = store.stamps
  issued : host.issued = store.issued
  healthy : ∀ n, host.mishaps n = none
  isOpen : IsOpen folder host.tree
  addresses : storedAddresses folder host.tree = .ok store.registry.addresses
  policies : storedPolicies folder host.tree = .ok store.registry.policies

namespace Mirrors

theorem load_eq (hmirrors : Mirrors folder store host) :
    ∃ count, load Host.answer folder host = (.ok store.registry, host.moved host.tree count) := by
  obtain ⟨loaded, count, hload, _, hstored⟩ := load_spec folder host
  rw [hstored store.registry hmirrors.healthy hmirrors.addresses hmirrors.policies] at hload
  exact ⟨count, hload host.tree ⟨rfl, rfl⟩⟩

/-- Requests that change nothing leave the folder as it was. -/
theorem moved (hmirrors : Mirrors folder store host) (count : Nat) :
    Mirrors folder store (host.moved host.tree count) :=
  ⟨hmirrors.readable, hmirrors.refuses, hmirrors.stamps, hmirrors.issued, hmirrors.healthy,
    hmirrors.isOpen, hmirrors.addresses, hmirrors.policies⟩

end Mirrors

/-- Without a mishap a list is written, and the files of the folder can be written again. -/
theorem writeList_of_isOpen (folder : String) (host : Host) (hhealthy : ∀ n, host.mishaps n = none)
    (hopen : IsOpen folder host.tree) {name : String} (hname : name ∈ [addressesName, policiesName])
    {α : Type} (write : α → Json) (items : List α) :
    ∃ (after : FileTree) (count : Nat),
      writeList Host.answer write (joinPath folder name) items host = (.ok (), host.moved after count) ∧
      IsOpen folder after ∧
      after.reach (joinPath folder name) = .ok (some (.file (listDocument write items))) ∧
      ∀ other ∈ [addressesName, policiesName], other ≠ name →
        after.reach (joinPath folder other) = host.tree.reach (joinPath folder other) := by
  obtain ⟨after, count, ⟨hwrite, hwritten, hgone⟩ | ⟨_, _, hfailed⟩, hothers⟩ :=
    writeList_cases folder host name hname write items
  · refine ⟨after, count, hwrite, fun other hmem => ?_, hwritten, fun other hmem hne => ?_⟩
    · by_cases hsame : other = name
      · exact ⟨_, hsame ▸ hwritten, by simp⟩
      · by_cases hsame' : other = name ++ unfinishedSuffix
        · exact ⟨_, hsame' ▸ hgone, by simp⟩
        · rw [hothers other hmem hsame hsame']
          exact hopen other hmem
    · have hsettled : ∀ other ∈ [addressesName, policiesName], other ∈ names ∧
          ∀ name ∈ [addressesName, policiesName], other ≠ name ++ unfinishedSuffix := by decide
      exact hothers other (hsettled other hmem).1 hne ((hsettled other hmem).2 name hname)
  · exact absurd hopen (hfailed hhealthy)

namespace Mirrors

/-- What is found in memory is found in the folder. -/
theorem respond_query (hmirrors : Mirrors folder store host) {query : StoreRequest}
    (hquery : query.isQuery = true) :
    (answer Host.answer Host.fresh folder query host).1 = (MemoryStore.answer query store).1 ∧
      Mirrors folder (MemoryStore.answer query store).2
        (answer Host.answer Host.fresh folder query host).2 := by
  obtain ⟨count, hload⟩ := hmirrors.load_eq
  obtain ⟨registry, stamps, issued, readable, refuses⟩ := store
  obtain rfl : readable = true := hmirrors.readable
  cases query with
  | savePolicy | transact => cases hquery
  | find | select | policy =>
    rw [answer, Contents.bind_eq_of_eq hload]
    exact ⟨rfl, hmirrors.moved count⟩

/-- A policy that is saved in memory is saved in the folder. -/
theorem respond_savePolicy (hmirrors : Mirrors folder store host) (policy : Policy) :
    (answer Host.answer Host.fresh folder (.savePolicy policy) host).1 =
        (MemoryStore.answer (.savePolicy policy) store).1 ∧
      Mirrors folder (MemoryStore.answer (.savePolicy policy) store).2
        (answer Host.answer Host.fresh folder (.savePolicy policy) host).2 := by
  obtain ⟨count, hload⟩ := hmirrors.load_eq
  obtain ⟨after, asked, hwrite, hopen, hwritten, hothers⟩ :=
    writeList_of_isOpen folder (host.moved host.tree count) hmirrors.healthy hmirrors.isOpen
      (by decide : policiesName ∈ _) Policy.toJson (store.registry.savePolicy policy).policies
  have hfolder : answer Host.answer Host.fresh folder (.savePolicy policy) host = (.ok (), _) :=
    (Contents.bind_eq_of_eq hload).trans hwrite
  have haddresses : storedAddresses folder after = storedAddresses folder host.tree :=
    congrArg (listAt Address.decoder none) (hothers addressesName (by decide) (by decide))
  rw [hfolder]
  exact ⟨rfl, {
    hmirrors with
    isOpen := hopen
    addresses := haddresses.trans hmirrors.addresses
    policies := storedPolicies_of_written hwritten }⟩

/-- A transaction that succeeds in memory succeeds in the folder, with the same records; one that
is given up is given up there for the same reason. -/
theorem respond_transact (hmirrors : Mirrors folder store host) (drafts : List Draft) :
    (answer Host.answer Host.fresh folder (.transact drafts) host).1 =
        (MemoryStore.answer (.transact drafts) store).1 ∧
      Mirrors folder (MemoryStore.answer (.transact drafts) store).2
        (answer Host.answer Host.fresh folder (.transact drafts) host).2 := by
  obtain ⟨count, hload⟩ := hmirrors.load_eq
  obtain ⟨created, hstage, hmemory⟩ | ⟨abort, hstage, hmemory⟩ := store.respond_transact_cases drafts
  · have hmemory : MemoryStore.answer (.transact drafts) store = _ := hmemory
    rw [hmirrors.refuses] at hstage
    let stamped : Host := { host.moved host.tree count with issued := host.issued + created.length }
    have hstamps : stampAll Host.fresh created (host.moved host.tree count) =
        (store.stamped created, stamped) :=
      stampAll_eq (hmirrors.moved count).stamps (hmirrors.moved count).issued created
    obtain ⟨after, asked, hwrite, hopen, hwritten, hothers⟩ :=
      writeList_of_isOpen folder stamped hmirrors.healthy hmirrors.isOpen
        (by decide : addressesName ∈ _) Address.toJson
        (store.registry.append (store.stamped created)).addresses
    have hloaded : answer Host.answer Host.fresh folder (.transact drafts) host = _ :=
      Contents.bind_eq_of_eq hload
    rw [hstage] at hloaded
    have hfolder : answer Host.answer Host.fresh folder (.transact drafts) host =
        (.ok (store.stamped created), stamped.moved after asked) :=
      hloaded.trans ((Contents.bind_eq_of_eq hstamps).trans (Contents.bind_eq_of_eq hwrite))
    have hpolicies : storedPolicies folder after = storedPolicies folder host.tree :=
      congrArg (listAt Policy.decoder none) (hothers policiesName (by decide) (by decide))
    rw [hfolder, hmemory]
    exact ⟨rfl, {
      hmirrors with
      issued := congrArg (· + created.length) hmirrors.issued
      isOpen := hopen
      addresses := storedAddresses_of_written hwritten
      policies := hpolicies.trans hmirrors.policies }⟩
  · have hmemory : MemoryStore.answer (.transact drafts) store = _ := hmemory
    rw [hmirrors.refuses] at hstage
    have hfolder : answer Host.answer Host.fresh folder (.transact drafts) host = _ :=
      Contents.bind_eq_of_eq hload
    rw [hstage] at hfolder
    rw [hfolder, hmemory]
    exact ⟨rfl, hmirrors.moved count⟩

end Mirrors

/-- One step: a request is answered alike, and the folder holds again what the memory holds. -/
theorem answerAlike (folder : String) :
    (answer Host.answer Host.fresh folder).AnswerAlike MemoryStore.answer
      fun host store => Mirrors folder store host := by
  intro request host store hmirrors
  cases request with
  | find | select | policy => exact hmirrors.respond_query rfl
  | savePolicy policy => exact hmirrors.respond_savePolicy policy
  | transact drafts => exact hmirrors.respond_transact drafts

/-- A folder in which there is nothing at the paths of the files of a store. -/
def IsVacant (folder : String) (tree : FileTree) : Prop :=
  ∀ path ∈ paths folder, tree.reach path = .ok none

theorem mirrors_of_isVacant {tree : FileTree} (hvacant : IsVacant folder tree)
    (stamps : Nat → Stamp) : Mirrors folder (.empty stamps) (.working tree stamps) where
  readable := rfl
  refuses := rfl
  stamps := rfl
  issued := rfl
  healthy _ := rfl
  isOpen name hname := by
    refine ⟨none, hvacant _ ?_, by simp⟩
    rw [paths_eq_map]
    exact List.mem_map_of_mem hname
  addresses := congrArg (listAt Address.decoder none) (hvacant _ (addressesPath_mem folder))
  policies := congrArg (listAt Policy.decoder none) (hvacant _ (policiesPath_mem folder))

/-- From a folder without files, on a machine on which nothing goes wrong, operations have the
results that they have over an empty store in memory. After any number of them, and of the requests
that make up the next one, what is loaded from the files is what the memory holds. -/
theorem folder_and_memory_are_interchangeable {tree : FileTree} (hvacant : IsVacant folder tree)
    (stamps : Nat → Stamp) (operations : List Operation) :
    let onDisk := Operation.runAll (answer Host.answer Host.fresh folder) operations
      (.working tree stamps)
    let inMemory := Operation.runAll MemoryStore.answer operations (.empty stamps)
    onDisk.1 = inMemory.1 ∧
    ∀ requests : List StoreRequest,
      let asked := (answer Host.answer Host.fresh folder).askAll requests onDisk.2
      let expected := Store.askAll MemoryStore.answer requests inMemory.2
      asked.1 = expected.1 ∧ (load Host.answer folder asked.2).1 = .ok expected.2.registry := by
  intro onDisk inMemory
  obtain ⟨hresults, hmirrors⟩ := Operation.runAll_of_answerAlike (answerAlike folder) operations
    (mirrors_of_isVacant hvacant stamps)
  refine ⟨hresults, fun requests => ?_⟩
  obtain ⟨hanswers, hmirrors⟩ := (answerAlike folder).askAll requests hmirrors
  obtain ⟨count, hload⟩ := hmirrors.load_eq
  exact ⟨hanswers, congrArg Prod.fst hload⟩

/-- A folder that was just made, and an address that is written and listed. -/
theorem folder_and_memory_are_interchangeable_in_a_new_folder :
    let stamps : Nat → Stamp := fun _ => ⟨.zero, .epoch⟩
    let made := make FileTree.answer "data" .empty
    let row : Row := .ofList [("company_name", "Acme"), ("address_line1", "1 Main Street"),
      ("city", "Springfield"), ("state", "IL"), ("country", "US")]
    let operations : List Operation :=
      [.commit "project" .shipTo [row] .default, .list "project" .shipTo]
    made.1 = .ok () ∧ IsVacant "data" made.2 ∧
      (Operation.runAll (answer Host.answer Host.fresh "data") operations
          (.working made.2 stamps)).1 =
        (Operation.runAll MemoryStore.answer operations (.empty stamps)).1 := by
  intro stamps made row operations
  have hvacant : IsVacant "data" made.2 := by
    simp only [IsVacant, paths, List.forall_mem_cons, List.not_mem_nil]
    exact ⟨rfl, rfl, rfl, rfl, by simp⟩
  exact ⟨rfl, hvacant, (folder_and_memory_are_interchangeable hvacant stamps operations).1⟩

end StoreFolder

end AddressIntake

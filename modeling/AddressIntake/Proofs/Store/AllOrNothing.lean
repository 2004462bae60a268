import AddressIntake.Proofs.Store.OnHost
import AddressIntake.Store.Block

namespace AddressIntake

namespace Block

variable {ε α β : Type}

/-- A block that leaves records aside, one for each address that it creates, and ends with a result
if it is given these records for answers. -/
def Stages : Block ε α → List Address → Except ε α → Prop
  | Script.done result, staged, last => staged = [] ∧ result = last
  | Script.ask new next, staged, last => ∃ (address : Address) (others : List Address),
    staged = address :: others ∧ address.payload = new ∧ Stages (next (.ok address)) others last

/-- A block takes stamps and touches no files. -/
theorem exists_perform_eq (block : Block ε α) (host : Host) :
    ∃ (result : Except ε α) (staged : List Address) (issued : Nat),
      block.perform Host.fresh host = ((result, staged), { host with issued }) ∧
      block.Stages staged result := by
  induction block generalizing host with
  | done result => exact ⟨result, [], host.issued, rfl, rfl, rfl⟩
  | ask new next ih =>
    obtain ⟨result, others, issued, hperform, hstages⟩ :=
      ih (.ok (.ofNew (host.stamps host.issued) new)) { host with issued := host.issued + 1 }
    refine ⟨result, _ :: others, issued, ?_, _, others, rfl, rfl, hstages⟩
    exact (Contents.bind_eq_of_eq rfl).trans (Contents.bind_eq_of_eq hperform)

/-- What a block ends with can be changed without any other change. -/
theorem perform_bind_done (block : Block ε α) (f : Except ε α → Except ε β) (host : Host) :
    perform Host.fresh (block.bind fun result => Script.done (f result)) host =
      ((f (block.perform Host.fresh host).1.1, (block.perform Host.fresh host).1.2),
        (block.perform Host.fresh host).2) := by
  induction block generalizing host with
  | done result => rfl
  | ask new next ih =>
    let address := Address.ofNew (host.stamps host.issued) new
    exact congrArg (fun performed : (Except ε β × List Address) × Host =>
      ((performed.1.1, address :: performed.1.2), performed.2))
      (ih (.ok address) { host with issued := host.issued + 1 })

/-- Drafts that are taken one after the other come to what they are staged to. -/
theorem perform_ofDrafts (drafts : List Draft) (host : Host) :
    (∃ created records after, stage (fun _ => none) drafts = .ok created ∧
      StoreFolder.stampAll Host.fresh created host = (records, after) ∧
      (ofDrafts drafts).perform Host.fresh host = ((.ok records, records), after)) ∨
    ∃ abort staged issued, stage (fun _ => none) drafts = .error abort ∧
      (ofDrafts drafts).perform Host.fresh host = ((.error abort, staged), { host with issued }) := by
  induction drafts generalizing host with
  | nil => exact .inl ⟨[], [], host, rfl, rfl, rfl⟩
  | cons draft drafts ih =>
    cases draft with
    | error abort => exact .inr ⟨abort, [], host.issued, rfl, rfl⟩
    | ok new =>
      let address := Address.ofNew (host.stamps host.issued) new
      let stamped : Host := { host with issued := host.issued + 1 }
      have hperform := perform_bind_done (ofDrafts drafts) (·.map (address :: ·)) stamped
      obtain ⟨created, records, after, hstage, hstamp, hrest⟩ | ⟨abort, staged, issued, hstage, hrest⟩ :=
        ih stamped
      · rw [hrest] at hperform
        refine .inl ⟨new :: created, address :: records, after, ?_, ?_, ?_⟩
        · simp only [stage, hstage]
        · exact (Contents.bind_eq_of_eq rfl).trans (Contents.bind_eq_of_eq hstamp)
        · exact (Contents.bind_eq_of_eq rfl).trans (Contents.bind_eq_of_eq hperform)
      · rw [hrest] at hperform
        refine .inr ⟨abort, address :: staged, issued, ?_, ?_⟩
        · simp only [stage, hstage]
        · exact (Contents.bind_eq_of_eq rfl).trans (Contents.bind_eq_of_eq hperform)

end Block

namespace Registry

/-- A list of policies with one more, in the place of the first one for the same project and kind, or
at the end if there is none. -/
def Puts (policy : Policy) (before after : List Policy) : Prop :=
  (∃ (front : List Policy) (other : Policy) (back : List Policy), before = front ++ other :: back ∧
    (∀ earlier ∈ front, governs policy.project policy.kind earlier = false) ∧
    governs policy.project policy.kind other = true ∧ after = front ++ policy :: back) ∨
  (∀ earlier ∈ before, governs policy.project policy.kind earlier = false) ∧
    after = before ++ [policy]

theorem puts_putPolicy (policy : Policy) (policies : List Policy) :
    Puts policy policies (putPolicy policy policies) := by
  induction policies with
  | nil => exact .inr ⟨fun _ hmem => (by cases hmem), rfl⟩
  | cons first rest ih =>
    rw [putPolicy]
    cases hfirst : governs policy.project policy.kind first with
    | true => exact .inl ⟨[], first, rest, rfl, fun _ hmem => (by cases hmem), hfirst, rfl⟩
    | false =>
      obtain ⟨front, other, back, hrest, hfront, hother, hput⟩ | ⟨hnone, hput⟩ := ih
      · refine .inl ⟨first :: front, other, back, by rw [hrest, List.cons_append], ?_, hother, ?_⟩
        · exact List.forall_mem_cons.2 ⟨hfirst, hfront⟩
        · rw [hput]
          rfl
      · refine .inr ⟨List.forall_mem_cons.2 ⟨hfirst, hnone⟩, ?_⟩
        rw [hput]
        rfl

end Registry

namespace StoreFolder

variable {ε α : Type}

/-- What a transaction with a block may leave behind: both files as they were if it fails, and the
addresses followed by those of the block if it does not. -/
def Transacted (folder : String) (block : Block ε α) (before : FileTree) :
    Except ε α → FileTree → Prop
  | .error _, after => SameFiles folder before after
  | .ok value, after => ∃ old staged, storedAddresses folder before = .ok old ∧
    block.Stages staged (.ok value) ∧ storedAddresses folder after = .ok (old ++ staged) ∧
    after.reach (policiesPath folder) = before.reach (policiesPath folder)

/-- What saving a policy may leave behind: both files as they were if it fails, and the policies with
this one put among them if it does not. -/
def PolicySaved (folder : String) (policy : Policy) (before : FileTree) :
    Except StoreError Unit → FileTree → Prop
  | .error _, after => SameFiles folder before after
  | .ok _, after => ∃ old new, storedPolicies folder before = .ok old ∧
    storedPolicies folder after = .ok new ∧ Registry.Puts policy old new ∧
    after.reach (addressesPath folder) = before.reach (addressesPath folder)

theorem sameFiles_self (folder : String) (tree : FileTree) : SameFiles folder tree tree :=
  ⟨rfl, rfl⟩

variable (folder : String) (host : Host)

theorem transacted_transaction (ofStore : StoreError → ε) (block : Block ε α) :
    let done := transaction Host.answer Host.fresh folder ofStore block host
    Transacted folder block host.tree done.1 done.2.tree := by
  intro done
  obtain ⟨loaded, count, hload, hstored, _⟩ := load_spec folder host
  have hload : load Host.answer folder host = _ := hload host.tree (sameFiles_self folder host.tree)
  cases loaded with
  | error e =>
    have hdone : done = (.error (ofStore e), host.moved host.tree count) :=
      Contents.bind_eq_of_eq hload
    rw [hdone]
    exact sameFiles_self folder host.tree
  | ok registry =>
    obtain ⟨haddresses, _⟩ := hstored registry rfl
    obtain ⟨result, staged, issued, hperform, hstages⟩ :=
      block.exists_perform_eq (host.moved host.tree count)
    cases result with
    | error e =>
      have hdone : done = (.error e, { host.moved host.tree count with issued }) :=
        (Contents.bind_eq_of_eq hload).trans (Contents.bind_eq_of_eq hperform)
      rw [hdone]
      exact sameFiles_self folder host.tree
    | ok value =>
      obtain ⟨after, asked, ⟨hwrite, hwritten, _⟩ | ⟨⟨e, hwrite⟩, hkept, _⟩, hother⟩ :=
        writeList_cases folder { host.moved host.tree count with issued } addressesName (by decide)
          Address.toJson (registry.append staged).addresses
      · have hdone : done = (.ok value, _) := (Contents.bind_eq_of_eq hload).trans
          ((Contents.bind_eq_of_eq hperform).trans (Contents.bind_eq_of_eq hwrite))
        rw [hdone]
        exact ⟨registry.addresses, staged, haddresses, hstages, storedAddresses_of_written hwritten,
          hother policiesName (by decide) (by decide) (by decide)⟩
      · have hdone : done = (.error (ofStore e), _) := (Contents.bind_eq_of_eq hload).trans
          ((Contents.bind_eq_of_eq hperform).trans (Contents.bind_eq_of_eq hwrite))
        rw [hdone]
        exact ⟨hkept, hother policiesName (by decide) (by decide) (by decide)⟩

/-- To take drafts is to take a block. -/
theorem transact_eq_transaction (drafts : List Draft) :
    let taken := transact Host.answer Host.fresh folder drafts host
    let done := transaction Host.answer Host.fresh folder .store (Block.ofDrafts drafts) host
    taken.1 = done.1 ∧ taken.2.tree = done.2.tree := by
  intro taken done
  obtain ⟨loaded, count, hload, _⟩ := load_spec folder host
  have hload : load Host.answer folder host = _ := hload host.tree (sameFiles_self folder host.tree)
  cases loaded with
  | error e =>
    have htaken : taken = _ := Contents.bind_eq_of_eq hload
    have hdone : done = _ := Contents.bind_eq_of_eq hload
    rw [htaken, hdone]
    exact ⟨rfl, rfl⟩
  | ok registry =>
    have htaken : taken = _ := Contents.bind_eq_of_eq hload
    have hdone : done = _ := Contents.bind_eq_of_eq hload
    obtain ⟨created, records, after, hstage, hstamp, hperform⟩ |
      ⟨abort, staged, issued, hstage, hperform⟩ :=
        Block.perform_ofDrafts drafts (host.moved host.tree count)
    · rw [hstage] at htaken
      rw [htaken.trans (Contents.bind_eq_of_eq hstamp), hdone.trans (Contents.bind_eq_of_eq hperform)]
      exact ⟨rfl, rfl⟩
    · rw [hstage] at htaken
      rw [htaken, hdone.trans (Contents.bind_eq_of_eq hperform)]
      exact ⟨rfl, rfl⟩

theorem transacted_transact (drafts : List Draft) :
    let done := transact Host.answer Host.fresh folder drafts host
    Transacted folder (.ofDrafts drafts) host.tree done.1 done.2.tree := by
  obtain ⟨hanswer, htree⟩ := transact_eq_transaction folder host drafts
  dsimp only
  rw [hanswer, htree]
  exact transacted_transaction folder host .store (.ofDrafts drafts)

theorem policySaved_answer (policy : Policy) :
    let done := answer Host.answer Host.fresh folder (.savePolicy policy) host
    PolicySaved folder policy host.tree done.1 done.2.tree := by
  intro done
  obtain ⟨loaded, count, hload, hstored, _⟩ := load_spec folder host
  have hload : load Host.answer folder host = _ := hload host.tree (sameFiles_self folder host.tree)
  cases loaded with
  | error e =>
    have hdone : done = (.error e, host.moved host.tree count) := Contents.bind_eq_of_eq hload
    rw [hdone]
    exact sameFiles_self folder host.tree
  | ok registry =>
    obtain ⟨_, hpolicies⟩ := hstored registry rfl
    obtain ⟨after, asked, ⟨hwrite, hwritten, _⟩ | ⟨⟨e, hwrite⟩, hkept, _⟩, hother⟩ :=
      writeList_cases folder (host.moved host.tree count) policiesName (by decide)
        Policy.toJson (registry.savePolicy policy).policies
    · have hdone : done = (.ok (), _) := (Contents.bind_eq_of_eq hload).trans hwrite
      rw [hdone]
      exact ⟨registry.policies, _, hpolicies, storedPolicies_of_written hwritten,
        Registry.puts_putPolicy policy registry.policies,
        hother addressesName (by decide) (by decide) (by decide)⟩
    · have hdone : done = (.error e, _) := (Contents.bind_eq_of_eq hload).trans hwrite
      rw [hdone]
      exact ⟨hother addressesName (by decide) (by decide) (by decide), hkept⟩

/-- Queries change no files, and what they find depends on the two files of the folder alone. -/
theorem query_eq_of_sameFiles {query : StoreRequest} (hquery : query.isQuery = true)
    {tree : FileTree} (hsame : SameFiles folder host.tree tree) :
    (answer Host.answer Host.fresh folder query { host with tree }).1 =
      (answer Host.answer Host.fresh folder query host).1 ∧
    (answer Host.answer Host.fresh folder query { host with tree }).2.tree = tree := by
  obtain ⟨loaded, count, hload, _⟩ := load_spec folder host
  have hown : load Host.answer folder host = _ := hload host.tree (sameFiles_self folder host.tree)
  have hother := hload tree hsame
  cases query with
  | savePolicy | transact => cases hquery
  | find | select | policy =>
    rw [answer, Contents.bind_eq_of_eq hown, Contents.bind_eq_of_eq hother]
    cases loaded <;> exact ⟨rfl, rfl⟩

/-- Whatever the files hold and whatever goes wrong, a transaction with a block, one with drafts and
a policy that is saved are all or nothing, each with the lock or without it. Unfinished files that
are left behind make no difference to what is found later. -/
theorem writes_are_all_or_nothing (lost : Bool) (ofStore : StoreError → ε) (block : Block ε α)
    (drafts : List Draft) (policy : Policy) :
    (let done := underLock lost ofStore (transaction Host.answer Host.fresh folder ofStore block) host
     Transacted folder block host.tree done.1 done.2.tree) ∧
    (let done := underLock lost .store (transact Host.answer Host.fresh folder drafts) host
     Transacted folder (.ofDrafts drafts) host.tree done.1 done.2.tree) ∧
    (let done := underLock lost id (answer Host.answer Host.fresh folder (.savePolicy policy)) host
     PolicySaved folder policy host.tree done.1 done.2.tree) ∧
    ∀ (query : StoreRequest) (tree : FileTree), query.isQuery = true →
      SameFiles folder host.tree tree →
      (answer Host.answer Host.fresh folder query { host with tree }).1 =
        (answer Host.answer Host.fresh folder query host).1 ∧
      (answer Host.answer Host.fresh folder query { host with tree }).2.tree = tree := by
  refine ⟨?_, ?_, ?_, fun query tree hquery hsame => query_eq_of_sameFiles folder host hquery hsame⟩
  · cases lost with
    | true => exact sameFiles_self folder host.tree
    | false => exact transacted_transaction folder host ofStore block
  · cases lost with
    | true => exact sameFiles_self folder host.tree
    | false => exact transacted_transact folder host drafts
  · cases lost with
    | true => exact sameFiles_self folder host.tree
    | false => exact policySaved_answer folder host policy

/-- What is left of an unfinished list of addresses is not read. -/
theorem writes_are_all_or_nothing_beside_an_unfinished_file :
    let host : Host := ⟨.empty, fun _ => none, 0, fun _ => ⟨.zero, .epoch⟩, 0⟩
    let tree := FileTree.empty.put ["addresses.json.tmp"] (.file (.ofText ['[']))
    let query : StoreRequest := .find .zero
    query.isQuery = true ∧ SameFiles "" host.tree tree ∧
      (answer Host.answer Host.fresh "" query { host with tree }).1 =
        (answer Host.answer Host.fresh "" query host).1 := by
  intro host tree query
  have hsame : SameFiles "" host.tree tree := ⟨rfl, rfl⟩
  obtain ⟨_, _, _, hqueries⟩ := writes_are_all_or_nothing "" host false id
    (Script.done (.ok ()) : Block StoreError Unit) [] ⟨"project", .shipTo, .empty, .epoch⟩
  exact ⟨rfl, hsame, (hqueries query tree rfl hsame).1⟩

end StoreFolder

end AddressIntake

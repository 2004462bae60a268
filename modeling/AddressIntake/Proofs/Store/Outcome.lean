import AddressIntake.Proofs.Files.Folders
import AddressIntake.Proofs.Store.OnHost

namespace AddressIntake

/-- A machine on which nothing goes wrong from now on. -/
def Host.IsHealthy (host : Host) : Prop :=
  ∀ n, host.mishaps n = none

namespace Host

variable {host : Host}

theorem respond_of_isHealthy (hhealthy : host.IsHealthy) (r : FileRequest) :
    respond r host = ((FileTree.respond r host.tree).1, host.moved (FileTree.respond r host.tree).2 1) := by
  rw [respond, hhealthy]

end Host

namespace StoreFolder

open FileTree

variable {folder : String} {tree other : FileTree} {host : Host} {place : Place}

/-- What is loaded from a folder if nothing goes wrong. -/
def loaded (folder : String) (tree : FileTree) : Except StoreError Registry :=
  match storedAddresses folder tree with
  | .error e => .error e
  | .ok addresses =>
    match storedPolicies folder tree with
    | .error e => .error e
    | .ok policies => .ok ⟨addresses, policies⟩

theorem loaded_eq_ok {registry : Registry} (hloaded : loaded folder tree = .ok registry) :
    storedAddresses folder tree = .ok registry.addresses ∧
      storedPolicies folder tree = .ok registry.policies := by
  rw [loaded] at hloaded
  cases haddresses : storedAddresses folder tree with
  | error e =>
    rw [haddresses] at hloaded
    cases hloaded
  | ok addresses =>
    cases hpolicies : storedPolicies folder tree with
    | error e =>
      rw [haddresses, hpolicies] at hloaded
      cases hloaded
    | ok policies =>
      rw [haddresses, hpolicies] at hloaded
      cases hloaded
      exact ⟨rfl, rfl⟩

theorem exists_readList_eq {α : Type} (hhealthy : host.IsHealthy) (read : Json.Decoder α)
    (path : String) :
    ∃ count, readList Host.answer read path host =
      (listAt read none (host.tree.reach path), host.moved host.tree count) := by
  have hread := readList_eq host read path
  rw [hhealthy] at hread
  exact ⟨_, hread⟩

theorem exists_load_eq (folder : String) (hhealthy : host.IsHealthy) :
    ∃ count, load Host.answer folder host = (loaded folder host.tree, host.moved host.tree count) := by
  obtain ⟨m, haddresses⟩ := exists_readList_eq hhealthy Address.decoder (addressesPath folder)
  rw [← storedAddresses] at haddresses
  have hhealthy' : (host.moved host.tree m).IsHealthy := hhealthy
  obtain ⟨n, hpolicies⟩ := exists_readList_eq hhealthy' Policy.decoder (policiesPath folder)
  rw [Host.moved_tree, Host.moved_moved, ← storedPolicies] at hpolicies
  rw [loaded]
  cases hfirst : storedAddresses folder host.tree with
  | error e =>
    rw [hfirst] at haddresses
    exact ⟨m, Contents.bind_eq_of_eq haddresses⟩
  | ok addresses =>
    rw [hfirst] at haddresses
    cases hsecond : storedPolicies folder host.tree with
    | error e =>
      rw [hsecond] at hpolicies
      exact ⟨m + n, (Contents.bind_eq_of_eq haddresses).trans (Contents.bind_eq_of_eq hpolicies)⟩
    | ok policies =>
      rw [hsecond] at hpolicies
      exact ⟨m + n, (Contents.bind_eq_of_eq haddresses).trans (Contents.bind_eq_of_eq hpolicies)⟩

/-- A query changes nothing, and is answered alike where the same is loaded. -/
theorem query_spec (folder : String) (hhealthy : host.IsHealthy) {query : StoreRequest}
    (hquery : query.isQuery = true) :
    (∃ count, (answer Host.answer Host.fresh folder query host).2 = host.moved host.tree count) ∧
      ∀ other : Host, other.IsHealthy → loaded folder other.tree = loaded folder host.tree →
        (answer Host.answer Host.fresh folder query other).1 =
          (answer Host.answer Host.fresh folder query host).1 := by
  obtain ⟨count, hload⟩ := exists_load_eq folder hhealthy
  refine ⟨⟨count, ?_⟩, fun other hother hsame => ?_⟩
  · cases query with
    | savePolicy | transact => cases hquery
    | find | select | policy =>
      rw [answer, Contents.bind_eq_of_eq hload]
      cases loaded folder host.tree <;> rfl
  · obtain ⟨_, hload'⟩ := exists_load_eq folder hother
    cases query with
    | savePolicy | transact => cases hquery
    | find | select | policy =>
      rw [answer, Contents.bind_eq_of_eq hload, Contents.bind_eq_of_eq hload', hsame]
      cases loaded folder host.tree <;> rfl

section Writing

variable (hopens : host.tree.Opens folder place) (hhealthy : host.IsHealthy)

/-- Whether the file of addresses can be replaced, by way of the unfinished file next to it. -/
def replacement (folder : String) (tree : FileTree) : Except StoreError Unit :=
  match tree.placeOf (addressesPath folder ++ unfinishedSuffix) with
  | .error e => .error (.io e.message)
  | .ok _ =>
    match tree.placeOf (addressesPath folder) with
    | .error e => .error (.io e.message)
    | .ok _ => .ok ()

theorem unfinishedPath_eq (folder : String) :
    addressesPath folder ++ unfinishedSuffix = joinPath folder (addressesName ++ unfinishedSuffix) :=
  joinPath_append folder (by decide) (by decide) unfinishedSuffix

theorem replacement_eq_of_sameFolders (hopens : tree.Opens folder place)
    (hsame : tree.SameFolders other) : replacement folder other = replacement folder tree := by
  have hnames : IsFileName addressesName ∧ IsFileName (addressesName ++ unfinishedSuffix) := by decide
  rw [replacement, replacement, unfinishedPath_eq, addressesPath,
    hopens.placeOf_eq_of_sameFolders hnames.1 hsame,
    hopens.placeOf_eq_of_sameFolders hnames.2 hsame]

include hopens hhealthy

/-- The file of addresses is replaced if it can be, and no folder comes or goes. -/
theorem writeList_eq (addresses : List Address) :
    (writeList Host.answer Address.toJson (addressesPath folder) addresses host).1 =
        replacement folder host.tree ∧
      host.tree.SameFolders
        (writeList Host.answer Address.toJson (addressesPath folder) addresses host).2.tree := by
  have hname : IsFileName addressesName := by decide
  let document := listDocument Address.toJson addresses
  have hwrite : Host.answer (.write (addressesPath folder ++ unfinishedSuffix) document) host = _ :=
    Host.respond_of_isHealthy hhealthy _
  rw [respond_write_eq] at hwrite
  rw [replacement]
  cases hplace : host.tree.placeOf (addressesPath folder ++ unfinishedSuffix) with
  | error e =>
    rw [hplace] at hwrite
    have hdone : writeList Host.answer Address.toJson (addressesPath folder) addresses host = _ :=
      Contents.bind_eq_of_eq hwrite
    rw [hdone]
    exact ⟨rfl, .refl host.tree⟩
  | ok unfinished =>
    have hfree := not_folder_of_placeOf hplace
    have hsame := sameFolders_put hfree document
    rw [hplace] at hwrite
    let written := host.tree.put unfinished (.file document)
    have hmoved : (host.moved written 1).IsHealthy := hhealthy
    have hrename : Host.answer
        (.rename (addressesPath folder ++ unfinishedSuffix) (addressesPath folder))
        (host.moved written 1) = _ := Host.respond_of_isHealthy hmoved _
    have hkept : written.SameFolders (respond
        (.rename (addressesPath folder ++ unfinishedSuffix) (addressesPath folder)) written).2 :=
      sameFolders_respond (by simp)
    have hsource : written.placeOf (addressesPath folder ++ unfinishedSuffix) = .ok unfinished :=
      hsame.placeOf hplace
    have htarget : written.placeOf (addressesPath folder) = host.tree.placeOf (addressesPath folder) :=
      hopens.placeOf_eq_of_sameFolders hname hsame
    rw [Host.moved_tree, Host.moved_moved, respond_rename_eq hsource
      (node?_put_self (isFixed_of_not_folder hfree) _), htarget] at hrename
    rw [respond_rename_eq hsource (node?_put_self (isFixed_of_not_folder hfree) _), htarget] at hkept
    cases htargetPlace : host.tree.placeOf (addressesPath folder) with
    | error e =>
      rw [htargetPlace] at hrename hkept
      have hdone : writeList Host.answer Address.toJson (addressesPath folder) addresses host = _ :=
        (Contents.bind_eq_of_eq hwrite).trans (Contents.bind_eq_of_eq hrename)
      rw [hdone]
      exact ⟨rfl, hsame.trans hkept⟩
    | ok finished =>
      rw [htargetPlace] at hrename hkept
      have hdone : writeList Host.answer Address.toJson (addressesPath folder) addresses host = _ :=
        (Contents.bind_eq_of_eq hwrite).trans (Contents.bind_eq_of_eq hrename)
      rw [hdone]
      exact ⟨rfl, hsame.trans hkept⟩

/-- The file of addresses holds the new list if it can be replaced, and the old one if it cannot. -/
theorem writeList_spec (addresses : List Address) :
    ∃ (after : FileTree) (count : Nat),
      writeList Host.answer Address.toJson (addressesPath folder) addresses host =
        (replacement folder host.tree, host.moved after count) ∧
      host.tree.SameFolders after ∧ storedPolicies folder after = storedPolicies folder host.tree ∧
      storedAddresses folder after = match replacement folder host.tree with
        | .ok () => .ok addresses
        | .error _ => storedAddresses folder host.tree := by
  obtain ⟨hresult, hfolders⟩ := writeList_eq hopens hhealthy addresses
  obtain ⟨after, count, hwritten, hothers⟩ :=
    writeList_cases folder host addressesName (by decide) Address.toJson addresses
  have hpolicies : storedPolicies folder after = storedPolicies folder host.tree :=
    congrArg (listAt Policy.decoder none)
      (hothers policiesName (by decide) (by decide) (by decide))
  obtain ⟨hwrite, hreach, _⟩ | ⟨⟨e, hwrite⟩, hreach, _⟩ := hwritten
  · have hwrite : writeList Host.answer Address.toJson (addressesPath folder) addresses host = _ :=
      hwrite
    rw [hwrite] at hresult hfolders
    rw [← hresult]
    exact ⟨after, count, hwrite, hfolders, hpolicies, storedAddresses_of_written hreach⟩
  · have hwrite : writeList Host.answer Address.toJson (addressesPath folder) addresses host = _ :=
      hwrite
    rw [hwrite] at hresult hfolders
    rw [← hresult]
    exact ⟨after, count, hwrite, hfolders, hpolicies, congrArg (listAt Address.decoder none) hreach⟩

omit hopens hhealthy

/-- What a transaction comes to but for the stamps of its records. -/
def outcome (folder : String) (tree : FileTree) (drafts : List Draft) :
    Except Abort (List NewAddress) :=
  match loaded folder tree with
  | .error e => .error (.store e)
  | .ok _ =>
    match stage (fun _ => none) drafts with
    | .error abort => .error abort
    | .ok created =>
      match replacement folder tree with
      | .error e => .error (.store e)
      | .ok () => .ok created

theorem exists_stampAll_eq (created : List NewAddress) (host : Host) :
    ∃ (records : List Address) (issued : Nat),
      stampAll Host.fresh created host = (records, { host with issued }) ∧
      records.map Address.payload = created := by
  have hissued : ∃ issued, (stampAll Host.fresh created host).2 = { host with issued } := by
    induction created generalizing host with
    | nil => exact ⟨host.issued, rfl⟩
    | cons new created ih => exact ih { host with issued := host.issued + 1 }
  obtain ⟨issued, hafter⟩ := hissued
  exact ⟨_, issued, Prod.ext rfl hafter, map_payload_stampAll Host.fresh created host⟩

include hopens hhealthy

/-- A transaction comes to its outcome: its records are added to the addresses if there are any, and
otherwise the addresses stay as they are. -/
theorem transact_spec (drafts : List Draft) :
    let done := answer Host.answer Host.fresh folder (.transact drafts) host
    done.2.IsHealthy ∧ host.tree.SameFolders done.2.tree ∧
      storedPolicies folder done.2.tree = storedPolicies folder host.tree ∧
      match outcome folder host.tree drafts with
      | .error abort => done.1 = .error abort ∧
        storedAddresses folder done.2.tree = storedAddresses folder host.tree
      | .ok created => ∃ old records, done.1 = .ok records ∧ records.map Address.payload = created ∧
        storedAddresses folder host.tree = .ok old ∧
        storedAddresses folder done.2.tree = .ok (old ++ records) := by
  intro done
  obtain ⟨count, hload⟩ := exists_load_eq folder hhealthy
  rw [outcome]
  have hdone : done = _ := Contents.bind_eq_of_eq hload
  cases hloaded : loaded folder host.tree with
  | error e =>
    rw [hloaded] at hdone
    rw [hdone]
    exact ⟨hhealthy, .refl host.tree, rfl, rfl, rfl⟩
  | ok registry =>
    rw [hloaded] at hdone
    cases hstage : stage (fun _ => none) drafts with
    | error abort =>
      rw [hstage] at hdone
      rw [hdone]
      exact ⟨hhealthy, .refl host.tree, rfl, rfl, rfl⟩
    | ok created =>
      rw [hstage] at hdone
      obtain ⟨records, issued, hstamp, hpayload⟩ :=
        exists_stampAll_eq created (host.moved host.tree count)
      let stamped : Host := { host.moved host.tree count with issued }
      have hstamped : stamped.IsHealthy := hhealthy
      have hopened : stamped.tree.Opens folder place := hopens
      obtain ⟨after, asked, hwrite, hfolders, hpolicies, haddresses⟩ :=
        writeList_spec hopened hstamped (registry.append records).addresses
      have hdone := hdone.trans ((Contents.bind_eq_of_eq hstamp).trans (Contents.bind_eq_of_eq hwrite))
      have htree : stamped.tree = host.tree := rfl
      rw [htree] at hdone haddresses hpolicies hfolders
      cases hreplaced : replacement folder host.tree with
      | error e =>
        rw [hreplaced] at hdone haddresses
        rw [hdone]
        exact ⟨hhealthy, hfolders, hpolicies, rfl, haddresses⟩
      | ok done =>
        rw [hreplaced] at hdone haddresses
        rw [hdone]
        exact ⟨hhealthy, hfolders, hpolicies, registry.addresses, records, rfl, hpayload,
          (loaded_eq_ok hloaded).1, haddresses⟩

end Writing

end StoreFolder

end AddressIntake

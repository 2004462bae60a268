import AddressIntake.Proofs.Store.Outcome

namespace AddressIntake

namespace StoreFolder

open FileTree

variable {folder : String} {tree other : FileTree} {first second : Host}

/-- Two trees with the same folders, in which the folder of a store holds the same policies, and the
same addresses but for their stamps. -/
structure HoldsAlike (folder : String) (tree other : FileTree) : Prop where
  opens : ∃ place, tree.Opens folder place
  folders : tree.SameFolders other
  addresses : (storedAddresses folder other).map (·.map Address.payload) =
    (storedAddresses folder tree).map (·.map Address.payload)
  policies : storedPolicies folder other = storedPolicies folder tree

/-- Two machines on which nothing goes wrong, with files that hold alike. -/
structure Alike (folder : String) (first second : Host) : Prop where
  healthy : first.IsHealthy
  healthy' : second.IsHealthy
  holds : HoldsAlike folder first.tree second.tree

namespace HoldsAlike

theorem outcome_eq (hholds : HoldsAlike folder tree other) (drafts : List Draft) :
    outcome folder other drafts = outcome folder tree drafts := by
  obtain ⟨⟨place, hopens⟩, hfolders, haddresses, hpolicies⟩ := hholds
  rw [outcome, outcome, replacement_eq_of_sameFolders hopens hfolders, loaded, loaded, hpolicies]
  cases hother : storedAddresses folder other with
  | error e =>
    cases htree : storedAddresses folder tree with
    | error e' =>
      rw [hother, htree] at haddresses
      cases haddresses
      rfl
    | ok addresses =>
      rw [hother, htree] at haddresses
      cases haddresses
  | ok addresses =>
    cases htree : storedAddresses folder tree with
    | error e =>
      rw [hother, htree] at haddresses
      cases haddresses
    | ok addresses' => cases storedPolicies folder tree <;> rfl

/-- A file that is put into both trees is found at a path of the folder in both or in neither, and
where it is not, nothing has changed. -/
theorem reach_put (hholds : HoldsAlike folder tree other) {name : String} (hname : IsFileName name)
    {place : Place} (hfree : tree.node? place ≠ some .folder) (document : Document) :
    (tree.put place (.file document)).reach (joinPath folder name) =
        .ok (some (.file document)) ∧
      (other.put place (.file document)).reach (joinPath folder name) =
        .ok (some (.file document)) ∨
    (tree.put place (.file document)).reach (joinPath folder name) =
        tree.reach (joinPath folder name) ∧
      (other.put place (.file document)).reach (joinPath folder name) =
        other.reach (joinPath folder name) := by
  obtain ⟨outer, hopens⟩ := hholds.opens
  have hfree' := mt (hholds.folders place).2 hfree
  by_cases hplace : tree.placeOf (joinPath folder name) = .ok place
  · exact .inl ⟨reach_put_self hplace document, reach_put_self (hholds.folders.placeOf hplace) document⟩
  · refine .inr ⟨hopens.reach_put hname hfree hplace document, ?_⟩
    refine (hopens.keepsFolders hholds.folders.keepsFolders).reach_put hname hfree' ?_ document
    rwa [hopens.placeOf_eq_of_sameFolders hname hholds.folders]

/-- The same file may be put into both trees, even in the place of a file of the store. -/
theorem put (hholds : HoldsAlike folder tree other) {place : Place}
    (hfree : tree.node? place ≠ some .folder) (document : Document) :
    HoldsAlike folder (tree.put place (.file document)) (other.put place (.file document)) := by
  have hnames : IsFileName addressesName ∧ IsFileName policiesName := by decide
  have hsame := sameFolders_put hfree document
  have hsame' := sameFolders_put (mt (hholds.folders place).2 hfree) document
  obtain ⟨outer, hopens⟩ := hholds.opens
  refine ⟨⟨outer, hopens.keepsFolders hsame.keepsFolders⟩,
    (hsame.symm.trans hholds.folders).trans hsame', ?_, ?_⟩
  · rw [storedAddresses, storedAddresses, addressesPath]
    obtain ⟨hreach, hreach'⟩ | ⟨hreach, hreach'⟩ := hholds.reach_put hnames.1 hfree document
    · rw [hreach, hreach']
    · rw [hreach, hreach']
      exact hholds.addresses
  · rw [storedPolicies, storedPolicies, policiesPath]
    obtain ⟨hreach, hreach'⟩ | ⟨hreach, hreach'⟩ := hholds.reach_put hnames.2 hfree document
    · rw [hreach, hreach']
    · rw [hreach, hreach']
      exact hholds.policies

end HoldsAlike

/-- A path that leads to none of the files of a store. -/
def IsApart (folder path : String) (tree : FileTree) : Prop :=
  ∀ file ∈ paths folder, ∀ place, tree.placeOf path = .ok place → tree.placeOf file ≠ .ok place

/-- A path at which a file can be made, apart from the files of a store. -/
structure IsFree (folder path : String) (tree : FileTree) : Prop where
  apart : IsApart folder path tree
  vacant : ∃ place, tree.placeOf path = .ok place ∧ tree.node? place = none

/-- A file apart from the store makes no difference to it. -/
theorem IsApart.reach_put {path : String} {place outer : Place} (hapart : IsApart folder path tree)
    (hopens : tree.Opens folder outer) (hplace : tree.placeOf path = .ok place)
    (document : Document) {file : String} (hfile : file ∈ paths folder) :
    (tree.put place (.file document)).reach file = tree.reach file := by
  have hnames : ∀ name ∈ names, IsFileName name := by decide
  have hplaces := hapart file hfile place hplace
  rw [paths_eq_map] at hfile
  obtain ⟨name, hname, rfl⟩ := List.mem_map.1 hfile
  exact hopens.reach_put (hnames name hname) (not_folder_of_placeOf hplace) hplaces document

theorem IsApart.of_sameFolders {path : String} {outer : Place} (hapart : IsApart folder path tree)
    (hopens : tree.Opens folder outer) (hsame : tree.SameFolders other) :
    IsApart folder path other := by
  have hnames : ∀ name ∈ names, IsFileName name := by decide
  intro file hfile place hplace
  have hplaces := hapart file hfile place (hsame.symm.placeOf hplace)
  rw [paths_eq_map] at hfile
  obtain ⟨name, hname, rfl⟩ := List.mem_map.1 hfile
  rwa [hopens.placeOf_eq_of_sameFolders (hnames name hname) hsame]

/-- The same is loaded where the same files are found. -/
theorem loaded_congr (hstored : ∀ file ∈ paths folder, other.reach file = tree.reach file) :
    loaded folder other = loaded folder tree := by
  rw [loaded, loaded, storedAddresses, storedAddresses, storedPolicies, storedPolicies,
    hstored _ (addressesPath_mem folder), hstored _ (policiesPath_mem folder)]

theorem holdsAlike_of_reach {outer : Place} (hopens : tree.Opens folder outer)
    (hsame : tree.SameFolders other)
    (hstored : ∀ file ∈ paths folder, other.reach file = tree.reach file) :
    HoldsAlike folder tree other where
  opens := ⟨outer, hopens⟩
  folders := hsame
  addresses := by
    rw [storedAddresses, storedAddresses, hstored _ (addressesPath_mem folder)]
  policies := by
    rw [storedPolicies, storedPolicies, hstored _ (policiesPath_mem folder)]

namespace Alike

theorem moved (halike : Alike folder first second) (m n : Nat) :
    Alike folder (first.moved first.tree m) (second.moved second.tree n) :=
  ⟨halike.healthy, halike.healthy', halike.holds⟩

/-- A transaction comes to the same but for the stamps of its records. -/
theorem transact (halike : Alike folder first second) (drafts : List Draft) :
    let done := answer Host.answer Host.fresh folder (.transact drafts) first
    let done' := answer Host.answer Host.fresh folder (.transact drafts) second
    done'.1.map (·.map Address.payload) = done.1.map (·.map Address.payload) ∧
      Alike folder done.2 done'.2 := by
  intro done done'
  obtain ⟨hhealthy, hhealthy', hholds⟩ := halike
  obtain ⟨place, hopens⟩ := hholds.opens
  obtain ⟨hhealed, hfolders, hpolicies, houtcome⟩ := transact_spec hopens hhealthy drafts
  obtain ⟨hhealed', hfolders', hpolicies', houtcome'⟩ :=
    transact_spec (hopens.keepsFolders hholds.folders.keepsFolders) hhealthy' drafts
  have hsame := (hfolders.symm.trans hholds.folders).trans hfolders'
  have hopens' := hopens.keepsFolders hfolders.keepsFolders
  have hpolicies := hpolicies'.trans (hholds.policies.trans hpolicies.symm)
  rw [hholds.outcome_eq] at houtcome'
  cases hresult : outcome folder first.tree drafts with
  | error abort =>
    rw [hresult] at houtcome houtcome'
    obtain ⟨hdone, haddresses⟩ := houtcome
    obtain ⟨hdone', haddresses'⟩ := houtcome'
    refine ⟨?_, hhealed, hhealed', ⟨place, hopens'⟩, hsame, ?_, hpolicies⟩
    · rw [hdone, hdone']
    · rw [haddresses, haddresses']
      exact hholds.addresses
  | ok created =>
    rw [hresult] at houtcome houtcome'
    obtain ⟨old, records, hdone, hpayload, hold, haddresses⟩ := houtcome
    obtain ⟨old', records', hdone', hpayload', hold', haddresses'⟩ := houtcome'
    have holdSame := hholds.addresses
    rw [hold, hold'] at holdSame
    refine ⟨?_, hhealed, hhealed', ⟨place, hopens'⟩, hsame, ?_, hpolicies⟩
    · rw [hdone, hdone']
      exact congrArg Except.ok (hpayload'.trans hpayload.symm)
    · rw [haddresses, haddresses']
      have holdSame : old'.map Address.payload = old.map Address.payload := Except.ok.inj holdSame
      have hall : (old' ++ records').map Address.payload = (old ++ records).map Address.payload := by
        rw [List.map_append, List.map_append, hpayload, hpayload', holdSame]
      exact congrArg Except.ok hall

end Alike

end StoreFolder

end AddressIntake

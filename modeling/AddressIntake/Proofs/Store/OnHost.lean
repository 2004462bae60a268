import AddressIntake.Proofs.Files.Host
import AddressIntake.Proofs.Policy
import AddressIntake.Proofs.Store.Folder

namespace AddressIntake

/-- Whether a request only asks. -/
def StoreRequest.isQuery : StoreRequest → Bool
  | .find _ | .select .. | .policy .. => true
  | .savePolicy _ | .transact _ => false

namespace StoreFolder

variable {α : Type}

/-- The list in a file by what was found at its path. A mishap is met only in a file that is
there. -/
def listAt (read : Json.Decoder α) (mishap : Option Mishap) :
    Except FileError (Option FileNode) → Except StoreError (List α)
  | .ok (some node) =>
    match Host.textAt mishap node with
    | .error reason => .error (.io reason)
    | .ok cs => parseList read cs
  | _ => .ok []

/-- The addresses that a folder holds. -/
def storedAddresses (folder : String) (tree : FileTree) : Except StoreError (List Address) :=
  listAt Address.decoder none (tree.reach (addressesPath folder))

/-- The policies that a folder holds. -/
def storedPolicies (folder : String) (tree : FileTree) : Except StoreError (List Policy) :=
  listAt Policy.decoder none (tree.reach (policiesPath folder))

/-- Two trees with the same at the paths of the files of a store. Unfinished files do not count. -/
def SameFiles (folder : String) (before after : FileTree) : Prop :=
  after.reach (addressesPath folder) = before.reach (addressesPath folder) ∧
    after.reach (policiesPath folder) = before.reach (policiesPath folder)

theorem listAt_none_of_ok {read : Json.Decoder α} {mishap : Option Mishap}
    {found : Except FileError (Option FileNode)} {items : List α}
    (hlist : listAt read mishap found = .ok items) : listAt read none found = .ok items := by
  cases mishap with
  | none => exact hlist
  | some mishap =>
    rcases found with e | _ | node
    · exact hlist
    · exact hlist
    · cases hlist

/-- A list that was written is found. -/
theorem listAt_listDocument {read : Json.Decoder α} {write : α → Json}
    (hread : ∀ a, read (write a).node = .ok a) (hplain : ∀ a, (write a).IsPlain) (items : List α) :
    listAt read none (.ok (some (.file (listDocument write items)))) = .ok items := by
  obtain ⟨cs, htext, hparse⟩ := exists_text_listDocument hread hplain items
  simp only [listAt, Host.textAt, htext, hparse]

theorem storedAddresses_of_written {folder : String} {tree : FileTree} {addresses : List Address}
    (hwritten : tree.reach (addressesPath folder) =
      .ok (some (.file (listDocument Address.toJson addresses)))) :
    storedAddresses folder tree = .ok addresses := by
  rw [storedAddresses, hwritten, listAt_listDocument Address.decoder_toJson Address.isPlain_toJson]

theorem storedPolicies_of_written {folder : String} {tree : FileTree} {policies : List Policy}
    (hwritten : tree.reach (policiesPath folder) =
      .ok (some (.file (listDocument Policy.toJson policies)))) :
    storedPolicies folder tree = .ok policies := by
  rw [storedPolicies, hwritten, listAt_listDocument Policy.decoder_toJson Policy.isPlain_toJson]

section Reading

variable (folder : String) (host : Host)

theorem readList_eq (read : Json.Decoder α) (path : String) :
    readList Host.answer read path host =
      (listAt read (host.mishaps (host.asked + 1)) (host.tree.reach path),
        host.moved host.tree (match host.tree.reach path with
          | .ok (some _) => 2
          | _ => 1)) := by
  have hpresent : Host.answer (.present path) host = _ := host.respond_present path
  cases hreach : host.tree.reach path with
  | error e =>
    rw [hreach] at hpresent
    exact Contents.bind_eq_of_eq hpresent
  | ok found =>
    rw [hreach] at hpresent
    cases found with
    | none => exact Contents.bind_eq_of_eq hpresent
    | some node =>
      have htext : Host.answer.readText path (host.moved host.tree 1) = _ :=
        (host.moved host.tree 1).readText_eq hreach
      rw [Host.moved_tree, Host.moved_moved] at htext
      refine ((Contents.bind_eq_of_eq hpresent).trans (Contents.bind_eq_of_eq htext)).trans ?_
      dsimp only [Host.moved, listAt]
      cases Host.textAt (host.mishaps (host.asked + 1)) node <;> rfl

/-- To load a folder changes nothing, and what is loaded depends on its two files alone. Without
mishaps everything that they hold is loaded. -/
theorem load_spec :
    ∃ (result : Except StoreError Registry) (count : Nat),
      (∀ tree, SameFiles folder host.tree tree →
        load Host.answer folder { host with tree } = (result, host.moved tree count)) ∧
      (∀ registry, result = .ok registry →
        storedAddresses folder host.tree = .ok registry.addresses ∧
        storedPolicies folder host.tree = .ok registry.policies) ∧
      ∀ registry, (∀ n, host.mishaps n = none) →
        storedAddresses folder host.tree = .ok registry.addresses →
        storedPolicies folder host.tree = .ok registry.policies → result = .ok registry := by
  obtain ⟨m, hfirst⟩ : ∃ m, ∀ tree, SameFiles folder host.tree tree →
      readList Host.answer Address.decoder (addressesPath folder) { host with tree } =
        (listAt Address.decoder (host.mishaps (host.asked + 1))
          (host.tree.reach (addressesPath folder)), host.moved tree m) :=
    ⟨_, fun tree hsame => by rw [readList_eq, hsame.1]; rfl⟩
  obtain ⟨n, hsecond⟩ : ∃ n, ∀ tree, SameFiles folder host.tree tree →
      readList Host.answer Policy.decoder (policiesPath folder) (host.moved tree m) =
        (listAt Policy.decoder (host.mishaps (host.asked + m + 1))
          (host.tree.reach (policiesPath folder)), host.moved tree (m + n)) :=
    ⟨_, fun tree hsame => by rw [readList_eq, Host.moved_tree, hsame.2, Host.moved_moved]; rfl⟩
  cases haddresses : listAt Address.decoder (host.mishaps (host.asked + 1))
      (host.tree.reach (addressesPath folder)) with
  | error e =>
    refine ⟨.error e, m, fun tree hsame => ?_, fun registry hok => (by cases hok),
      fun registry hhealthy hstored _ => ?_⟩
    · have haction := hfirst tree hsame
      rw [haddresses] at haction
      exact Contents.bind_eq_of_eq haction
    · rw [hhealthy, ← storedAddresses, hstored] at haddresses
      cases haddresses
  | ok addresses =>
    cases hpolicies : listAt Policy.decoder (host.mishaps (host.asked + m + 1))
        (host.tree.reach (policiesPath folder)) with
    | error e =>
      refine ⟨.error e, m + n, fun tree hsame => ?_, fun registry hok => (by cases hok),
        fun registry hhealthy _ hstored => ?_⟩
      · have haction := hfirst tree hsame
        have hnext := hsecond tree hsame
        rw [haddresses] at haction
        rw [hpolicies] at hnext
        exact (Contents.bind_eq_of_eq haction).trans (Contents.bind_eq_of_eq hnext)
      · rw [hhealthy, ← storedPolicies, hstored] at hpolicies
        cases hpolicies
    | ok policies =>
      refine ⟨.ok ⟨addresses, policies⟩, m + n, fun tree hsame => ?_, fun registry hok => ?_,
        fun registry hhealthy hstored hstored' => ?_⟩
      · have haction := hfirst tree hsame
        have hnext := hsecond tree hsame
        rw [haddresses] at haction
        rw [hpolicies] at hnext
        exact (Contents.bind_eq_of_eq haction).trans (Contents.bind_eq_of_eq hnext)
      · cases hok
        exact ⟨listAt_none_of_ok haddresses, listAt_none_of_ok hpolicies⟩
      · rw [hhealthy, ← storedAddresses, hstored] at haddresses
        rw [hhealthy, ← storedPolicies, hstored'] at hpolicies
        cases haddresses
        cases hpolicies
        rfl

end Reading

section Writing

variable (folder : String) (host : Host)

/-- A folder whose files can be written: each path can be followed, and none ends at a folder. -/
def IsOpen (folder : String) (tree : FileTree) : Prop :=
  ∀ name ∈ names, ∃ node, tree.reach (joinPath folder name) = .ok node ∧ node ≠ some .folder

/-- A list is written as a whole, and no unfinished file is left, or its file stays as it was. This
cannot happen without a mishap in a folder whose files can be written. -/
theorem writeList_cases (name : String) (hname : name ∈ [addressesName, policiesName])
    (write : α → Json) (items : List α) :
    ∃ (after : FileTree) (count : Nat),
      (writeList Host.answer write (joinPath folder name) items host =
          (.ok (), host.moved after count) ∧
        after.reach (joinPath folder name) = .ok (some (.file (listDocument write items))) ∧
        after.reach (joinPath folder (name ++ unfinishedSuffix)) = .ok none ∨
      (∃ e, writeList Host.answer write (joinPath folder name) items host =
          (.error e, host.moved after count)) ∧
        after.reach (joinPath folder name) = host.tree.reach (joinPath folder name) ∧
        ((∀ n, host.mishaps n = none) → ¬IsOpen folder host.tree)) ∧
      ∀ other ∈ names, other ≠ name → other ≠ name ++ unfinishedSuffix →
        after.reach (joinPath folder other) = host.tree.reach (joinPath folder other) := by
  have hfiles : ∀ name ∈ names, FileTree.IsFileName name := by decide
  have hsettled : ∀ name ∈ [addressesName, policiesName], name ∈ names ∧
      name ++ unfinishedSuffix ∈ names ∧ name ≠ name ++ unfinishedSuffix ∧
      name.toList.head? ≠ some '/' ∧ name ≠ "" := by decide
  obtain ⟨hfinished, hunfinished, hdifferent, hhead, hne⟩ := hsettled name hname
  have hpath := joinPath_append folder hhead hne unfinishedSuffix
  obtain ⟨written, hwrite, hkept⟩ :=
    host.reach_write folder hfiles hunfinished (listDocument write items)
  obtain ⟨hwrite, hwhole⟩ | ⟨e, hwrite⟩ := hwrite
  · have hrenamed := (host.moved written 1).reach_rename folder hfiles hunfinished hfinished
    rw [Host.moved_tree, Host.moved_moved] at hrenamed
    obtain ⟨after, document, hrename, hsource, htarget, hgone, hothers⟩ | ⟨e, hrename⟩ := hrenamed
    · rw [hwhole, Except.ok.injEq, Option.some.injEq, FileNode.file.injEq] at hsource
      subst hsource
      rw [Host.moved_moved] at hrename
      rw [← hpath] at hwrite hrename
      refine ⟨after, 2, .inl ⟨?_, htarget, hgone hdifferent.symm⟩, fun other hmem hsame hsame' => ?_⟩
      · exact (Contents.bind_eq_of_eq hwrite).trans (Contents.bind_eq_of_eq hrename)
      · exact (hothers other hmem hsame' hsame).trans (hkept other hmem hsame')
    · refine ⟨written, 2, .inr ⟨⟨.io e.message, ?_⟩, hkept name hfinished hdifferent,
        fun hhealthy hopen => ?_⟩, fun other hmem _ hsame' => hkept other hmem hsame'⟩
      · rw [← hpath] at hwrite hrename
        exact (Contents.bind_eq_of_eq hwrite).trans (Contents.bind_eq_of_eq hrename)
      · obtain ⟨node, hnode, hfree⟩ := hopen name hfinished
        rw [← hkept name hfinished hdifferent] at hnode
        have hok := (host.moved written 1).respond_rename_ok folder hfiles hhealthy hunfinished
          hfinished hwhole hnode hfree
        rw [hrename] at hok
        cases hok
  · refine ⟨written, 1, .inr ⟨⟨.io e.message, ?_⟩, hkept name hfinished hdifferent,
      fun hhealthy hopen => ?_⟩, fun other hmem _ hsame' => hkept other hmem hsame'⟩
    · rw [← hpath] at hwrite
      exact Contents.bind_eq_of_eq hwrite
    · obtain ⟨node, hnode, hfree⟩ := hopen _ hunfinished
      have hok := host.respond_write_ok folder hfiles hhealthy hunfinished hnode hfree
        (listDocument write items)
      rw [hwrite] at hok
      cases hok

end Writing

end StoreFolder

end AddressIntake

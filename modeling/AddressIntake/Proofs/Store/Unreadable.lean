import AddressIntake.Proofs.Import.Conversation
import AddressIntake.Proofs.Store.Outcome

namespace AddressIntake

namespace Pipeline

variable {σ : Type} {store : Store (StateM σ)} {before after : σ} {project : String}
  {kind : AddressKind} {e : StoreError}

/-- Without an answer to the query for the addresses, no name is known. -/
theorem run_shipToLookup_of_error (hselect : store (.select project .shipTo) before = (.error e, after)) :
    run store (shipToLookup project) before = (.empty, after) :=
  run_eq_iff.2 ⟨_, ends_shipToLookup_iff.2 ⟨.error e, rfl, rfl⟩,
    Transcript.follows_singleton_iff.2 hselect⟩

/-- Without an answer to the query for the policy, rows are not checked. -/
theorem run_previewRows_of_error (hpolicy : store (.policy project kind) before = (.error e, after))
    (rows : List Row) :
    run store (previewRows project kind rows) before = (.error (.store e), after) :=
  run_eq_iff.2 ⟨_, ends_previewRows_iff.2 (.inl ⟨e, ends_checkStored_iff.2 (.inl ⟨e, rfl, rfl⟩), rfl⟩),
    Transcript.follows_singleton_iff.2 hpolicy⟩

/-- Without an answer to the query for the policy, no row is written. -/
theorem run_commitRows_of_error (hpolicy : store (.policy project kind) before = (.error e, after))
    (rows : List Row) (options : CommitOptions) :
    run store (commitRows project kind rows options) before = (.error (.store e), after) :=
  run_eq_iff.2 ⟨_, ends_commitRows_iff.2 (.inl ⟨e, ends_checkStored_iff.2 (.inl ⟨e, rfl, rfl⟩), rfl⟩),
    Transcript.follows_singleton_iff.2 hpolicy⟩

/-- A preview of rows fails only if the policy cannot be read. -/
theorem policy_error_of_run_previewRows {rows : List Row} {fault : ImportError}
    (hfailed : (run store (previewRows project kind rows) before).1 = .error fault) :
    ∃ cause, fault = .store cause ∧ (store (.policy project kind) before).1 = .error cause := by
  obtain ⟨transcript, hends, hfollows⟩ :=
    exists_transcript_run store (previewRows project kind rows) before
  rw [hfailed] at hends
  obtain ⟨cause, hcheck, hfault⟩ | ⟨_, _, hresult⟩ := ends_previewRows_iff.1 hends
  · obtain ⟨other, rfl, hother⟩ | ⟨_, _, _, _, _, hother⟩ := ends_checkStored_iff.1 hcheck
    · cases hother
      exact ⟨cause, Except.error.inj hfault, hfollows.1⟩
    · cases hother
  · cases hresult

end Pipeline

namespace StoreFolder

open Pipeline

variable {folder : String} {host : Host} (hhealthy : ∀ n, host.mishaps n = none)

include hhealthy

/-- Whatever the file of policies holds, nothing is loaded if the addresses cannot be read. -/
theorem exists_load_of_unreadable {e : StoreError}
    (hunreadable : storedAddresses folder host.tree = .error e) :
    ∃ count, load Host.answer folder host = (.error e, host.moved host.tree count) := by
  obtain ⟨count, hload⟩ := exists_load_eq folder hhealthy
  rw [loaded, hunreadable] at hload
  exact ⟨count, hload⟩

/-- A policy is found or not if both files can be read. -/
theorem exists_policy_of_readable {addresses : List Address} {policies : List Policy}
    (haddresses : storedAddresses folder host.tree = .ok addresses)
    (hpolicies : storedPolicies folder host.tree = .ok policies) (project : String)
    (kind : AddressKind) :
    ∃ policy, (answer Host.answer Host.fresh folder (.policy project kind) host).1 = .ok policy := by
  obtain ⟨count, hload⟩ := exists_load_eq folder hhealthy
  rw [loaded, haddresses, hpolicies] at hload
  exact ⟨_, congrArg Prod.fst (Contents.bind_eq_of_eq hload)⟩

/-- With a file of addresses that cannot be read, the lookup of names is empty, but a preview and a
commit of rows end with the error of the store, whatever the policies and the rows are, and the files
stay as they were. With two files that can be read, both end with a result. -/
theorem imports_end_with_results_over_readable_files (project : String) (kind : AddressKind)
    (rows : List Row) (options : CommitOptions) :
    let store := answer Host.answer Host.fresh folder
    let lookup := run store (shipToLookup project) host
    let preview := run store (previewRows project kind rows) host
    let commit := run store (commitRows project kind rows options) host
    (∀ e, storedAddresses folder host.tree = .error e →
      (lookup.1 = .empty ∧ lookup.2.tree = host.tree) ∧
      (preview.1 = .error (.store e) ∧ preview.2.tree = host.tree) ∧
      commit.1 = .error (.store e) ∧ commit.2.tree = host.tree) ∧
    ∀ addresses policies, storedAddresses folder host.tree = .ok addresses →
      storedPolicies folder host.tree = .ok policies →
      (∃ result, preview.1 = .ok result) ∧ ∃ result, commit.1 = .ok result := by
  intro store lookup preview commit
  refine ⟨fun e hunreadable => ?_, fun addresses policies haddresses hpolicies => ?_⟩
  · obtain ⟨count, hload⟩ := exists_load_of_unreadable hhealthy hunreadable
    have hselect : store (.select project .shipTo) host = (.error e, host.moved host.tree count) :=
      Contents.bind_eq_of_eq hload
    have hpolicy : store (.policy project kind) host = (.error e, host.moved host.tree count) :=
      Contents.bind_eq_of_eq hload
    have hlookup : lookup = (.empty, _) := run_shipToLookup_of_error hselect
    have hpreview : preview = (.error (.store e), _) := run_previewRows_of_error hpolicy rows
    have hcommit : commit = (.error (.store e), _) := run_commitRows_of_error hpolicy rows options
    rw [hlookup, hpreview, hcommit]
    exact ⟨⟨rfl, rfl⟩, ⟨rfl, rfl⟩, rfl, rfl⟩
  · obtain ⟨policy, hpolicy⟩ := exists_policy_of_readable hhealthy haddresses hpolicies project kind
    constructor
    · cases hpreview : preview.1 with
      | ok result => exact ⟨result, rfl⟩
      | error fault =>
        obtain ⟨cause, _, hcause⟩ := policy_error_of_run_previewRows hpreview
        cases hpolicy.symm.trans hcause
    · cases hcommit : commit.1 with
      | ok result => exact ⟨result, rfl⟩
      | error fault =>
        obtain ⟨cause, _, hcause⟩ := policy_error_of_run_commitRows hcommit
        cases hpolicy.symm.trans hcause

omit hhealthy

/-- A row that names a ship-to address, over a file of addresses that breaks off and over one that
holds the address. There is no file of policies. -/
theorem imports_end_with_results_over_readable_files_beside_a_broken_list :
    let row : Row := .ofList [("address_line1", "1 Main St"), ("city", "Salem"), ("country", "US"),
      ("ship_to_name", "Acme"), ("state", "OR")]
    let acme : Address :=
      ⟨.zero, "p", .shipTo, .ofRow (.ofList [("company_name", "Acme")]), none, .epoch⟩
    let broken := FileTree.empty.put ["addresses.json"] (.file (.ofText ['{']))
    let whole := FileTree.empty.put ["addresses.json"] (.file (listDocument Address.toJson [acme]))
    let host (tree : FileTree) := Host.working tree fun _ => ⟨.zero, .epoch⟩
    let store := answer Host.answer Host.fresh ""
    let lookup (tree : FileTree) := run store (shipToLookup "p") (host tree)
    let preview (tree : FileTree) := run store (previewRows "p" .installAt [row]) (host tree)
    let commit (tree : FileTree) := run store (commitRows "p" .installAt [row] .default) (host tree)
    let cause := ImportError.store (.json "unexpected content")
    ((lookup broken).1 = .empty ∧
      ((preview broken).1 = .error cause ∧ (preview broken).2.tree = broken) ∧
      (commit broken).1 = .error cause ∧ (commit broken).2.tree = broken) ∧
    (∃ result, (preview whole).1 = .ok result) ∧ ∃ result, (commit whole).1 = .ok result := by
  intro row acme broken whole host store lookup preview commit cause
  have hunreadable : storedAddresses "" broken = .error (.json "unexpected content") := by
    decide +kernel
  have haddresses : storedAddresses "" whole = .ok [acme] := by decide +kernel
  have hpolicies : storedPolicies "" whole = .ok [] := by decide +kernel
  obtain ⟨hfailed, _⟩ := @imports_end_with_results_over_readable_files "" (host broken)
    (fun _ => rfl) "p" .installAt [row] .default
  obtain ⟨_, hended⟩ := @imports_end_with_results_over_readable_files "" (host whole)
    (fun _ => rfl) "p" .installAt [row] .default
  obtain ⟨⟨hlookup, _⟩, hpreview, hcommit⟩ := hfailed _ hunreadable
  exact ⟨⟨hlookup, hpreview, hcommit⟩, hended [acme] [] haddresses hpolicies⟩

/-- The policies can be read, since there is no file of them, and yet a preview and a commit end with
an error. -/
theorem imports_fail_beside_a_broken_list :
    let tree := FileTree.empty.put ["addresses.json"] (.file (.ofText ['{']))
    let host := Host.working tree fun _ => ⟨.zero, .epoch⟩
    let store := answer Host.answer Host.fresh ""
    let row : Row := .ofList [("ship_to_name", "Acme"), ("address_line1", "1 Main St"),
      ("city", "Salem"), ("state", "OR"), ("country", "US")]
    storedPolicies "" tree = .ok [] ∧
      (∀ result, (run store (previewRows "p" .installAt [row]) host).1 ≠ .ok result) ∧
      ∀ result, (run store (commitRows "p" .installAt [row] .default) host).1 ≠ .ok result := by
  intro tree host store row
  have hunreadable : storedAddresses "" tree = .error (.json "unexpected content") := by
    decide +kernel
  obtain ⟨count, hload⟩ := @exists_load_of_unreadable "" host (fun _ => rfl) _ hunreadable
  have hpolicy : store (.policy "p" .installAt) host = (.error _, _) := Contents.bind_eq_of_eq hload
  refine ⟨by decide +kernel, fun result hresult => ?_, fun result hresult => ?_⟩
  · rw [run_previewRows_of_error hpolicy] at hresult
    cases hresult
  · rw [run_commitRows_of_error hpolicy] at hresult
    cases hresult

end StoreFolder

end AddressIntake

import AddressIntake.Proofs.ShipToLookup
import AddressIntake.Proofs.Store.History
import AddressIntake.Proofs.Text.Blank
import Mathlib.Data.List.Nodup

namespace AddressIntake

namespace Registry

/-- The first ship-to address of a project with a company name. -/
def firstShipTo? (registry : Registry) (project name : String) : Option Address :=
  (registry.select project .shipTo).find? (·.bears name)

/-- Whether an address holds the values of a row and refers to the ship-to address that the row
names. Only install-at addresses refer to any. -/
def Refers (registry : Registry) (row : Row) (address : Address) : Prop :=
  address.fields = .ofRow row ∧
    (address.kind ≠ .installAt → address.shipTo = none) ∧
    (address.kind = .installAt → ∃ (name : String) (target : Address),
      row.value? Schema.shipToKey = some name ∧
      registry.firstShipTo? address.project name = some target ∧
      address.shipTo = some target.id)

theorem firstShipTo?_append {registry : Registry} {project name : String} {target : Address}
    (hfirst : registry.firstShipTo? project name = some target) (added : List Address) :
    (registry.append added).firstShipTo? project name = some target := by
  rw [firstShipTo?, select, append, List.filter_append, List.find?_append]
  rw [firstShipTo?, select] at hfirst
  rw [hfirst, Option.some_or]

theorem Refers.append {registry : Registry} {row : Row} {address : Address}
    (hrefers : registry.Refers row address) (added : List Address) :
    (registry.append added).Refers row address := by
  obtain ⟨hfields, hother, hinstall⟩ := hrefers
  refine ⟨hfields, hother, fun hkind => ?_⟩
  obtain ⟨name, target, hname, hfirst, hshipTo⟩ := hinstall hkind
  exact ⟨name, target, hname, firstShipTo?_append hfirst added, hshipTo⟩

theorem mem_of_firstShipTo? {registry : Registry} {project name : String} {target : Address}
    (hfirst : registry.firstShipTo? project name = some target) :
    target ∈ registry.addresses ∧ target.project = project ∧ target.kind = .shipTo := by
  have hmem := List.mem_of_find?_eq_some hfirst
  simpa [select] using hmem

/-- An address is found by its identity if no two addresses share one. -/
theorem find?_id_of_nodup {registry : Registry} {target : Address}
    (hnodup : (registry.addresses.map (·.id)).Nodup) (hmem : target ∈ registry.addresses) :
    registry.find? target.id = some target := by
  obtain ⟨before, after, hsplit⟩ := List.append_of_mem hmem
  rw [hsplit, List.map_append, List.nodup_append] at hnodup
  rw [find?, hsplit, List.find?_append, List.find?_eq_none.2]
  · simp
  · intro other hother
    have hne := hnodup.2.2 other.id (List.mem_map_of_mem hother) target.id (by simp)
    simpa using hne

end Registry

theorem CommitJob.shipTo?_ofCommit (project : String) (kind : AddressKind) (options : CommitOptions)
    (answer : Except StoreError (List Address)) (row : Row) :
    (CommitJob.ofCommit project kind options answer).shipTo? row =
      if kind = .installAt then
        (ShipToLookup.ofAnswer answer).resolve? ((row.value? Schema.shipToKey).getD "")
      else none := by
  by_cases hkind : kind = .installAt <;> simp [shipTo?, ofCommit, ShipToLookup.needed, hkind]

/-- The address of a row that is not dangling refers as it should among the ship-to addresses that
the commit looked up. -/
theorem CommitJob.refers_of_not_isDangling {registry : Registry} {project : String}
    {kind : AddressKind} {options : CommitOptions} {row : Row} {address : Address}
    (hknown : (CommitJob.ofCommit project kind options
      (.ok (registry.select project .shipTo))).isDangling row = false)
    (hpayload : (CommitJob.ofCommit project kind options
      (.ok (registry.select project .shipTo))).newAddress row = address.payload) :
    registry.Refers row address := by
  obtain ⟨hproject, hkind, hfields, hshipTo⟩ := NewAddress.mk.inj hpayload
  change project = address.project at hproject
  change kind = address.kind at hkind
  subst hproject hkind
  refine ⟨hfields.symm, fun hother => ?_, fun hinstall => ?_⟩
  · rw [← hshipTo, shipTo?_ofCommit, if_neg hother]
  · have hresolve : address.shipTo =
        (registry.firstShipTo? address.project ((row.value? Schema.shipToKey).getD "")).map (·.id) := by
      rw [← hshipTo, shipTo?_ofCommit, if_pos hinstall, ShipToLookup.ofAnswer,
        ShipToLookup.resolve?_ofAddresses, Registry.firstShipTo?]
    have hsome : address.shipTo.isSome := by
      rw [← hshipTo]
      simpa [isDangling, ofCommit, hinstall, Option.isSome_iff_ne_none] using hknown
    obtain ⟨id, hid⟩ := Option.isSome_iff_exists.1 hsome
    rw [hid, eq_comm, Option.map_eq_some_iff] at hresolve
    obtain ⟨target, htarget, rfl⟩ := hresolve
    cases hvalue : row.value? Schema.shipToKey with
    | some name =>
      rw [hvalue, Option.getD_some] at htarget
      exact ⟨name, target, rfl, htarget, hid⟩
    | none =>
      -- a missing name stands for the empty one, which no address bears
      have hbears : target.bears "" = true := by
        rw [hvalue, Option.getD_none] at htarget
        exact List.find?_some htarget
      obtain ⟨own, _, hfilled, hsame⟩ := Address.bears_iff.1 hbears
      have hblank := Text.trim_eq_empty_iff.1 hsame
      rw [hfilled] at hblank
      cases hblank

theorem CommitJob.not_isBad_of_mem_cleanRows {job : CommitJob} {refuses : NewAddress → Option String}
    {rows : List Row} {row : Row} (hmem : row ∈ job.cleanRows refuses rows) :
    row.isBlank = false ∧ job.isBad refuses row = false := by
  simp only [cleanRows, List.mem_map, List.mem_filter, Bool.and_eq_true, Bool.not_eq_true'] at hmem
  obtain ⟨⟨row', i⟩, ⟨hentry, hfilled, hclean⟩, rfl⟩ := hmem
  have hrow := List.any_eq_false.1 hclean (row', i) hentry
  exact ⟨hfilled, by simpa using hrow⟩

namespace MemoryStore

open Pipeline

/-- A store that grew from an empty one: its addresses were made from the given rows one by one, each
with a stamp of its own, and refer as they should. -/
structure IsGrown (stamps : Nat → Stamp) (origins : List Row) (store : MemoryStore) : Prop where
  stamps_eq : store.stamps = stamps
  readable : store.readable = true
  ids : store.registry.addresses.map (·.id) = (List.range store.issued).map fun i => (stamps i).id
  refers : List.Forall₂ store.registry.Refers origins store.registry.addresses

theorem isGrown_empty (stamps : Nat → Stamp) : (empty stamps).IsGrown stamps [] :=
  ⟨rfl, rfl, rfl, .nil⟩

variable {stamps : Nat → Stamp} {origins : List Row} {store : MemoryStore}

/-- Creating addresses that refer as they should keeps a store grown. -/
theorem IsGrown.create (hgrown : store.IsGrown stamps origins) {refuses : NewAddress → Option String}
    {job : CommitJob} {rows : List Row}
    (hrefers : ∀ row ∈ rows, ∀ address : Address, job.newAddress row = address.payload →
      store.registry.Refers row address) :
    (({ store with refuses } : MemoryStore).create (rows.map job.newAddress)).IsGrown stamps
      (origins ++ rows) := by
  obtain ⟨rfl, hreadable, hids, hold⟩ := hgrown
  refine ⟨rfl, hreadable, ?_, ?_⟩
  · have hnew := map_id_stamped { store with refuses } (rows.map job.newAddress)
    rw [MemoryStore.create, Registry.append, List.map_append, hids, hnew, List.range_add,
      List.map_append, List.map_map]
    rfl
  · refine List.rel_append (hold.imp fun row address hrow => hrow.append _) ?_
    have hpairs := forall₂_stamped { store with refuses } job rows
    have hboth := (List.forall₂_and_left ..).2 ⟨hrefers, hpairs⟩
    exact hboth.imp fun row address hrow => (hrow.1 address hrow.2).append _

/-- A change keeps a store grown, with its sources as the rows of the new addresses. -/
theorem IsGrown.apply (hgrown : store.IsGrown stamps origins) (change : Change) :
    (store.apply change).IsGrown stamps (origins ++ store.sources change) := by
  cases change with
  | savePolicy policy =>
    rw [sources, List.append_nil]
    exact ⟨hgrown.stamps_eq, hgrown.readable, hgrown.ids, hgrown.refers⟩
  | commit refuses project kind rows options =>
    have hanswer : store.shipToAnswer project = .ok (store.registry.select project .shipTo) := by
      rw [shipToAnswer, respond, hgrown.readable]
      rfl
    rw [apply_commit]
    refine hgrown.create fun row hmem address hpayload => ?_
    rw [hanswer] at hpayload
    refine CommitJob.refers_of_not_isDangling ?_ hpayload
    rw [sources, hanswer] at hmem
    split at hmem
    · obtain ⟨hfilled, hgood⟩ := CommitJob.not_isBad_of_mem_cleanRows hmem
      simp only [CommitJob.isBad, hfilled, Bool.not_false, Bool.true_and,
        Bool.or_eq_false_iff] at hgood
      exact hgood.1
    · cases hmem

theorem IsGrown.applyAll (hgrown : store.IsGrown stamps origins) (changes : List Change) :
    (store.applyAll changes).IsGrown stamps (origins ++ store.allSources changes) := by
  induction changes generalizing store origins with
  | nil =>
    rw [allSources, List.append_nil]
    exact hgrown
  | cons change rest ih =>
    rw [allSources, ← List.append_assoc]
    exact ih (hgrown.apply change)

theorem IsGrown.nodup_ids (hgrown : store.IsGrown stamps origins)
    (hdistinct : ∀ m n, m < n → n < origins.length → (stamps m).id ≠ (stamps n).id) :
    (store.registry.addresses.map (·.id)).Nodup := by
  have hissued : store.issued = origins.length := by
    have hlength := congrArg List.length hgrown.ids
    rw [List.length_map, List.length_map, List.length_range] at hlength
    rw [← hlength, hgrown.refers.length_eq]
  rw [hgrown.ids]
  refine List.Nodup.map_on (fun m hm n hn hid => ?_) List.nodup_range
  rw [List.mem_range, hissued] at hm hn
  rcases Nat.lt_trichotomy m n with hlt | heq | hgt
  · exact absurd hid (hdistinct m n hlt hn)
  · exact heq
  · exact absurd hid.symm (hdistinct n m hgt hm)

/-- Later changes leave the first ship-to address with a name where it is, since addresses are only
added at the end. -/
theorem IsGrown.firstShipTo?_applyAll (hgrown : store.IsGrown stamps origins) {project name : String}
    {target : Address} (hfirst : store.registry.firstShipTo? project name = some target)
    (changes : List Change) :
    (store.applyAll changes).registry.firstShipTo? project name = some target := by
  induction changes generalizing store origins with
  | nil => exact hfirst
  | cons change rest ih =>
    refine ih (hgrown.apply change) ?_
    cases change with
    | savePolicy policy => exact hfirst
    | commit refuses project kind rows options =>
      rw [apply_commit]
      exact Registry.firstShipTo?_append hfirst _

/-- The lookup of a readable store resolves a name to the first ship-to address that bears it. -/
theorem resolve?_run_shipToLookup (hreadable : store.readable = true) (project name : String) :
    (run answer (shipToLookup project) store).1.resolve? name =
      (store.registry.firstShipTo? project name).map (·.id) := by
  have hanswer : respond (.select project .shipTo) store =
      (.ok (store.registry.select project .shipTo), store) := by
    rw [respond, hreadable]
    rfl
  have hrun : run answer (shipToLookup project) store =
      (.ofAnswer (.ok (store.registry.select project .shipTo)), store) :=
    run_eq_iff.2 ⟨_, ends_shipToLookup_iff.2 ⟨_, rfl, rfl⟩, Transcript.follows_singleton_iff.2 hanswer⟩
  rw [hrun, ShipToLookup.ofAnswer, ShipToLookup.resolve?_ofAddresses, Registry.firstShipTo?]

/-- An address holds the values of a row. If it is an install-at address, it refers to a stored
ship-to address of its project, the first one with the name in the row, and no later change gives
this name to another address. Otherwise it refers to none. -/
structure HoldsReference (store : MemoryStore) (row : Row) (address : Address) : Prop where
  fields : address.fields = .ofRow row
  none_of_ne : address.kind ≠ .installAt → address.shipTo = none
  some_of_installAt : address.kind = .installAt → ∃ (name : String) (target : Address),
    row.value? Schema.shipToKey = some name ∧
    address.shipTo = some target.id ∧
    store.registry.find? target.id = some target ∧
    target.project = address.project ∧ target.kind = .shipTo ∧
    target.fields.companyName.map Text.trim = some name ∧
    store.registry.firstShipTo? address.project name = some target ∧
    ∀ later : List Change,
      (run answer (shipToLookup address.project) (store.applyAll later)).1.resolve? name =
        some target.id

/-- In every history of an empty store, as long as no two records receive the same identity, each
address was made from a committed row and refers, for good, to what the row names. -/
theorem references_hold_in_every_history (stamps : Nat → Stamp) (changes : List Change)
    (hdistinct : ∀ m n, m < n → n < ((empty stamps).allSources changes).length →
      (stamps m).id ≠ (stamps n).id) :
    ((empty stamps).allSources changes).Sublist (changes.flatMap Change.rows) ∧
    List.Forall₂ ((empty stamps).applyAll changes).HoldsReference
      ((empty stamps).allSources changes) ((empty stamps).applyAll changes).registry.addresses := by
  have hgrown : ((empty stamps).applyAll changes).IsGrown stamps ((empty stamps).allSources changes) :=
    (isGrown_empty stamps).applyAll changes
  generalize (empty stamps).applyAll changes = store at hgrown ⊢
  refine ⟨allSources_sublist_rows _ _, hgrown.refers.imp fun row address hrefers => ?_⟩
  obtain ⟨hfields, hother, hinstall⟩ := hrefers
  refine ⟨hfields, hother, fun hkind => ?_⟩
  obtain ⟨name, target, hname, hfirst, hshipTo⟩ := hinstall hkind
  obtain ⟨hmem, hproject, hshipToKind⟩ := Registry.mem_of_firstShipTo? hfirst
  have hfound := Registry.find?_id_of_nodup (hgrown.nodup_ids hdistinct) hmem
  have hcompany : target.fields.companyName.map Text.trim = some name := by
    obtain ⟨own, hown, _, hsame⟩ := Address.bears_iff.1 (List.find?_some hfirst)
    rw [hown, Option.map_some, hsame, (Row.trim_value_of_eq_some hname).1]
  refine ⟨name, target, hname, hshipTo, hfound, hproject, hshipToKind, hcompany, hfirst,
    fun later => ?_⟩
  rw [resolve?_run_shipToLookup (hgrown.applyAll later).readable,
    hgrown.firstShipTo?_applyAll hfirst later, Option.map_some]

/-- A ship-to address, a policy, and then a row that refers to the address. -/
theorem references_hold_after_shipTo_then_installAt :
    let stamps (n : Nat) : Stamp :=
      ⟨⟨List.replicate 31 0 ++ [Fin.ofNat 16 n], rfl⟩, .epoch⟩
    let changes : List Change :=
      [.commit (fun _ => none) "project" .shipTo
          [.ofList [("address_line1", "1 Main St"), ("city", "Springfield"), ("company_name", "Acme "),
            ("country", "US"), ("state", "IL")]] .default,
        .savePolicy ⟨"project", .installAt, .empty, .epoch⟩,
        .commit (fun _ => none) "project" .installAt
          [.ofList [("address_line1", "2 Main St"), ("city", "Springfield"), ("country", "US"),
            ("ship_to_name", " Acme"), ("state", "IL")]] .default]
    List.Forall₂ ((empty stamps).applyAll changes).HoldsReference
      ((empty stamps).allSources changes) ((empty stamps).applyAll changes).registry.addresses := by
  intro stamps changes
  refine (references_hold_in_every_history stamps changes fun m n hlt hbound => ?_).2
  have hfew : n < 2 := Nat.lt_of_lt_of_le hbound (allSources_sublist_rows _ _).length_le
  obtain ⟨rfl, rfl⟩ : m = 0 ∧ n = 1 := by omega
  decide

end MemoryStore

end AddressIntake

import AddressIntake.Proofs.Import.Prediction
import AddressIntake.Proofs.Registry
import AddressIntake.Proofs.ShipToLookup
import AddressIntake.Proofs.Store.History

namespace AddressIntake

/-- The second list with some of its elements dropped, all of which may be dropped. The others keep
their order. -/
inductive DropsOnly {α : Type} (droppable : α → Prop) : List α → List α → Prop where
  | nil : DropsOnly droppable [] []
  | keep (a : α) {short long : List α} (hrest : DropsOnly droppable short long) :
      DropsOnly droppable (a :: short) (a :: long)
  | drop {a : α} (hdrop : droppable a) {short long : List α}
      (hrest : DropsOnly droppable short long) : DropsOnly droppable short (a :: long)

namespace DropsOnly

variable {α : Type} {droppable : α → Prop}

theorem refl (l : List α) : DropsOnly droppable l l := by
  induction l with
  | nil => exact .nil
  | cons a l ih => exact .keep a ih

theorem imp {droppable' : α → Prop} {short long : List α}
    (himp : ∀ a, droppable a → droppable' a) (hdrops : DropsOnly droppable short long) :
    DropsOnly droppable' short long := by
  induction hdrops with
  | nil => exact .nil
  | keep a _ ih => exact .keep a ih
  | drop hdrop _ ih => exact .drop (himp _ hdrop) ih

theorem append {short long short' long' : List α} (hfirst : DropsOnly droppable short long)
    (hsecond : DropsOnly droppable short' long') :
    DropsOnly droppable (short ++ short') (long ++ long') := by
  induction hfirst with
  | nil => exact hsecond
  | keep a _ ih => exact .keep a ih
  | drop hdrop _ ih => exact .drop hdrop ih

theorem flatMap {β : Type} {l : List β} {f g : β → List α}
    (heach : ∀ b ∈ l, DropsOnly droppable (f b) (g b)) :
    DropsOnly droppable (l.flatMap f) (l.flatMap g) := by
  induction l with
  | nil => exact .nil
  | cons b l ih =>
    rw [List.flatMap_cons, List.flatMap_cons]
    exact (heach b List.mem_cons_self).append
      (ih fun other hmem => heach other (List.mem_cons_of_mem _ hmem))

theorem sublist {short long : List α} (hdrops : DropsOnly droppable short long) :
    short.Sublist long := by
  induction hdrops with
  | nil => exact .slnil
  | keep a _ ih => exact ih.cons_cons a
  | drop _ _ ih => exact ih.cons _

end DropsOnly

namespace Validation

/-- The errors of a row that a check with fewer required keys and more known names does not make: a
missing value that is not required any more, and a name that is known by now. -/
inductive Lapses (kind : AddressKind) (fewer more : List String) (old new : Option ShipToLookup)
    (number : Nat) (row : Row) : RowError → Prop where
  | required {field : Field} (hfield : field ∈ Schema.fields kind) (hmore : field.key ∈ more)
      (hfewer : field.key ∉ fewer) (hnone : row.value? field.key = none) :
      Lapses kind fewer more old new number row (missing number field)
  | reference {name : String} (hkind : kind = .installAt)
      (hname : row.value? Schema.shipToKey = some name) (hold : isKnown old name = false)
      (hnew : isKnown new name = true) :
      Lapses kind fewer more old new number row (unresolved number name)

variable {kind : AddressKind} {fewer more : List String} {old new : Option ShipToLookup}

theorem checkField_dropsOnly (hrequired : fewer ⊆ more) (number : Nat) (row : Row) {field : Field}
    (hfield : field ∈ Schema.fields kind) :
    DropsOnly (Lapses kind fewer more old new number row) (checkField fewer number row field)
      (checkField more number row field) := by
  rw [checkField, checkField]
  cases hvalue : row.value? field.key with
  | some value => exact .refl _
  | none =>
    by_cases hfewer : field.key ∈ fewer
    · simp only [List.contains_iff_mem, hfewer, hrequired hfewer, ↓reduceIte]
      exact .refl _
    · by_cases hmore : field.key ∈ more
      · simp only [List.contains_iff_mem, hfewer, hmore, ↓reduceIte]
        exact .drop (.required hfield hmore hfewer hvalue) .nil
      · simp only [List.contains_iff_mem, hfewer, hmore, ↓reduceIte]
        exact .nil

theorem checkReference_dropsOnly (hknown : ∀ name, isKnown old name = true → isKnown new name = true)
    (number : Nat) (row : Row) :
    DropsOnly (Lapses .installAt fewer more old new number row) (checkReference new number row)
      (checkReference old number row) := by
  rw [checkReference, checkReference]
  cases hname : row.value? Schema.shipToKey with
  | none => exact .nil
  | some name =>
    cases hold : isKnown old name with
    | true =>
      simp only [hold, hknown name hold, ↓reduceIte]
      exact .nil
    | false =>
      cases hnew : isKnown new name with
      | true =>
        simp only [hold, hnew, Bool.false_eq_true, ↓reduceIte]
        exact .drop (.reference rfl hname hold hnew) .nil
      | false =>
        simp only [hold, hnew, Bool.false_eq_true, ↓reduceIte]
        exact .refl _

theorem checkRow_dropsOnly (hrequired : fewer ⊆ more)
    (hknown : ∀ name, isKnown old name = true → isKnown new name = true) (number : Nat) (row : Row) :
    DropsOnly (Lapses kind fewer more old new number row) (checkRow kind fewer new number row)
      (checkRow kind more old number row) := by
  have hfields : DropsOnly (Lapses kind fewer more old new number row)
      ((Schema.fields kind).flatMap (checkField fewer number row))
      ((Schema.fields kind).flatMap (checkField more number row)) :=
    .flatMap fun field hfield => checkField_dropsOnly hrequired number row hfield
  refine hfields.append ?_
  by_cases hkind : kind = .installAt
  · subst hkind
    exact checkReference_dropsOnly hknown number row
  · simp only [beq_iff_eq, hkind, ↓reduceIte]
    exact .nil

/-- The errors of rows that a check with fewer required keys and more known names does not make. -/
def LapsesIn (kind : AddressKind) (fewer more : List String) (old new : Option ShipToLookup)
    (rows : List Row) (error : RowError) : Prop :=
  ∃ (index : Nat) (row : Row), rows[index]? = some row ∧ row.isBlank = false ∧
    Lapses kind fewer more old new (Row.number index) row error

/-- With fewer required keys and more known names a check makes the same errors in the same order,
without those that are due to the other keys and names. -/
theorem checkRows_dropsOnly (hrequired : fewer ⊆ more)
    (hknown : ∀ name, isKnown old name = true → isKnown new name = true) (rows : List Row) :
    DropsOnly (LapsesIn kind fewer more old new rows) (checkRows kind fewer new rows)
      (checkRows kind more old rows) := by
  refine .flatMap fun entry hentry => ?_
  obtain ⟨row, index⟩ := entry
  have hrow := List.mem_zipIdx_iff_getElem?.1 hentry
  cases hblank : row.isBlank with
  | true =>
    simp only [hblank, ↓reduceIte]
    exact .nil
  | false =>
    simp only [hblank, Bool.false_eq_true, ↓reduceIte]
    exact (checkRow_dropsOnly hrequired hknown (Row.number index) row).imp
      fun error hlapses => ⟨index, row, hrow, hblank, hlapses⟩

end Validation

theorem ShipToLookup.isKnown_needed_append {kind : AddressKind} {addresses added : List Address}
    {name : String} (hknown : Validation.isKnown (needed kind (.ok addresses)) name = true) :
    Validation.isKnown (needed kind (.ok (addresses ++ added))) name = true := by
  by_cases hkind : kind = .installAt
  · simp only [needed, hkind, ↓reduceIte, Validation.isKnown, Option.bind_some, ofAnswer,
      resolve?_ofAddresses, Option.isSome_map, List.find?_append, Option.isSome_or] at hknown ⊢
    rw [hknown, Bool.true_or]
  · simp only [needed, hkind, ↓reduceIte] at hknown ⊢
    exact hknown

namespace MemoryStore

open Pipeline

variable {store : MemoryStore} {project : String} {kind : AddressKind} {rows : List Row}

/-- A change adds addresses at the end, and nothing else changes in what can be asked about them. -/
theorem exists_addresses_apply (store : MemoryStore) (change : Change) :
    (∃ added, (store.apply change).registry.addresses = store.registry.addresses ++ added) ∧
      (store.apply change).readable = store.readable := by
  cases change with
  | savePolicy policy => exact ⟨⟨[], (List.append_nil _).symm⟩, rfl⟩
  | commit refuses project kind rows options =>
    rw [apply_commit]
    exact ⟨⟨_, rfl⟩, rfl⟩

theorem exists_addresses_applyAll (store : MemoryStore) (changes : List Change) :
    (∃ added, (store.applyAll changes).registry.addresses = store.registry.addresses ++ added) ∧
      (store.applyAll changes).readable = store.readable := by
  induction changes generalizing store with
  | nil => exact ⟨⟨[], (List.append_nil _).symm⟩, rfl⟩
  | cons change rest ih =>
    obtain ⟨⟨first, hfirst⟩, hreadable⟩ := store.exists_addresses_apply change
    obtain ⟨⟨others, hothers⟩, hrest⟩ := ih (store.apply change)
    refine ⟨⟨first ++ others, ?_⟩, hrest.trans hreadable⟩
    rw [← List.append_assoc, ← hfirst, ← hothers]
    rfl

/-- A name that install-at rows may refer to stays one, whatever is committed. -/
theorem isKnown_shipToAnswer_applyAll (changes : List Change) {name : String}
    (hknown : Validation.isKnown (ShipToLookup.needed kind (store.shipToAnswer project)) name =
      true) :
    Validation.isKnown
      (ShipToLookup.needed kind ((store.applyAll changes).shipToAnswer project)) name = true := by
  obtain ⟨⟨added, hadded⟩, hreadable⟩ := store.exists_addresses_applyAll changes
  rw [shipToAnswer, respond] at hknown ⊢
  rw [hreadable]
  cases hanswers : store.readable with
  | false => simpa only [hanswers, Bool.false_eq_true, ↓reduceIte] using hknown
  | true =>
    simp only [hanswers, ↓reduceIte, Registry.select, hadded, List.filter_append] at hknown ⊢
    exact ShipToLookup.isKnown_needed_append hknown

/-- The keys that the stored policy requires. -/
def requiredFor (store : MemoryStore) (project : String) (kind : AddressKind) : List String :=
  Policy.requiredKeys (Schema.fields kind) (Policy.flagsOf (store.registry.policy? project kind))

/-- Whether a change keeps within the given required keys: it saves no policy for the project and
kind that requires others. -/
def Change.RequiresAtMost (project : String) (kind : AddressKind) (keys : List String)
    (change : Change) : Prop :=
  ∀ policy, change = .savePolicy policy → Registry.governs project kind policy = true →
    Policy.requiredKeys (Schema.fields kind) policy.required ⊆ keys

theorem requiredFor_apply {keys : List String} {change : Change}
    (hbefore : store.requiredFor project kind ⊆ keys)
    (hchange : change.RequiresAtMost project kind keys) :
    (store.apply change).requiredFor project kind ⊆ keys := by
  cases change with
  | commit refuses other rows options =>
    rw [apply_commit]
    exact hbefore
  | savePolicy policy =>
    rw [requiredFor, apply, respond, Registry.policy?_savePolicy]
    split
    · next hgoverns => exact hchange policy rfl hgoverns
    · exact hbefore

theorem requiredFor_applyAll {keys : List String} {changes : List Change}
    (hbefore : store.requiredFor project kind ⊆ keys)
    (hchanges : ∀ change ∈ changes, change.RequiresAtMost project kind keys) :
    (store.applyAll changes).requiredFor project kind ⊆ keys := by
  induction changes generalizing store with
  | nil => exact hbefore
  | cons change rest ih =>
    exact ih (requiredFor_apply hbefore (hchanges change List.mem_cons_self))
      fun other hmem => hchanges other (List.mem_cons_of_mem _ hmem)

/-- A check after changes finds no errors that it would not have found before. -/
theorem errorsOf_applyAll_sublist (rows : List Row) {changes : List Change}
    (hchanges : ∀ change ∈ changes,
      change.RequiresAtMost project kind (store.requiredFor project kind)) :
    ((store.applyAll changes).errorsOf project kind rows
        ((store.applyAll changes).shipToAnswer project)).Sublist
      (store.errorsOf project kind rows (store.shipToAnswer project)) := by
  have hrequired : (store.applyAll changes).requiredFor project kind ⊆
      store.requiredFor project kind := requiredFor_applyAll (List.Subset.refl _) hchanges
  exact (Validation.checkRows_dropsOnly hrequired
    (fun _ => isKnown_shipToAnswer_applyAll changes) rows).sublist

/-- A check that requires fewer keys and knows more names finds the same errors in the same order,
without those that are due to the other keys and names. So a clean preview is not invalidated by
what is committed afterwards: as long as no policy is saved that requires more, a commit of the same
rows to a store that refuses nothing writes all of them. -/
theorem clean_previews_outlast_growth (store : MemoryStore) (project : String) (kind : AddressKind)
    (rows : List Row) (options : CommitOptions) :
    (∀ (fewer more : List String) (old new : Option ShipToLookup), fewer ⊆ more →
      (∀ name, Validation.isKnown old name = true → Validation.isKnown new name = true) →
      (Validation.checkRows kind fewer new rows).Sublist (Validation.checkRows kind more old rows) ∧
      DropsOnly (Validation.LapsesIn kind fewer more old new rows)
        (Validation.checkRows kind fewer new rows) (Validation.checkRows kind more old rows)) ∧
    ∀ (preview : ValidationResult) (later : List Change),
      (run answer (previewRows project kind rows) store).1 = .ok preview → preview.isClean = true →
      (∀ change ∈ later, change.RequiresAtMost project kind (store.requiredFor project kind)) →
      let grown : MemoryStore := { store.applyAll later with refuses := fun _ => none }
      ∃ (result : ImportResult) (after : MemoryStore),
        run answer (commitRows project kind rows options) grown = (.ok result, after) ∧
        grown.ImportsAll project kind rows options result after := by
  refine ⟨fun fewer more old new hrequired hknown => ?monotone,
    fun preview later hpreview hclean hlater => ?lasting⟩
  case monotone =>
    have hdrops : DropsOnly (Validation.LapsesIn kind fewer more old new rows)
        (Validation.checkRows kind fewer new rows) (Validation.checkRows kind more old rows) :=
      Validation.checkRows_dropsOnly hrequired hknown rows
    exact ⟨hdrops.sublist, hdrops⟩
  case lasting =>
    intro grown
    have hbefore : store.errorsOf project kind rows (store.shipToAnswer project) = [] := by
      rw [run_answer_previewRows, Except.ok.injEq] at hpreview
      rw [← hpreview, ValidationResult.isClean, List.isEmpty_iff] at hclean
      exact hclean
    have hafter : grown.errorsOf project kind rows (grown.shipToAnswer project) = [] := by
      have hfewer := errorsOf_applyAll_sublist rows hlater
      rw [hbefore] at hfewer
      exact List.sublist_nil.1 hfewer
    exact importsAll_of_errorsOf_eq_nil (fun _ => rfl) hafter options

/-- A row that names a ship-to address. After its preview a commit fails, a policy for other rows is
saved, and the name is given to a second address. -/
theorem clean_previews_outlast_growth_of_a_reference :
    let acme : Row := .ofList [("address_line1", "1 Main St"), ("city", "Springfield"),
      ("company_name", "Acme"), ("country", "US"), ("state", "IL")]
    let rows : List Row := [.ofList [], .ofList [("address_line1", "2 Main St"),
      ("city", "Springfield"), ("country", "US"), ("ship_to_name", " Acme"), ("state", "IL")]]
    let before := empty fun _ => ⟨.zero, .epoch⟩
    let job := CommitJob.ofCommit "project" .shipTo .default (before.shipToAnswer "project")
    let store := before.create [job.newAddress acme]
    let later : List Change := [.commit (fun _ => some "full") "project" .installAt rows .default,
      .savePolicy ⟨"project", .shipTo, Policy.flagsRequiring ["phone"], .epoch⟩,
      .commit (fun _ => none) "project" .shipTo [acme] .default]
    let grown : MemoryStore := { store.applyAll later with refuses := fun _ => none }
    (Validation.checkRows .installAt ["city"] (some .empty) rows).Sublist
      (Validation.checkRows .installAt ["phone", "city"] none rows) ∧
    ∃ (result : ImportResult) (after : MemoryStore),
      run answer (commitRows "project" .installAt rows .default) grown = (.ok result, after) ∧
      grown.ImportsAll "project" .installAt rows .default result after := by
  intro acme rows before job store later grown
  obtain ⟨hmonotone, hlasting⟩ :=
    clean_previews_outlast_growth store "project" .installAt rows .default
  have hclean : store.errorsOf "project" .installAt rows (store.shipToAnswer "project") = [] :=
    errorsOf_eq_nil rfl (by decide +kernel) (by decide +kernel)
  have hlater : ∀ change ∈ later,
      change.RequiresAtMost "project" .installAt (store.requiredFor "project" .installAt) := by
    intro change hmem policy hsaved hgoverns
    subst hsaved
    obtain rfl : policy = ⟨"project", .shipTo, Policy.flagsRequiring ["phone"], .epoch⟩ := by
      simpa [later] using hmem
    cases (Registry.governs_iff.1 hgoverns).2
  refine ⟨(hmonotone ["city"] ["phone", "city"] none (some .empty) (by simp) ?_).1,
    hlasting _ later (congrArg Prod.fst (run_answer_previewRows store _ _ rows)) ?_ hlater⟩
  · intro name hknown
    cases hknown
  · rw [ValidationResult.isClean, ValidationResult.summarize, hclean]
    rfl

end MemoryStore

end AddressIntake

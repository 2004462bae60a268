import AddressIntake.Registry
import Mathlib.Data.List.Nodup

namespace AddressIntake.Registry

theorem governs_iff {project : String} {kind : AddressKind} {policy : Policy} :
    governs project kind policy = true ↔ policy.project = project ∧ policy.kind = kind := by
  rw [governs, Bool.and_eq_true, beq_iff_eq, beq_iff_eq]

/-- A policy that is put among others is found for its project and kind. For any other project and
kind the same policy is found as before. -/
theorem find?_putPolicy (project : String) (kind : AddressKind) (policy : Policy)
    (policies : List Policy) :
    (putPolicy policy policies).find? (governs project kind) =
      if governs project kind policy then some policy
      else policies.find? (governs project kind) := by
  induction policies with
  | nil => cases hgoverns : governs project kind policy <;> simp [putPolicy, hgoverns]
  | cons other rest ih =>
    rw [putPolicy]
    by_cases hreplaced : governs policy.project policy.kind other = true
    · -- the policy and the one that it replaces govern the same project and kind
      have hsame : governs project kind other = governs project kind policy := by
        obtain ⟨hproject, hkind⟩ := governs_iff.1 hreplaced
        rw [governs, governs, hproject, hkind]
      rw [if_pos hreplaced, List.find?_cons, List.find?_cons, hsame]
      cases governs project kind policy <;> rfl
    · rw [if_neg hreplaced, List.find?_cons, List.find?_cons, ih]
      cases hother : governs project kind other with
      | false => rfl
      | true =>
        have hforeign : governs project kind policy = false := by
          rw [Bool.eq_false_iff]
          intro hgoverns
          obtain ⟨rfl, rfl⟩ := governs_iff.1 hgoverns
          exact hreplaced hother
        rw [hforeign]
        rfl

/-- The policies after others were saved one after the other. -/
def putAll (saved policies : List Policy) : List Policy :=
  saved.foldl (fun policies policy => putPolicy policy policies) policies

/-- The last policy that was saved for a project and kind is found, or the one from before if there
is none. -/
theorem find?_putAll (project : String) (kind : AddressKind) (saved policies : List Policy) :
    (putAll saved policies).find? (governs project kind) =
      (saved.reverse.find? (governs project kind)).or (policies.find? (governs project kind)) := by
  induction saved generalizing policies with
  | nil => rfl
  | cons policy saved ih =>
    have hrest : putAll (policy :: saved) policies = putAll saved (putPolicy policy policies) := rfl
    rw [hrest, ih, find?_putPolicy, List.reverse_cons, List.find?_append, Option.or_assoc]
    cases hgoverns : governs project kind policy <;> simp [hgoverns]

/-- What a policy is found by. -/
def policyKey (policy : Policy) : String × AddressKind :=
  (policy.project, policy.kind)

theorem mem_map_policyKey_putPolicy {policy : Policy} {policies : List Policy}
    {key : String × AddressKind} (hmem : key ∈ (putPolicy policy policies).map policyKey) :
    key = policyKey policy ∨ key ∈ policies.map policyKey := by
  induction policies with
  | nil => exact .inl (List.mem_singleton.1 hmem)
  | cons other rest ih =>
    rw [putPolicy] at hmem
    split at hmem
    · rcases List.mem_cons.1 hmem with hfirst | hrest
      · exact .inl hfirst
      · exact .inr (List.mem_cons_of_mem _ hrest)
    · rcases List.mem_cons.1 hmem with hfirst | hrest
      · exact .inr (List.mem_cons.2 (.inl hfirst))
      · exact (ih hrest).imp_right (List.mem_cons_of_mem _)

/-- No project and kind gets a second policy. -/
theorem nodup_putPolicy (policy : Policy) {policies : List Policy}
    (hnodup : (policies.map policyKey).Nodup) :
    ((putPolicy policy policies).map policyKey).Nodup := by
  induction policies with
  | nil => exact List.nodup_singleton _
  | cons other rest ih =>
    obtain ⟨hother, hrest⟩ := List.nodup_cons.1 hnodup
    rw [putPolicy]
    split
    · next hgoverns =>
      obtain ⟨hproject, hkind⟩ := governs_iff.1 hgoverns
      have hkey : policyKey other = policyKey policy := Prod.ext hproject hkind
      rw [hkey] at hother
      exact List.nodup_cons.2 ⟨hother, hrest⟩
    · next hgoverns =>
      refine List.nodup_cons.2 ⟨fun hmem => ?_, ih hrest⟩
      rcases mem_map_policyKey_putPolicy hmem with hsame | hlater
      · exact hgoverns (governs_iff.2 ⟨congrArg Prod.fst hsame, congrArg Prod.snd hsame⟩)
      · exact hother hlater

theorem nodup_putAll (saved : List Policy) {policies : List Policy}
    (hnodup : (policies.map policyKey).Nodup) : ((putAll saved policies).map policyKey).Nodup := by
  induction saved generalizing policies with
  | nil => exact hnodup
  | cons policy saved ih => exact ih (nodup_putPolicy policy hnodup)

theorem policy?_savePolicy (registry : Registry) (project : String) (kind : AddressKind)
    (policy : Policy) :
    (registry.savePolicy policy).policy? project kind =
      if governs project kind policy then some policy else registry.policy? project kind :=
  find?_putPolicy project kind policy registry.policies

end AddressIntake.Registry

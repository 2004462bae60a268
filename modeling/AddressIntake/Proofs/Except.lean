namespace AddressIntake

variable {ε α β : Type}

theorem exists_of_bind_eq_ok {x : Except ε α} {f : α → Except ε β} {b : β}
    (hbind : x >>= f = .ok b) : ∃ a, x = .ok a ∧ f a = .ok b := by
  cases x with
  | error e => cases hbind
  | ok a => exact ⟨a, rfl, hbind⟩

theorem bind_eq_ok_iff {x : Except ε α} {f : α → Except ε β} {b : β} :
    x >>= f = .ok b ↔ ∃ a, x = .ok a ∧ f a = .ok b := by
  refine ⟨exists_of_bind_eq_ok, ?_⟩
  rintro ⟨a, rfl, hvalue⟩
  exact hvalue

theorem mapError_eq_ok_iff {ε' : Type} {f : ε → ε'} {x : Except ε α} {a : α} :
    x.mapError f = .ok a ↔ x = .ok a := by
  cases x with
  | error e => exact iff_of_false (fun hok => nomatch hok) fun hok => nomatch hok
  | ok known => exact (Except.ok.injEq known a).to_iff.trans (Except.ok.injEq known a).to_iff.symm

theorem exists_of_mem_mapM {f : α → Except ε β} {xs : List α} {ys : List β}
    (hmap : xs.mapM f = .ok ys) {y : β} (hmem : y ∈ ys) : ∃ x ∈ xs, f x = .ok y := by
  induction xs generalizing ys with
  | nil =>
    cases hmap
    cases hmem
  | cons x rest ih =>
    rw [List.mapM_cons] at hmap
    obtain ⟨first, hfirst, hmap⟩ := exists_of_bind_eq_ok hmap
    obtain ⟨others, hrest, hmap⟩ := exists_of_bind_eq_ok hmap
    cases hmap
    rcases List.mem_cons.1 hmem with rfl | hother
    · exact ⟨x, List.mem_cons_self, hfirst⟩
    · obtain ⟨found, hfound, hvalue⟩ := ih hrest hother
      exact ⟨found, List.mem_cons_of_mem x hfound, hvalue⟩

theorem mapM_eq_ok_map {f : α → Except ε β} {g : α → β} {xs : List α}
    (heq : ∀ x ∈ xs, f x = .ok (g x)) : xs.mapM f = .ok (xs.map g) := by
  induction xs with
  | nil => rfl
  | cons x rest ih =>
    have hrest := ih fun other hother => heq other (List.mem_cons_of_mem x hother)
    rw [List.mapM_cons, heq x List.mem_cons_self, hrest]
    rfl

end AddressIntake

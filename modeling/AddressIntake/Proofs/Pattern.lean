import AddressIntake.Pattern

namespace AddressIntake

namespace CharRun

/-- Whether a text is a run: its characters are of the class, and their number is within the
bounds. -/
structure Admits (run : CharRun) (cs : List Char) : Prop where
  accepts : ∀ c ∈ cs, run.accepts c = true
  least_le : run.least ≤ cs.length
  le_most : ∀ most, run.most = some most → cs.length ≤ most

variable {accepts : Char → Bool} {least : Nat} {most : Option Nat} {cs : List Char}

theorem admits_nil_iff : Admits ⟨accepts, least, most⟩ [] ↔ least = 0 :=
  ⟨fun hadmits => Nat.le_zero.1 hadmits.least_le,
    fun hleast => ⟨List.forall_mem_nil _, Nat.le_of_eq hleast, fun _ _ => Nat.zero_le _⟩⟩

/-- The first character of a run counts against both bounds. -/
theorem admits_cons_iff {c : Char} :
    Admits ⟨accepts, least, most⟩ (c :: cs) ↔
      (most ≠ some 0 ∧ accepts c = true) ∧ Admits ⟨accepts, least - 1, most.map (· - 1)⟩ cs := by
  constructor
  · rintro ⟨haccepts, hleast, hmost⟩
    obtain ⟨hc, hcs⟩ := List.forall_mem_cons.1 haccepts
    rw [List.length_cons] at hleast hmost
    refine ⟨⟨fun hzero => absurd (hmost 0 hzero) (by omega), hc⟩, hcs,
      Nat.sub_le_of_le_add hleast, ?_⟩
    intro bound hbound
    obtain ⟨limit, hlimit, rfl⟩ := Option.map_eq_some_iff.1 hbound
    exact Nat.le_sub_of_add_le (hmost limit hlimit)
  · rintro ⟨⟨hpositive, hc⟩, hcs, hleast, hmost⟩
    refine ⟨List.forall_mem_cons.2 ⟨hc, hcs⟩, Nat.le_add_of_sub_le hleast, ?_⟩
    rintro limit hlimit
    have hne : limit ≠ 0 := fun hzero => hpositive (hzero ▸ hlimit)
    have hbound := hmost (limit - 1) (Option.map_eq_some_iff.2 ⟨limit, hlimit, rfl⟩)
    rw [List.length_cons]
    omega

/-- A text is matched if it starts with some run and the rest is accepted further on. -/
theorem matchThen_iff {further : List Char → Bool} :
    matchThen accepts further least most cs = true ↔
      ∃ first rest, cs = first ++ rest ∧ Admits ⟨accepts, least, most⟩ first ∧
        further rest = true := by
  induction cs generalizing least most with
  | nil =>
    rw [matchThen, Bool.and_eq_true, beq_iff_eq]
    constructor
    · rintro ⟨hleast, hfurther⟩
      exact ⟨[], [], rfl, admits_nil_iff.2 hleast, hfurther⟩
    · rintro ⟨first, rest, hsplit, hfirst, hfurther⟩
      obtain ⟨rfl, rfl⟩ := List.append_eq_nil_iff.1 hsplit.symm
      exact ⟨admits_nil_iff.1 hfirst, hfurther⟩
  | cons c cs ih =>
    simp only [matchThen, Bool.or_eq_true, Bool.and_eq_true, beq_iff_eq, bne_iff_ne, ih]
    constructor
    · rintro (⟨hleast, hfurther⟩ | ⟨hc, first, rest, rfl, hfirst, hfurther⟩)
      · exact ⟨[], c :: cs, rfl, admits_nil_iff.2 hleast, hfurther⟩
      · exact ⟨c :: first, rest, rfl, admits_cons_iff.2 ⟨hc, hfirst⟩, hfurther⟩
    · rintro ⟨first, rest, hsplit, hfirst, hfurther⟩
      cases first with
      | nil =>
        rw [hsplit]
        exact .inl ⟨admits_nil_iff.1 hfirst, hfurther⟩
      | cons d first =>
        obtain ⟨rfl, rfl⟩ := List.cons_eq_cons.1 hsplit
        obtain ⟨hc, hfirst⟩ := admits_cons_iff.1 hfirst
        exact .inr ⟨hc, first, rest, rfl, hfirst, hfurther⟩

theorem admits_one_iff : (one accepts).Admits cs ↔ ∃ c, cs = [c] ∧ accepts c = true := by
  constructor
  · rintro ⟨haccepts, hleast, hmost⟩
    obtain ⟨c, rfl⟩ := List.length_eq_one_iff.1 (Nat.le_antisymm (hmost 1 rfl) hleast)
    exact ⟨c, rfl, haccepts c (List.mem_singleton_self c)⟩
  · rintro ⟨c, rfl, hc⟩
    exact ⟨List.forall_mem_singleton.2 hc, Nat.le_refl 1,
      fun _ hmost => Nat.le_of_eq (Option.some.inj hmost)⟩

theorem admits_optional_iff :
    (optional accepts).Admits cs ↔ cs = [] ∨ ∃ c, cs = [c] ∧ accepts c = true := by
  constructor
  · rintro ⟨haccepts, _, hmost⟩
    rcases Nat.le_one_iff_eq_zero_or_eq_one.1 (hmost 1 rfl) with hnone | hsingle
    · exact .inl (List.length_eq_zero_iff.1 hnone)
    · obtain ⟨c, rfl⟩ := List.length_eq_one_iff.1 hsingle
      exact .inr ⟨c, rfl, haccepts c (List.mem_singleton_self c)⟩
  · rintro (rfl | ⟨c, rfl, hc⟩)
    · exact admits_nil_iff.2 rfl
    · exact ⟨List.forall_mem_singleton.2 hc, Nat.zero_le 1,
        fun _ hmost => Nat.le_of_eq (Option.some.inj hmost)⟩

theorem admits_exactly_iff {n : Nat} :
    (exactly n accepts).Admits cs ↔ cs.length = n ∧ ∀ c ∈ cs, accepts c = true := by
  constructor
  · rintro ⟨haccepts, hleast, hmost⟩
    exact ⟨Nat.le_antisymm (hmost n rfl) hleast, haccepts⟩
  · rintro ⟨rfl, haccepts⟩
    exact ⟨haccepts, Nat.le_refl _, fun _ hmost => Nat.le_of_eq (Option.some.inj hmost)⟩

theorem admits_atLeast_iff {n : Nat} :
    (atLeast n accepts).Admits cs ↔ n ≤ cs.length ∧ ∀ c ∈ cs, accepts c = true :=
  ⟨fun hadmits => ⟨hadmits.least_le, hadmits.accepts⟩, fun ⟨hleast, haccepts⟩ =>
    ⟨haccepts, hleast, fun _ hmost => nomatch hmost⟩⟩

end CharRun

namespace Pattern

/-- A text is made of texts that the runs of a pattern admit, one after the other. -/
inductive Matches : Pattern → List Char → Prop where
  | nil : Matches [] []
  | cons {run : CharRun} {rest : Pattern} {first others : List Char} (hfirst : run.Admits first)
      (hothers : Matches rest others) : Matches (run :: rest) (first ++ others)

variable {run : CharRun} {rest pattern : Pattern} {cs : List Char}

theorem matches_nil_iff : Matches [] cs ↔ cs = [] := by
  constructor
  · rintro ⟨⟩
    rfl
  · rintro rfl
    exact .nil

theorem matches_cons_iff :
    Matches (run :: rest) cs ↔
      ∃ first others, cs = first ++ others ∧ run.Admits first ∧ Matches rest others := by
  constructor
  · rintro (_ | ⟨hfirst, hothers⟩)
    exact ⟨_, _, rfl, hfirst, hothers⟩
  · rintro ⟨first, others, rfl, hfirst, hothers⟩
    exact .cons hfirst hothers

theorem matches_singleton_iff : Matches [run] cs ↔ run.Admits cs := by
  simp [matches_cons_iff, matches_nil_iff]

theorem matches_one_cons_iff {accepts : Char → Bool} :
    Matches (.one accepts :: rest) cs ↔
      ∃ c others, cs = c :: others ∧ accepts c = true ∧ Matches rest others := by
  simp only [matches_cons_iff, CharRun.admits_one_iff]
  constructor
  · rintro ⟨_, others, rfl, ⟨c, rfl, hc⟩, hothers⟩
    exact ⟨c, others, rfl, hc, hothers⟩
  · rintro ⟨c, others, rfl, hc, hothers⟩
    exact ⟨[c], others, rfl, ⟨c, rfl, hc⟩, hothers⟩

/-- A mark that may be left out stands in front of the rest or does not. -/
theorem matches_optional_cons_iff {mark : Char} :
    Matches (.optional (· == mark) :: rest) cs ↔
      ∃ others, (cs = others ∨ cs = mark :: others) ∧ Matches rest others := by
  simp only [matches_cons_iff, CharRun.admits_optional_iff, beq_iff_eq]
  constructor
  · rintro ⟨_, others, rfl, rfl | ⟨c, rfl, rfl⟩, hothers⟩
    · exact ⟨others, .inl rfl, hothers⟩
    · exact ⟨others, .inr rfl, hothers⟩
  · rintro ⟨others, rfl | rfl, hothers⟩
    · exact ⟨[], _, rfl, .inl rfl, hothers⟩
    · exact ⟨[mark], others, rfl, .inr ⟨mark, rfl, rfl⟩, hothers⟩

/-- A pattern accepts exactly the texts that its runs make up. -/
theorem accepts_iff : pattern.accepts cs = true ↔ pattern.Matches cs := by
  induction pattern generalizing cs with
  | nil => rw [accepts, List.isEmpty_iff, matches_nil_iff]
  | cons run rest ih => simp only [accepts, CharRun.matchThen_iff, matches_cons_iff, ih]

end Pattern

end AddressIntake

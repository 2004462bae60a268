import AddressIntake.Import.Commit

namespace AddressIntake

section Pieces

variable {α : Type} {size : Nat}

theorem chunksOf_of_ne_nil (hsize : 0 < size) {l : List α} (hne : l ≠ []) :
    chunksOf size l = l.take size :: chunksOf size (l.drop size) := by
  cases l with
  | nil => exact absurd rfl hne
  | cons a rest =>
    obtain ⟨n, rfl⟩ : ∃ n, size = n + 1 := ⟨size - 1, by omega⟩
    rw [chunksOf]
    simp

/-- The chunk with an index holds the elements from the multiple of the size on. -/
theorem getElem?_chunksOf (hsize : 0 < size) (l : List α) (index : Nat) :
    (chunksOf size l)[index]? =
      if index * size < l.length then some ((l.drop (index * size)).take size) else none := by
  induction index generalizing l with
  | zero =>
    by_cases hne : l = []
    · subst hne
      simp [chunksOf]
    · rw [chunksOf_of_ne_nil hsize hne]
      simp [List.length_pos_iff.2 hne]
  | succ index ih =>
    by_cases hne : l = []
    · subst hne
      simp [chunksOf]
    · have hbound : index * size < l.length - size ↔ index * size + size < l.length := by omega
      rw [chunksOf_of_ne_nil hsize hne, List.getElem?_cons_succ, ih, List.drop_drop,
        List.length_drop, Nat.succ_mul, Nat.add_comm size]
      simp only [hbound]

theorem flatten_chunksOf (hsize : 0 < size) (l : List α) : (chunksOf size l).flatten = l := by
  induction hlength : l.length using Nat.strongRecOn generalizing l with
  | ind length ih =>
    by_cases hne : l = []
    · subst hne
      simp [chunksOf]
    · have hpos := List.length_pos_iff.2 hne
      rw [chunksOf_of_ne_nil hsize hne, List.flatten_cons,
        ih _ (by rw [List.length_drop]; omega) (l.drop size) rfl, List.take_append_drop]

end Pieces

namespace CommitJob

/-- The record that the name in an install-at row stands for. Other rows refer to no record. -/
def shipTo? (job : CommitJob) (row : Row) : Option RecordId :=
  if job.kind = .installAt then
    job.lookup.bind (·.resolve? ((row.value? Schema.shipToKey).getD ""))
  else none

/-- The address that a row becomes. -/
def newAddress (job : CommitJob) (row : Row) : NewAddress :=
  ⟨job.project, job.kind, .ofRow row, job.shipTo? row⟩

/-- Whether a row refers to a ship-to address that is not known. -/
def isDangling (job : CommitJob) (row : Row) : Bool :=
  decide (job.kind = .installAt) && (job.shipTo? row).isNone

/-- Whether a row cannot be written: it is not blank, and either its reference is not known or the
store refuses its address. -/
def isBad (job : CommitJob) (refuses : NewAddress → Option String) (row : Row) : Bool :=
  !row.isBlank && (job.isDangling row || (refuses (job.newAddress row)).isSome)

/-- The reason to give up a chunk at a bad row. -/
def abortAt (job : CommitJob) (refuses : NewAddress → Option String) (number : Nat) (row : Row) :
    Abort :=
  if job.isDangling row then
    .unresolved (Validation.unresolved number ((row.value? Schema.shipToKey).getD ""))
  else .store (.rejected ((refuses (job.newAddress row)).getD ""))

/-- The addresses of the rows of a chunk. -/
def chunkAddresses (job : CommitJob) (chunk : List Row) : List NewAddress :=
  (chunk.filter (!·.isBlank)).map job.newAddress

variable (job : CommitJob) (refuses : NewAddress → Option String)

theorem draft_of_isDangling {row : Row} (hdangling : job.isDangling row = true) (number : Nat) :
    job.draft number row = .error (job.abortAt refuses number row) := by
  simp only [isDangling, shipTo?, Bool.and_eq_true, decide_eq_true_eq, Option.isNone_iff_eq_none]
    at hdangling
  obtain ⟨hkind, hnone⟩ := hdangling
  rw [if_pos hkind] at hnone
  simp [draft, abortAt, isDangling, shipTo?, hkind, hnone]

theorem draft_of_not_isDangling {row : Row} (hknown : job.isDangling row = false) (number : Nat) :
    job.draft number row = .ok (job.newAddress row) := by
  by_cases hkind : job.kind = .installAt
  · have hsome : (job.shipTo? row).isSome := by
      simpa [isDangling, hkind, Option.isSome_iff_ne_none] using hknown
    obtain ⟨id, hid⟩ := Option.isSome_iff_exists.1 hsome
    have hresolve : job.lookup.bind (·.resolve? ((row.value? Schema.shipToKey).getD "")) = some id := by
      simpa [shipTo?, hkind] using hid
    simp [draft, newAddress, hid, hkind, hresolve]
  · simp [draft, newAddress, shipTo?, hkind]

theorem drafts_eq (offset : Nat) (chunk : List Row) :
    job.drafts offset chunk = chunk.zipIdx.filterMap fun entry =>
      if entry.1.isBlank then none
      else some (job.draft (Row.number (offset + entry.2)) entry.1) :=
  rfl

theorem drafts_cons (offset : Nat) (row : Row) (chunk : List Row) :
    job.drafts offset (row :: chunk) =
      if row.isBlank then job.drafts (offset + 1) chunk
      else job.draft (Row.number offset) row :: job.drafts (offset + 1) chunk := by
  have hshift : (chunk.zipIdx 1).filterMap (fun entry =>
      if entry.1.isBlank then none
      else some (job.draft (Row.number (offset + entry.2)) entry.1)) =
        job.drafts (offset + 1) chunk := by
    rw [List.zipIdx_succ, List.filterMap_map, drafts_eq]
    congr 1
    funext entry
    simp [Nat.add_assoc, Nat.add_comm 1]
  by_cases hblank : row.isBlank = true
  · rw [drafts_eq, List.zipIdx_cons, List.filterMap_cons_none (by simp [hblank]), hshift,
      if_pos hblank]
  · rw [drafts_eq, List.zipIdx_cons,
      List.filterMap_cons_some (b := job.draft (Row.number offset) row) (by simp [hblank]),
      hshift, if_neg hblank]

/-- Staging passes over a row that is not bad, and keeps its address unless it is blank. -/
theorem stage_drafts_cons_of_not_isBad {row : Row} (hgood : job.isBad refuses row = false)
    (offset : Nat) (chunk : List Row) :
    stage refuses (job.drafts offset (row :: chunk)) =
      (stage refuses (job.drafts (offset + 1) chunk)).map (job.chunkAddresses [row] ++ ·) := by
  by_cases hblank : row.isBlank = true
  · rw [drafts_cons, if_pos hblank]
    cases stage refuses (job.drafts (offset + 1) chunk) <;>
      simp [Except.map, chunkAddresses, hblank]
  · simp only [isBad, hblank, Bool.not_false, Bool.true_and, Bool.or_eq_false_iff,
      Option.isSome_eq_false_iff, Option.isNone_iff_eq_none] at hgood
    rw [drafts_cons, if_neg hblank, draft_of_not_isDangling job hgood.1, stage, hgood.2]
    cases stage refuses (job.drafts (offset + 1) chunk) <;>
      simp [Except.map, chunkAddresses, hblank]

/-- Staging stops at a bad row with the reason that lies in this row. -/
theorem stage_drafts_cons_of_isBad {row : Row} (hbad : job.isBad refuses row = true)
    (offset : Nat) (chunk : List Row) :
    stage refuses (job.drafts offset (row :: chunk)) =
      .error (job.abortAt refuses (Row.number offset) row) := by
  simp only [isBad, Bool.and_eq_true, Bool.not_eq_true', Bool.or_eq_true] at hbad
  obtain ⟨hfilled, hreason⟩ := hbad
  rw [drafts_cons, if_neg (by simp [hfilled])]
  cases hdangling : job.isDangling row with
  | true => rw [draft_of_isDangling job refuses hdangling, stage]
  | false =>
    obtain ⟨reason, hrefused⟩ : ∃ reason, refuses (job.newAddress row) = some reason := by
      simpa [hdangling, Option.isSome_iff_exists] using hreason
    rw [draft_of_not_isDangling job hdangling, stage, hrefused]
    simp [abortAt, hdangling, hrefused]

/-- A chunk without bad rows is staged whole. -/
theorem stage_drafts_of_clean {chunk : List Row} (hclean : chunk.any (job.isBad refuses) = false)
    (offset : Nat) : stage refuses (job.drafts offset chunk) = .ok (job.chunkAddresses chunk) := by
  induction chunk generalizing offset with
  | nil => rfl
  | cons row chunk ih =>
    rw [List.any_cons, Bool.or_eq_false_iff] at hclean
    rw [stage_drafts_cons_of_not_isBad job refuses hclean.1, ih hclean.2]
    simp [Except.map, chunkAddresses, List.filter_cons]
    split <;> simp

/-- A chunk with bad rows has a first one. -/
theorem exists_first_isBad {chunk : List Row} (hbad : chunk.any (job.isBad refuses) = true) :
    ∃ (before : List Row) (row : Row) (after : List Row), chunk = before ++ row :: after ∧
      before.any (job.isBad refuses) = false ∧ job.isBad refuses row = true := by
  obtain ⟨row, hfind⟩ := Option.isSome_iff_exists.1 ((List.find?_isSome (p := job.isBad refuses)).2
    (List.any_eq_true.1 hbad))
  obtain ⟨hrow, before, after, rfl, hbefore⟩ := List.find?_eq_some_iff_append.1 hfind
  exact ⟨before, row, after, rfl, List.any_eq_false.2 (by simpa using hbefore), hrow⟩

/-- A chunk with bad rows is given up at the first of them. -/
theorem stage_drafts_of_bad {before after : List Row} {row : Row}
    (hbefore : before.any (job.isBad refuses) = false) (hbad : job.isBad refuses row = true)
    (offset : Nat) :
    stage refuses (job.drafts offset (before ++ row :: after)) =
      .error (job.abortAt refuses (Row.number (offset + before.length)) row) := by
  induction before generalizing offset with
  | nil => exact stage_drafts_cons_of_isBad job refuses hbad offset after
  | cons first before ih =>
    rw [List.any_cons, Bool.or_eq_false_iff] at hbefore
    rw [List.cons_append, stage_drafts_cons_of_not_isBad job refuses hbefore.1, ih hbefore.2,
      List.length_cons, Except.map, Nat.add_assoc, Nat.add_comm 1]

/-- Only a chunk without bad rows is staged, and then it is staged whole. -/
theorem stage_drafts_eq_ok_iff {chunk : List Row} {offset : Nat} {created : List NewAddress} :
    stage refuses (job.drafts offset chunk) = .ok created ↔
      chunk.any (job.isBad refuses) = false ∧ job.chunkAddresses chunk = created := by
  cases hbad : chunk.any (job.isBad refuses) with
  | false => simp [stage_drafts_of_clean job refuses hbad]
  | true =>
    obtain ⟨before, row, after, rfl, hbefore, hrow⟩ := job.exists_first_isBad refuses hbad
    simp [stage_drafts_of_bad job refuses hbefore hrow]

end CommitJob

end AddressIntake

import AddressIntake.Proofs.Store.Memory

namespace AddressIntake

/-- The positions of a list, chunk by chunk. -/
theorem zipIdx_eq_flatMap_chunksOf {α : Type} {size : Nat} (hsize : 0 < size) (l : List α)
    (start : Nat) :
    l.zipIdx (start * size) =
      ((chunksOf size l).zipIdx start).flatMap fun entry => entry.1.zipIdx (entry.2 * size) := by
  induction hlength : l.length using Nat.strongRecOn generalizing l start with
  | ind length ih =>
    by_cases hne : l = []
    · subst hne
      simp [chunksOf]
    · have hpos := List.length_pos_iff.2 hne
      have hrest := ih _ (by rw [List.length_drop]; omega) (l.drop size) (start + 1) rfl
      rw [chunksOf_of_ne_nil hsize hne, List.zipIdx_cons, List.flatMap_cons, ← hrest]
      by_cases hshort : l.length ≤ size
      · rw [List.drop_eq_nil_of_le hshort, List.take_of_length_le hshort, List.zipIdx_nil,
          List.append_nil]
      · have htake : (l.take size).length = size := by
          rw [List.length_take]
          omega
        calc l.zipIdx (start * size)
            = (l.take size ++ l.drop size).zipIdx (start * size) := by rw [List.take_append_drop]
          _ = (l.take size).zipIdx (start * size) ++ (l.drop size).zipIdx ((start + 1) * size) := by
            rw [List.zipIdx_append, htake, Nat.succ_mul]

theorem div_eq_iff_between {size : Nat} (hsize : 0 < size) (i index : Nat) :
    i / size = index ↔ index * size ≤ i ∧ i < index * size + size := by
  rw [Nat.div_eq_iff hsize, Nat.mul_comm index]
  omega

namespace CommitJob

/-- Whether a row at a position of the chunk with an index is bad. The positions of a chunk are
those with this quotient by the chunk size, blank rows counted. -/
def hasBadRow (job : CommitJob) (refuses : NewAddress → Option String) (rows : List Row)
    (index : Nat) : Bool :=
  rows.zipIdx.any fun entry => entry.2 / job.chunkSize == index && job.isBad refuses entry.1

/-- The rows that are not blank and lie in a chunk without bad rows, in row order. -/
def cleanRows (job : CommitJob) (refuses : NewAddress → Option String) (rows : List Row) :
    List Row :=
  (rows.zipIdx.filter fun entry =>
    !entry.1.isBlank && !job.hasBadRow refuses rows (entry.2 / job.chunkSize)).map Prod.fst

variable (job : CommitJob) (refuses : NewAddress → Option String)

/-- The chunk with an index has a bad row if one of the rows between its ends is bad. -/
theorem hasBadRow_eq_any (hsize : 0 < job.chunkSize) (rows : List Row) (index : Nat) :
    job.hasBadRow refuses rows index =
      ((rows.drop (index * job.chunkSize)).take job.chunkSize).any (job.isBad refuses) := by
  rw [Bool.eq_iff_iff, hasBadRow, List.any_eq_true, List.any_eq_true]
  constructor
  · rintro ⟨⟨row, i⟩, hmem, hrow⟩
    rw [List.mem_zipIdx_iff_getElem?] at hmem
    simp only [Bool.and_eq_true, beq_iff_eq, div_eq_iff_between hsize] at hrow
    obtain ⟨⟨hlo, hhi⟩, hbad⟩ := hrow
    refine ⟨row, List.mem_of_getElem? (i := i - index * job.chunkSize) ?_, hbad⟩
    rw [List.getElem?_take_of_lt (by omega), List.getElem?_drop, ← hmem]
    congr 1
    omega
  · rintro ⟨row, hmem, hbad⟩
    obtain ⟨i, hi⟩ := List.mem_iff_getElem?.1 hmem
    have hlt : i < job.chunkSize := by
      have hbound := (List.getElem?_eq_some_iff.1 hi).1
      rw [List.length_take] at hbound
      omega
    rw [List.getElem?_take_of_lt hlt, List.getElem?_drop] at hi
    refine ⟨(row, index * job.chunkSize + i), List.mem_zipIdx_iff_getElem?.2 hi, ?_⟩
    have hindex := (div_eq_iff_between hsize (index * job.chunkSize + i) index).2 ⟨by omega, by omega⟩
    simp [hindex, hbad]

/-- The rows of a chunk are clean together or not at all. -/
theorem filter_chunk_clean (hsize : 0 < job.chunkSize) {rows chunk : List Row} {index : Nat}
    (hchunk : (chunksOf job.chunkSize rows)[index]? = some chunk) :
    ((chunk.zipIdx (index * job.chunkSize)).filter fun entry =>
      !entry.1.isBlank && !job.hasBadRow refuses rows (entry.2 / job.chunkSize)).map Prod.fst =
      if chunk.any (job.isBad refuses) then [] else chunk.filter (!·.isBlank) := by
  rw [getElem?_chunksOf hsize, Option.ite_none_right_eq_some, Option.some_inj] at hchunk
  obtain ⟨hinside, rfl⟩ := hchunk
  have hbad := job.hasBadRow_eq_any refuses hsize rows index
  generalize hrows : (rows.drop (index * job.chunkSize)).take job.chunkSize = chunk at hbad ⊢
  have hlength : chunk.length ≤ job.chunkSize := by
    rw [← hrows, List.length_take]
    omega
  have hsame : ∀ entry ∈ chunk.zipIdx (index * job.chunkSize),
      entry.2 / job.chunkSize = index := by
    intro entry hmem
    have hlo := List.le_snd_of_mem_zipIdx hmem
    have hhi := List.snd_lt_add_of_mem_zipIdx hmem
    exact (div_eq_iff_between hsize entry.2 index).2 ⟨hlo, by omega⟩
  have hcongr : (chunk.zipIdx (index * job.chunkSize)).filter (fun entry =>
        !entry.1.isBlank && !job.hasBadRow refuses rows (entry.2 / job.chunkSize)) =
      (chunk.zipIdx (index * job.chunkSize)).filter (fun entry =>
        !entry.1.isBlank && !chunk.any (job.isBad refuses)) :=
    List.filter_congr fun entry hmem => by rw [hsame entry hmem, hbad]
  rw [hcongr]
  cases chunk.any (job.isBad refuses) with
  | true => simp
  | false =>
    have hfst := List.filter_map (f := Prod.fst) (l := chunk.zipIdx (index * job.chunkSize))
      (p := fun row : Row => !row.isBlank)
    rw [List.zipIdx_map_fst] at hfst
    simpa [Function.comp_def] using hfst.symm

theorem cleanRows_sublist (rows : List Row) : (job.cleanRows refuses rows).Sublist rows := by
  have hfilter := List.filter_sublist (l := rows.zipIdx) (p := fun entry =>
    !entry.1.isBlank && !job.hasBadRow refuses rows (entry.2 / job.chunkSize))
  have hmap := hfilter.map Prod.fst
  rwa [List.zipIdx_map_fst] at hmap

theorem cleanRows_sublist_filter (rows : List Row) :
    (job.cleanRows refuses rows).Sublist (rows.filter (!·.isBlank)) := by
  have hrows := job.cleanRows_sublist refuses rows
  have hfilled := hrows.filter (!·.isBlank)
  rwa [List.filter_eq_self.2] at hfilled
  intro row hmem
  simp only [cleanRows, List.mem_map, List.mem_filter, Bool.and_eq_true] at hmem
  obtain ⟨entry, ⟨_, hrow, _⟩, rfl⟩ := hmem
  exact hrow

/-- If no row is bad, the clean rows are those that are not blank. -/
theorem cleanRows_eq_filter {rows : List Row}
    (hgood : ∀ row ∈ rows, job.isBad refuses row = false) :
    job.cleanRows refuses rows = rows.filter (!·.isBlank) := by
  have hclean (index : Nat) : job.hasBadRow refuses rows index = false := by
    refine List.any_eq_false.2 fun entry hentry => ?_
    have hrow := hgood entry.1 (List.mem_of_getElem? (List.mem_zipIdx_iff_getElem?.1 hentry))
    simp [hrow]
  have hfst := List.filter_map (f := Prod.fst) (l := rows.zipIdx)
    (p := fun row : Row => !row.isBlank)
  rw [List.zipIdx_map_fst] at hfst
  simp only [cleanRows, hclean, Bool.not_false, Bool.and_true, hfst]
  rfl

/-- The addresses of the clean rows, chunk by chunk. -/
theorem map_newAddress_cleanRows (hsize : 0 < job.chunkSize) (rows : List Row) :
    (job.cleanRows refuses rows).map job.newAddress =
      (chunksOf job.chunkSize rows).flatMap (job.writtenAddresses refuses) := by
  have hpieces := zipIdx_eq_flatMap_chunksOf hsize rows 0
  rw [Nat.zero_mul] at hpieces
  have hchunk (entry : List Row × Nat) (hmem : entry ∈ (chunksOf job.chunkSize rows).zipIdx) :
      (((entry.1.zipIdx (entry.2 * job.chunkSize)).filter fun entry =>
        !entry.1.isBlank && !job.hasBadRow refuses rows (entry.2 / job.chunkSize)).map Prod.fst).map
          job.newAddress = job.writtenAddresses refuses entry.1 := by
    rw [job.filter_chunk_clean refuses hsize (List.mem_zipIdx_iff_getElem?.1 hmem),
      writtenAddresses, apply_ite (List.map job.newAddress)]
    rfl
  have hfst : (chunksOf job.chunkSize rows).flatMap (job.writtenAddresses refuses) =
      (chunksOf job.chunkSize rows).zipIdx.flatMap fun entry => job.writtenAddresses refuses entry.1 := by
    conv => lhs; rw [← List.zipIdx_map_fst 0 (chunksOf job.chunkSize rows), List.flatMap_map]
  rw [cleanRows, hpieces, List.filter_flatMap, List.map_flatMap, List.map_flatMap, hfst,
    List.flatMap_def, List.flatMap_def, List.map_congr_left hchunk]

end CommitJob

end AddressIntake

import AddressIntake.Row

namespace AddressIntake

namespace Text

theorem dropBlankEnd_cons_of_visible {c : Char} (hvisible : isBlankChar c = false)
    (rest : List Char) : dropBlankEnd (c :: rest) = c :: dropBlankEnd rest := by
  rw [dropBlankEnd, dropBlankEnd, List.reverse_cons, List.dropWhile_append]
  cases hrest : rest.reverse.dropWhile isBlankChar with
  | nil => simp [hvisible]
  | cons d others => simp

theorem dropBlankStart_cons_of_visible {c : Char} (hvisible : isBlankChar c = false)
    (rest : List Char) : dropBlankStart (c :: rest) = c :: rest := by
  rw [dropBlankStart, List.dropWhile_cons_of_neg (by simp [hvisible])]

theorem dropBlankStart_dropBlankStart (cs : List Char) :
    dropBlankStart (dropBlankStart cs) = dropBlankStart cs := by
  cases hstart : dropBlankStart cs with
  | nil => rfl
  | cons c rest =>
    exact dropBlankStart_cons_of_visible (not_isBlankChar_of_dropBlankStart_eq_cons hstart) rest

theorem dropBlankEnd_dropBlankEnd (cs : List Char) :
    dropBlankEnd (dropBlankEnd cs) = dropBlankEnd cs := by
  have hreverse := dropBlankStart_dropBlankStart cs.reverse
  simp only [dropBlankStart] at hreverse
  rw [dropBlankEnd, dropBlankEnd, List.reverse_reverse, hreverse]

theorem dropBlankStart_trim (s : String) : dropBlankStart (trim s).toList = (trim s).toList := by
  rw [trim, String.toList_ofList]
  cases hrest : dropBlankStart s.toList with
  | nil => rfl
  | cons c rest =>
    have hvisible := not_isBlankChar_of_dropBlankStart_eq_cons hrest
    rw [dropBlankEnd_cons_of_visible hvisible, dropBlankStart_cons_of_visible hvisible]

theorem dropBlankEnd_trim (s : String) : dropBlankEnd (trim s).toList = (trim s).toList := by
  rw [trim, String.toList_ofList, dropBlankEnd_dropBlankEnd]

theorem trim_trim (s : String) : trim (trim s) = trim s := by
  conv => lhs; rw [trim, dropBlankStart_trim, dropBlankEnd_trim, String.ofList_toList]

/-- A text without white space is trimmed. -/
theorem trim_of_visible {s : String} (hvisible : ∀ c ∈ s.toList, isBlankChar c = false) :
    trim s = s := by
  have hkept (cs : List Char) (hcs : ∀ c ∈ cs, isBlankChar c = false) :
      cs.dropWhile isBlankChar = cs := by
    cases cs with
    | nil => rfl
    | cons c rest => exact dropBlankStart_cons_of_visible (hcs c List.mem_cons_self) rest
  rw [trim, dropBlankStart, hkept _ hvisible, dropBlankEnd,
    hkept _ fun c hc => hvisible c (List.mem_reverse.1 hc), List.reverse_reverse, String.ofList_toList]

/-- In a trimmed text there is something to be seen, unless it is empty. -/
theorem isBlank_eq_isEmpty_of_trimmed {s : String} (htrimmed : trim s = s) :
    isBlank s = s.isEmpty := by
  rw [Bool.eq_iff_iff, ← trim_eq_empty_iff, htrimmed, String.isEmpty_iff]

theorem isBlank_eq_isEmpty_of_mem {s : String} {c : Char} (hmem : c ∈ s.toList)
    (hvisible : isBlankChar c = false) : isBlank s = s.isEmpty := by
  have hblank : isBlank s = false := List.all_eq_false.2 ⟨c, hmem, by simp [hvisible]⟩
  have hempty : s ≠ "" := fun h => by simp [h] at hmem
  rw [hblank, eq_comm, ← Bool.not_eq_true, String.isEmpty_iff]
  exact hempty

theorem isBlank_trim (s : String) : isBlank (trim s) = isBlank s := by
  rw [Bool.eq_iff_iff, ← trim_eq_empty_iff, trim_trim, trim_eq_empty_iff]

theorem mem_of_mem_dropBlankStart {c : Char} {cs : List Char} (hmem : c ∈ dropBlankStart cs) :
    c ∈ cs :=
  (List.dropWhile_sublist _).subset hmem

theorem mem_of_mem_dropBlankEnd {c : Char} {cs : List Char} (hmem : c ∈ dropBlankEnd cs) :
    c ∈ cs :=
  List.mem_reverse.1 ((List.dropWhile_sublist _).subset (List.mem_reverse.1 hmem))

theorem mem_dropBlankEnd_or_blank {c : Char} {cs : List Char} (hmem : c ∈ cs) :
    c ∈ dropBlankEnd cs ∨ isBlankChar c = true := by
  rw [← List.mem_reverse, ← List.takeWhile_append_dropWhile (p := isBlankChar) (l := cs.reverse),
    List.mem_append] at hmem
  rcases hmem with hblank | hkept
  · exact .inr (List.all_eq_true.1 List.all_takeWhile c hblank)
  · exact .inl (List.mem_reverse.2 hkept)

section Words

/-- White space ends one word and starts another. -/
theorem words_append_cons {c : Char} (hblank : isBlankChar c = true) (cs rest : List Char) :
    words (cs ++ c :: rest) = words cs ++ words rest := by
  rw [words, List.splitOnP_append_cons cs rest hblank, List.filter_append, words, words]

variable {blanks : List Char} (hblanks : ∀ c ∈ blanks, isBlankChar c = true)

include hblanks

theorem words_blank_append (rest : List Char) : words (blanks ++ rest) = words rest := by
  induction blanks with
  | nil => rfl
  | cons c blanks ih =>
    have hfirst := words_append_cons (hblanks c List.mem_cons_self) [] (blanks ++ rest)
    rw [List.cons_append, ← List.nil_append (c :: (blanks ++ rest)), hfirst,
      ih fun d hmem => hblanks d (List.mem_cons_of_mem c hmem)]
    rfl

theorem words_append_blank (cs : List Char) : words (cs ++ blanks) = words cs := by
  cases blanks with
  | nil => rw [List.append_nil]
  | cons c blanks =>
    have hrest := words_blank_append (fun d hmem => hblanks d (List.mem_cons_of_mem c hmem)) []
    rw [List.append_nil] at hrest
    rw [words_append_cons (hblanks c List.mem_cons_self), hrest]
    exact List.append_nil _

/-- White space between two texts keeps their words apart, if there is some. -/
theorem words_append_blank_append (hne : blanks ≠ []) (cs rest : List Char) :
    words (cs ++ (blanks ++ rest)) = words cs ++ words rest := by
  obtain ⟨c, others, rfl⟩ := List.exists_cons_of_ne_nil hne
  rw [List.cons_append, words_append_cons (hblanks c List.mem_cons_self),
    words_blank_append fun d hmem => hblanks d (List.mem_cons_of_mem c hmem)]

end Words

theorem words_dropBlankStart (cs : List Char) : words (dropBlankStart cs) = words cs := by
  have hblanks : ∀ c ∈ cs.takeWhile isBlankChar, isBlankChar c = true :=
    List.all_eq_true.1 List.all_takeWhile
  conv => rhs; rw [← List.takeWhile_append_dropWhile (p := isBlankChar) (l := cs)]
  rw [words_blank_append hblanks, dropBlankStart]

theorem words_dropBlankEnd (cs : List Char) : words (dropBlankEnd cs) = words cs := by
  have hblanks : ∀ c ∈ (cs.reverse.takeWhile isBlankChar).reverse, isBlankChar c = true :=
    fun c hc => List.all_eq_true.1 List.all_takeWhile c (List.mem_reverse.1 hc)
  conv => rhs; rw [← List.reverse_reverse cs,
    ← List.takeWhile_append_dropWhile (p := isBlankChar) (l := cs.reverse), List.reverse_append]
  rw [words_append_blank hblanks, dropBlankEnd]

/-- A text has no word exactly if it is blank. -/
theorem words_eq_nil_iff {cs : List Char} : words cs = [] ↔ ∀ c ∈ cs, isBlankChar c = true := by
  induction cs with
  | nil => simp [words]
  | cons c rest ih =>
    rw [List.forall_mem_cons, ← ih]
    cases hc : isBlankChar c with
    | true =>
      rw [← List.nil_append (c :: rest), words_append_cons hc]
      simp [words]
    | false =>
      obtain ⟨piece, pieces, hpieces⟩ :=
        List.exists_cons_of_ne_nil (List.splitOnP_ne_nil isBlankChar rest)
      rw [words, List.splitOnP_cons_eq_if_modifyHead, hpieces]
      simp [hc]

theorem unwords_words_eq_nil_iff {cs : List Char} : unwords (words cs) = [] ↔ words cs = [] := by
  refine ⟨fun hnil => ?_, fun hnone => by rw [hnone]; rfl⟩
  have hne : ∀ word ∈ words cs, word ≠ [] := fun word hword => by
    simpa using (List.mem_filter.1 hword).2
  cases hwords : words cs with
  | nil => rfl
  | cons word others =>
    rw [hwords] at hne hnil
    cases others with
    | nil =>
      rw [unwords, List.intercalate_singleton] at hnil
      exact absurd hnil (hne word List.mem_cons_self)
    | cons second others => simp [unwords, List.intercalate_cons_cons] at hnil

end Text

/-- The value of a cell is trimmed and not blank. -/
theorem Row.trim_value_of_eq_some {row : Row} {key value : String}
    (hvalue : row.value? key = some value) :
    Text.trim value = value ∧ Text.isBlank value = false := by
  cases hcell : FieldMap.get? row key with
  | none => simp [Row.value?, hcell] at hvalue
  | some cell =>
    by_cases hblank : Text.isBlank cell = true
    · simp [Row.value?, hcell, hblank] at hvalue
    · have hsame : Text.trim cell = value := by simpa [Row.value?, hcell, hblank] using hvalue
      rw [← hsame]
      exact ⟨Text.trim_trim cell, by rw [Text.isBlank_trim]; simpa using hblank⟩

end AddressIntake

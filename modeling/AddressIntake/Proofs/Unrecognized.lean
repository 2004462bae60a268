import AddressIntake.Proofs.Naming

namespace AddressIntake

namespace Header

open Text

/-- Whether a header is nothing but a mark, in capital or small letters. -/
def isBareMark (header : String) : Bool :=
  requiredMarks.contains ((trim header).toList.map Char.toLower)

/-- White space, or a character of a mark. -/
def isMarkChar (c : Char) : Bool :=
  isBlankChar c || requiredMarks.flatten.contains c

end Header

namespace Text

/-- A code point without a character is read as the null character. -/
theorem toNat_ofNat_cases (n : Nat) : (Char.ofNat n).toNat = n ∨ (Char.ofNat n).toNat = 0 := by
  by_cases hvalid : n.isValidChar
  · have hchar : Char.ofNat n = Char.ofNatAux n hvalid := dif_pos hvalid
    exact .inl (congrArg Char.toNat hchar)
  · have hnull : Char.ofNat n = '\x00' := dif_neg hvalid
    exact .inr (congrArg Char.toNat hnull)

/-- A small letter is that of ASCII, or it lies where a run of capital letters is moved to. -/
theorem lowerChar_cases (c : Char) :
    lowerChar c = c.toLower ∨ (lowerChar c).toNat = 0 ∨ ∃ run ∈ lowercaseRuns,
      run.1 + run.2.2.2 ≤ (lowerChar c).toNat ∧ (lowerChar c).toNat ≤ run.2.1 + run.2.2.2 := by
  rw [lowerChar]
  split
  · exact .inl rfl
  · next hwide =>
    split
    · next run hrun =>
      have hrange := List.find?_some hrun
      simp only [Bool.and_eq_true, decide_eq_true_eq] at hrange
      rcases toNat_ofNat_cases (c.toNat + run.2.2.2).toNat with hcode | hnone
      · rw [hcode]
        by_cases hnegative : c.toNat + run.2.2.2 ≤ 0
        · exact .inr (.inl (Int.toNat_eq_zero.2 hnegative))
        · exact .inr (.inr ⟨run, List.mem_of_find?_eq_some hrun, by omega, by omega⟩)
      · exact .inr (.inl hnone)
    · rcases toLower_cases c with hsame | hcapital
      · exact .inl hsame.symm
      · exact absurd hwide (by omega)

/-- The code points of white space and of the characters of a mark. -/
def markCodes : List Nat :=
  [0x09, 0x0A, 0x0B, 0x0C, 0x0D, 0x20] ++ wideBlanks ++ Header.requiredMarks.flatten.map Char.toNat

theorem toNat_mem_markCodes {c : Char} (hmark : Header.isMarkChar c = true) :
    c.toNat ∈ markCodes := by
  rw [Header.isMarkChar, Bool.or_eq_true, List.contains_iff_mem] at hmark
  rcases hmark with hblank | hmem
  · refine List.mem_append_left _ ?_
    by_cases hwide : 0x80 ≤ c.toNat
    · exact List.mem_append_right _ (toNat_mem_wideBlanks hblank hwide)
    · simp only [isBlankChar, Bool.or_eq_true, Bool.and_eq_true, decide_eq_true_eq,
        beq_iff_eq] at hblank
      simp only [List.mem_append, List.mem_cons]
      omega
  · exact List.mem_append_right _ (List.mem_map_of_mem hmem)

/-- No capital letter beyond ASCII has white space or a character of a mark as its small letter. -/
theorem lowerChar_eq_toLower {c : Char} (hmark : Header.isMarkChar (lowerChar c) = true) :
    lowerChar c = c.toLower := by
  have hruns : ∀ n : Nat, n ∈ markCodes → n ≠ 0 ∧ ∀ run ∈ lowercaseRuns,
      ¬ (run.1 + run.2.2.2 ≤ (n : Int) ∧ (n : Int) ≤ run.2.1 + run.2.2.2) := by
    decide +kernel
  obtain ⟨hpositive, houtside⟩ := hruns _ (toNat_mem_markCodes hmark)
  rcases lowerChar_cases c with hplain | hzero | ⟨run, hrun, hrange⟩
  · exact hplain
  · exact absurd hzero hpositive
  · exact absurd hrange (houtside run hrun)

theorem hasPlainCase_of_isMarkChar {c : Char} (hmark : Header.isMarkChar c.toLower = true) :
    hasPlainCase c = true := by
  have hascii : Header.requiredMarks.flatten.all (·.toNat < 0x80) = true := by decide
  rw [Header.isMarkChar, Bool.or_eq_true, List.contains_iff_mem, isBlankChar_toLower] at hmark
  rw [hasPlainCase, Bool.or_eq_true, decide_eq_true_eq]
  exact hmark.symm.imp_left fun hmem =>
    (toNat_toLower_lt_iff c).1 (of_decide_eq_true (List.all_eq_true.1 hascii _ hmem))

/-- A character all of whose small letters are white space or characters of a mark has plain case.
The two letters that depend on their neighbours have other small letters. -/
theorem hasPlainCase_of_lowerIn {before after : List Char} {c : Char}
    (hmark : ∀ d ∈ lowerIn before c after, Header.isMarkChar d = true) : hasPlainCase c = true := by
  by_cases hsigma : c = 'Σ'
  · have hsmall : ∃ d ∈ lowerIn before c after, Header.isMarkChar d = false := by
      rw [lowerIn, if_pos (beq_iff_eq.2 hsigma)]
      split <;> exact ⟨_, List.mem_singleton_self _, by decide⟩
    obtain ⟨d, hmem, hother⟩ := hsmall
    exact absurd (hmark d hmem) (by simp [hother])
  by_cases hdotted : c = 'İ'
  · subst hdotted
    exact absurd (hmark '\u0307' (by simp [lowerIn])) (by decide)
  rw [lowerIn, if_neg (by simpa using hsigma), if_neg (by simpa using hdotted),
    List.forall_mem_singleton] at hmark
  rw [lowerChar_eq_toLower hmark] at hmark
  exact hasPlainCase_of_isMarkChar hmark

/-- A text in lower case that is made of white space and of characters of a mark comes from a text
with plain case. -/
theorem hasPlainCase_of_lowerFrom {before cs : List Char}
    (hmark : ∀ d ∈ lowerFrom before cs, Header.isMarkChar d = true) :
    ∀ c ∈ cs, hasPlainCase c = true := by
  induction cs generalizing before with
  | nil => exact List.forall_mem_nil _
  | cons c rest ih =>
    rw [lowerFrom, List.forall_mem_append] at hmark
    exact List.forall_mem_cons.2 ⟨hasPlainCase_of_lowerIn hmark.1, ih hmark.2⟩

end Text

namespace Header

open Text

variable {header : String}

/-- If a mark is dropped, it stands at the end, before white space. -/
theorem dropMark_cases (cs : List Char) :
    dropMark cs = cs ∨ ∃ mark ∈ requiredMarks, dropBlankEnd cs = dropMark cs ++ mark := by
  rw [dropMark]
  split
  · next rest hfound =>
    obtain ⟨mark, hmark, hbefore⟩ := List.exists_of_findSome?_eq_some hfound
    rw [before?] at hbefore
    split at hbefore
    · next hsuffix =>
      obtain ⟨init, hinit⟩ := List.isSuffixOf_iff_suffix.1 hsuffix
      rw [← hinit, List.length_append, Nat.add_sub_cancel, List.take_left,
        Option.some_inj] at hbefore
      exact .inr ⟨mark, hmark, by rw [← hbefore, hinit]⟩
    · cases hbefore
  · exact .inl rfl

/-- Nothing but white space is left of a text only if it is made of white space and of characters of
a mark. -/
theorem isMarkChar_of_blank_dropMark {cs : List Char}
    (hblank : ∀ c ∈ dropMark cs, isBlankChar c = true) : ∀ c ∈ cs, isMarkChar c = true := by
  have hmarkChar {c : Char} (hc : isBlankChar c = true) : isMarkChar c = true := by
    rw [isMarkChar, hc, Bool.true_or]
  rcases dropMark_cases cs with hsame | ⟨mark, hmark, hend⟩
  · rw [hsame] at hblank
    exact fun c hc => hmarkChar (hblank c hc)
  · intro c hc
    rcases mem_dropBlankEnd_or_blank hc with hkept | hc
    · rw [hend, List.mem_append] at hkept
      rcases hkept with hrest | hc
      · exact hmarkChar (hblank c hrest)
      · rw [isMarkChar, Bool.or_eq_true, List.contains_iff_mem]
        exact .inr (List.mem_flatten_of_mem hmark hc)
    · exact hmarkChar hc

theorem normalize_eq_empty_iff_blank_dropMark :
    normalize header = "" ↔
      ∀ c ∈ dropMark (lowercase (trim header)).toList, isBlankChar c = true := by
  rw [normalize, ← String.toList_inj, String.toList_ofList, String.toList_empty,
    unwords_words_eq_nil_iff, words_eq_nil_iff]

/-- A header has an empty normal form exactly if it is blank or nothing but a mark. -/
theorem normalize_eq_empty_iff :
    normalize header = "" ↔ isBlank header = true ∨ isBareMark header = true := by
  rw [normalize_eq_empty_iff_blank_dropMark, ← trim_eq_empty_iff, isBareMark, List.contains_iff_mem,
    lowercase, String.toList_ofList]
  constructor
  · intro hblank
    have hlower := lowerFrom_of_hasPlainCase
      (hasPlainCase_of_lowerFrom (isMarkChar_of_blank_dropMark hblank)) []
    rw [hlower] at hblank
    rcases dropMark_cases ((trim header).toList.map Char.toLower) with hsame | ⟨mark, hmark, hend⟩
    · rw [hsame, List.forall_mem_map] at hblank
      simp only [isBlankChar_toLower] at hblank
      have htrimmed : isBlank (trim header) = true := List.all_eq_true.2 hblank
      exact .inl (trim_eq_empty_iff.2 (isBlank_trim header ▸ htrimmed))
    · -- Without white space at its ends, the trimmed header is the mark.
      have hstart := dropBlankStart_append_mark hmark
        (dropMark ((trim header).toList.map Char.toLower)) []
      rw [List.append_nil, List.append_nil, dropBlankStart_eq_nil_iff.2 (List.all_eq_true.2 hblank),
        ← hend, dropBlankEnd_map_toLower, dropBlankEnd_trim, dropBlankStart_map_toLower,
        dropBlankStart_trim, List.nil_append] at hstart
      exact .inr (hstart ▸ hmark)
  · rintro (hempty | hmark)
    · rw [hempty]
      exact List.forall_mem_nil _
    · rw [lowerFrom_of_hasPlainCase (hasPlainCase_of_map_toLower_mem hmark),
        ← List.nil_append (List.map _ _), dropMark_append hmark]
      exact List.forall_mem_nil _

theorem isEmpty_normalize (header : String) :
    (normalize header).isEmpty = (isBlank header || isBareMark header) := by
  rw [Bool.eq_iff_iff, String.isEmpty_iff, normalize_eq_empty_iff, Bool.or_eq_true]

/-- A mark is seen. -/
theorem isBlank_of_isBareMark (hmark : isBareMark header = true) : isBlank header = false := by
  rw [isBareMark, List.contains_iff_mem] at hmark
  rw [← Bool.not_eq_true, ← trim_eq_empty_iff]
  intro hempty
  rw [hempty] at hmark
  exact absurd hmark (by decide)

end Header

namespace Columns

open Text

/-- Whether a column is reported: it holds no field, and its header is neither blank nor nothing but
a mark. -/
def isReported (header : String) (key : Option String) : Bool :=
  key.isNone && !isBlank header && !Header.isBareMark header

variable (fields : List Field)

/-- One more column is listed as unrecognized, or holds a field, unless its header is ignored. -/
theorem unrecognized_push (columns : Columns) (header : String) :
    (columns.push fields header).unrecognized = columns.unrecognized ++
      if isReported header ((named? fields header).filter (!columns.isMapped ·))
      then [trim header] else [] := by
  rw [push, isReported, named?, Bool.and_assoc, ← Bool.not_or, ← Header.isEmpty_normalize]
  cases (Header.normalize header).isEmpty with
  | true => simp
  | false =>
    split
    · next hfalse => cases hfalse
    · split
      · next hfound => simp [hfound]
      · next hnone => simp [hnone]

theorem unrecognized_ofHeaders (headers : List String) :
    (ofHeaders fields headers).unrecognized =
      ((headers.zip (ofHeaders fields headers).keys).filter fun (header, key) =>
        isReported header key).map (trim ·.1) := by
  induction headers using List.reverseRecOn with
  | nil => rfl
  | append_singleton headers header ih =>
    rw [ofHeaders_append, unrecognized_push, keys_push,
      List.zip_append (length_keys_ofHeaders fields headers).symm, List.filter_append,
      List.map_append, ← ih, List.zip_cons_cons, List.zip_nil_left, List.filter_cons]
    split <;> rfl

/-- Each column that counts holds a field or is listed as unrecognized. -/
theorem mappedCount_add_length_unrecognized_push (columns : Columns) (header : String) :
    (columns.push fields header).mappedCount + (columns.push fields header).unrecognized.length =
      columns.mappedCount + columns.unrecognized.length +
        if (Header.normalize header).isEmpty then 0 else 1 := by
  rw [push]
  split
  · simp [mappedCount]
  · split
    · simp only [mappedCount, List.countP_append, List.countP_singleton, Option.isSome_some,
        if_true]
      omega
    · simp only [mappedCount, List.countP_append, List.countP_singleton, List.length_append,
        List.length_singleton, Option.isSome_none, Bool.false_eq_true, if_false]
      omega

theorem mappedCount_add_length_unrecognized (headers : List String) :
    (ofHeaders fields headers).mappedCount + (ofHeaders fields headers).unrecognized.length +
      headers.countP Header.isBareMark = headers.countP (!isBlank ·) := by
  induction headers using List.reverseRecOn with
  | nil => rfl
  | append_singleton headers header ih =>
    rw [ofHeaders_append, mappedCount_add_length_unrecognized_push, Header.isEmpty_normalize,
      List.countP_append, List.countP_append, List.countP_singleton, List.countP_singleton, ← ih]
    cases hmark : Header.isBareMark header with
    | true =>
      rw [Header.isBlank_of_isBareMark hmark]
      simp only [Bool.or_true, Bool.not_false, if_true]
      omega
    | false =>
      cases isBlank header with
      | true => rfl
      | false =>
        simp only [Bool.or_false, Bool.not_false, Bool.false_eq_true, if_false, if_true]
        omega

/-- Of the columns without a field those are reported whose header has something to be seen besides
a mark, each with its trimmed header and in the order of the file. So every header that is not blank
names the field of its column, is reported, or is nothing but a mark. -/
theorem ofHeaders_reports_ignored_columns (kind : AddressKind) (headers : List String) :
    (ofHeaders (Schema.fields kind) headers).keys.length = headers.length ∧
      (ofHeaders (Schema.fields kind) headers).unrecognized =
        ((headers.zip (ofHeaders (Schema.fields kind) headers).keys).filter fun (header, key) =>
          isReported header key).map (trim ·.1) ∧
      (ofHeaders (Schema.fields kind) headers).mappedCount +
          (ofHeaders (Schema.fields kind) headers).unrecognized.length +
          headers.countP Header.isBareMark =
        headers.countP (!isBlank ·) :=
  ⟨length_keys_ofHeaders _ headers, unrecognized_ofHeaders _ headers,
    mappedCount_add_length_unrecognized _ headers⟩

/-- A header that is nothing but a mark is not blank, yet its column is ignored without notice. -/
theorem ofHeaders_overlooks_a_bare_mark :
    isBlank "*" = false ∧
      ofHeaders (Schema.fields .shipTo) ["*", "State"] = ⟨[none, some "state"], []⟩ ∧
      (ofHeaders (Schema.fields .shipTo) ["*", "State"]).mappedCount +
          (ofHeaders (Schema.fields .shipTo) ["*", "State"]).unrecognized.length ≠
        ["*", "State"].countP (!isBlank ·) := by
  decide +kernel

end Columns

end AddressIntake

namespace AddressIntake.Text

/-- The characters with the Unicode property White_Space. -/
def isBlankChar (c : Char) : Bool :=
  (0x09 ≤ c.toNat && c.toNat ≤ 0x0D) || c.toNat == 0x20 || c.toNat == 0x85 || c.toNat == 0xA0 ||
    c.toNat == 0x1680 || (0x2000 ≤ c.toNat && c.toNat ≤ 0x200A) || c.toNat == 0x2028 ||
    c.toNat == 0x2029 || c.toNat == 0x202F || c.toNat == 0x205F || c.toNat == 0x3000

/-- A text is blank when it holds nothing but white space. -/
def isBlank (s : String) : Bool :=
  s.toList.all isBlankChar

/-- A character list without the white space at its start. -/
def dropBlankStart (cs : List Char) : List Char :=
  cs.dropWhile isBlankChar

/-- A character list without the white space at its end. -/
def dropBlankEnd (cs : List Char) : List Char :=
  (cs.reverse.dropWhile isBlankChar).reverse

/-- A text without the white space at its ends. -/
def trim (s : String) : String :=
  String.ofList (dropBlankEnd (dropBlankStart s.toList))

/-- The maximal runs of characters that are not white space. -/
def words (cs : List Char) : List (List Char) :=
  (cs.splitOnP isBlankChar).filter (!·.isEmpty)

/-- Words with one space between neighbours. -/
def unwords (ws : List (List Char)) : List Char :=
  [' '].intercalate ws

theorem dropBlankStart_eq_nil_iff {cs : List Char} :
    dropBlankStart cs = [] ↔ cs.all isBlankChar = true := by
  induction cs with
  | nil => simp [dropBlankStart]
  | cons c rest ih =>
    unfold dropBlankStart at ih ⊢
    by_cases hc : isBlankChar c = true
    · simp only [List.dropWhile_cons, hc, if_true, List.all_cons, Bool.true_and]
      exact ih
    · simp [hc]

/-- What is left after dropping leading white space starts with a visible character. -/
theorem not_isBlankChar_of_dropBlankStart_eq_cons {cs rest : List Char} {c : Char}
    (hcons : dropBlankStart cs = c :: rest) : isBlankChar c = false := by
  induction cs with
  | nil => cases hcons
  | cons d tail ih =>
    by_cases hd : isBlankChar d = true
    · exact ih (by simpa [dropBlankStart, List.dropWhile_cons, hd] using hcons)
    · have hsame : d :: tail = c :: rest := by
        simpa [dropBlankStart, List.dropWhile_cons, hd] using hcons
      cases hsame
      simpa using hd

theorem dropBlankEnd_eq_nil_iff {cs : List Char} :
    dropBlankEnd cs = [] ↔ cs.all isBlankChar = true := by
  have hstart := @dropBlankStart_eq_nil_iff cs.reverse
  rw [List.all_reverse] at hstart
  rw [dropBlankEnd, List.reverse_eq_nil_iff]
  exact hstart

theorem trim_eq_empty_iff {s : String} : trim s = "" ↔ isBlank s = true := by
  have hlist : trim s = "" ↔ dropBlankEnd (dropBlankStart s.toList) = [] := by
    rw [trim, ← String.toList_inj, String.toList_ofList, String.toList_empty]
  rw [hlist, dropBlankEnd_eq_nil_iff]
  constructor
  · intro hall
    refine dropBlankStart_eq_nil_iff.1 ?_
    cases hrest : dropBlankStart s.toList with
    | nil => rfl
    | cons c rest =>
      have hvisible := not_isBlankChar_of_dropBlankStart_eq_cons hrest
      rw [hrest, List.all_cons, hvisible] at hall
      cases hall
  · intro hblank
    rw [dropBlankStart_eq_nil_iff.2 hblank]
    rfl

end AddressIntake.Text

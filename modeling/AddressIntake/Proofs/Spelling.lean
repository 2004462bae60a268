import AddressIntake.Columns
import AddressIntake.Proofs.Text.Blank

namespace AddressIntake

namespace Text

theorem toLower_cases (c : Char) :
    c.toLower = c ∨
      (0x41 ≤ c.toNat ∧ c.toNat ≤ 0x5A ∧ c.toLower.toNat = c.toNat + 0x20) := by
  by_cases hupper : c.val ≥ 'A'.val ∧ c.val ≤ 'Z'.val
  · have hfirst : 0x41 ≤ c.toNat := UInt32.le_iff_toNat_le.1 hupper.1
    have hlast : c.toNat ≤ 0x5A := UInt32.le_iff_toNat_le.1 hupper.2
    have hlower : c.toLower.val = c.val + 0x20 := congrArg Char.val (dif_pos hupper)
    refine .inr ⟨hfirst, hlast, ?_⟩
    have hbound : c.val.toNat + 0x20 < 2 ^ 32 := by
      have hvalue : c.val.toNat ≤ 0x5A := hlast
      omega
    rw [Char.toNat, hlower, UInt32.toNat_add]
    exact Nat.mod_eq_of_lt hbound
  · exact .inl (dif_neg hupper)

/-- A character whose small letter is that of ASCII: it is of ASCII itself, or white space. -/
def hasPlainCase (c : Char) : Bool :=
  c.toNat < 0x80 || isBlankChar c

theorem isBlankChar_toLower (c : Char) : isBlankChar c.toLower = isBlankChar c := by
  obtain hsame | ⟨hfirst, hlast, hlower⟩ := toLower_cases c
  · rw [hsame]
  · have hvisible (d : Char) (hlow : 0x41 ≤ d.toNat) (hhigh : d.toNat ≤ 0x7A) :
        isBlankChar d = false := by
      simp only [isBlankChar, Bool.or_eq_false_iff, Bool.and_eq_false_iff, decide_eq_false_iff_not,
        beq_eq_false_iff_ne]
      omega
    rw [hvisible c hfirst (by omega), hvisible c.toLower (by omega) (by omega)]

theorem toLower_of_isBlankChar {c : Char} (hblank : isBlankChar c = true) : c.toLower = c := by
  obtain hsame | ⟨hfirst, hlast, _⟩ := toLower_cases c
  · exact hsame
  · simp only [isBlankChar, Bool.or_eq_true, Bool.and_eq_true, decide_eq_true_eq, beq_iff_eq] at hblank
    omega

theorem map_toLower_of_blank {blanks : List Char} (hblanks : ∀ c ∈ blanks, isBlankChar c = true) :
    blanks.map Char.toLower = blanks :=
  (List.map_congr_left fun c hc => toLower_of_isBlankChar (hblanks c hc)).trans (List.map_id blanks)

theorem toNat_toLower_lt_iff (c : Char) : c.toLower.toNat < 0x80 ↔ c.toNat < 0x80 := by
  obtain hsame | ⟨_, hlast, hlower⟩ := toLower_cases c
  · rw [hsame]
  · omega

/-- The code points of white space beyond ASCII. -/
def wideBlanks : List Nat := [0x85, 0xA0, 0x1680, 0x2000, 0x2001, 0x2002, 0x2003, 0x2004, 0x2005,
  0x2006, 0x2007, 0x2008, 0x2009, 0x200A, 0x2028, 0x2029, 0x202F, 0x205F, 0x3000]

theorem toNat_mem_wideBlanks {c : Char} (hblank : isBlankChar c = true) (hwide : 0x80 ≤ c.toNat) :
    c.toNat ∈ wideBlanks := by
  simp only [isBlankChar, Bool.or_eq_true, Bool.and_eq_true, decide_eq_true_eq, beq_iff_eq] at hblank
  simp only [wideBlanks, List.mem_cons, List.not_mem_nil, or_false]
  omega

/-- White space has no small letters. -/
theorem lowerChar_of_isBlankChar {c : Char} (hblank : isBlankChar c = true) : lowerChar c = c := by
  have hruns : ∀ n ∈ wideBlanks, (lowercaseRuns.find? fun run =>
      run.1 ≤ n && n ≤ run.2.1 && (n - run.1) % run.2.2.1 == 0) = none := by decide +kernel
  rw [lowerChar]
  split
  · exact toLower_of_isBlankChar hblank
  · next hwide => rw [hruns _ (toNat_mem_wideBlanks hblank (by simpa using hwide))]

theorem lowerIn_of_hasPlainCase {c : Char} (hplain : hasPlainCase c = true)
    (before after : List Char) : lowerIn before c after = [c.toLower] := by
  have hsigma : c ≠ 'Σ' := fun hsame => by
    rw [hsame] at hplain
    exact absurd hplain (by decide)
  have hdotted : c ≠ 'İ' := fun hsame => by
    rw [hsame] at hplain
    exact absurd hplain (by decide)
  have hlower : lowerChar c = c.toLower := by
    rcases Bool.or_eq_true_iff.1 hplain with hascii | hblank
    · rw [lowerChar, if_pos (by simpa using hascii)]
    · rw [lowerChar_of_isBlankChar hblank, toLower_of_isBlankChar hblank]
  rw [lowerIn, if_neg (by simpa using hsigma), if_neg (by simpa using hdotted), hlower]

theorem lowerFrom_of_hasPlainCase {cs : List Char} (hplain : ∀ c ∈ cs, hasPlainCase c = true)
    (before : List Char) : lowerFrom before cs = cs.map Char.toLower := by
  induction cs generalizing before with
  | nil => rfl
  | cons c rest ih =>
    rw [lowerFrom, lowerIn_of_hasPlainCase (hplain c List.mem_cons_self),
      ih fun d hmem => hplain d (List.mem_cons_of_mem c hmem), List.map_cons, List.singleton_append]

theorem dropBlankStart_map_toLower (cs : List Char) :
    dropBlankStart (cs.map Char.toLower) = (dropBlankStart cs).map Char.toLower := by
  have hblank : isBlankChar ∘ Char.toLower = isBlankChar := funext isBlankChar_toLower
  rw [dropBlankStart, List.dropWhile_map, hblank, dropBlankStart]

theorem dropBlankEnd_map_toLower (cs : List Char) :
    dropBlankEnd (cs.map Char.toLower) = (dropBlankEnd cs).map Char.toLower := by
  have hstart := dropBlankStart_map_toLower cs.reverse
  rw [dropBlankStart, dropBlankStart] at hstart
  rw [dropBlankEnd, ← List.map_reverse, hstart, ← List.map_reverse, dropBlankEnd]

/-- A text of characters with plain case can be put in lower case before it is trimmed. -/
theorem toList_lowercase_trim {s : String} (hplain : ∀ c ∈ s.toList, hasPlainCase c = true) :
    (lowercase (trim s)).toList =
      dropBlankEnd (dropBlankStart (s.toList.map Char.toLower)) := by
  have hkept : ∀ c ∈ dropBlankEnd (dropBlankStart s.toList), c ∈ s.toList := fun c hc =>
    mem_of_mem_dropBlankStart (mem_of_mem_dropBlankEnd hc)
  rw [lowercase, trim, String.toList_ofList, String.toList_ofList,
    lowerFrom_of_hasPlainCase fun c hc => hplain c (hkept c hc), dropBlankStart_map_toLower,
    dropBlankEnd_map_toLower]

end Text

namespace Header

open Text

theorem before?_append (final cs : List Char) : before? final (cs ++ final) = some cs := by
  rw [before?, if_pos (List.isSuffixOf_iff_suffix.2 (List.suffix_append _ _)), List.length_append,
    Nat.add_sub_cancel, List.take_left]

/-- A header that holds neither a star nor a closing parenthesis has no mark. -/
theorem dropMark_of_not_mem {cs : List Char} (hstar : '*' ∉ cs) (hparen : ')' ∉ cs) :
    dropMark cs = cs := by
  have hnone (mark : List Char) (c : Char) (hlast : c ∈ mark) (hc : c ∉ cs) :
      before? mark (dropBlankEnd cs) = none := by
    rw [before?, if_neg]
    intro hsuffix
    exact hc (mem_of_mem_dropBlankEnd ((List.isSuffixOf_iff_suffix.1 hsuffix).subset hlast))
  rw [dropMark, requiredMarks, List.findSome?_cons, hnone ['*'] '*' (by simp) hstar,
    List.findSome?_cons, hnone "(required)".toList ')' (by decide) hparen]
  rfl

/-- A mark starts and ends with a character that is seen. -/
theorem exists_of_mem_requiredMarks {mark : List Char} (hmark : mark ∈ requiredMarks) :
    (∃ c rest, mark = c :: rest ∧ isBlankChar c = false) ∧
      ∃ init c, mark = init ++ [c] ∧ isBlankChar c = false := by
  simp only [requiredMarks, List.mem_cons, List.not_mem_nil, or_false] at hmark
  rcases hmark with rfl | rfl
  · exact ⟨⟨'*', [], rfl, rfl⟩, [], '*', rfl, rfl⟩
  · exact ⟨⟨'(', "required)".toList, rfl, rfl⟩, "(required".toList, ')', rfl, rfl⟩

/-- White space after a mark is dropped. -/
theorem dropBlankEnd_append_mark {mark : List Char} (hmark : mark ∈ requiredMarks)
    {blanks : List Char} (hblanks : ∀ c ∈ blanks, isBlankChar c = true) (cs : List Char) :
    dropBlankEnd (cs ++ mark ++ blanks) = cs ++ mark := by
  obtain ⟨_, init, c, rfl, hvisible⟩ := exists_of_mem_requiredMarks hmark
  have hend : ∀ d ∈ blanks.reverse, isBlankChar d = true := fun d hd =>
    hblanks d (List.mem_reverse.1 hd)
  rw [dropBlankEnd, List.reverse_append, List.dropWhile_append_of_pos hend, ← List.append_assoc,
    List.reverse_append, List.reverse_singleton, List.singleton_append,
    List.dropWhile_cons_of_neg (by simp [hvisible]), List.reverse_cons, List.reverse_reverse]

theorem dropBlankStart_append_mark {mark : List Char} (hmark : mark ∈ requiredMarks)
    (cs rest : List Char) :
    dropBlankStart (cs ++ mark ++ rest) = dropBlankStart cs ++ mark ++ rest := by
  obtain ⟨⟨c, others, rfl, hvisible⟩, _⟩ := exists_of_mem_requiredMarks hmark
  rw [List.append_assoc, List.cons_append, dropBlankStart, List.dropWhile_append, dropBlankStart]
  split
  · next hempty =>
    rw [List.isEmpty_iff.1 hempty, List.dropWhile_cons_of_neg (by simp [hvisible])]
    rfl
  · rw [List.append_assoc, List.cons_append]

/-- The mark at the end of a header is dropped. -/
theorem dropMark_append {mark : List Char} (hmark : mark ∈ requiredMarks) (cs : List Char) :
    dropMark (cs ++ mark) = cs := by
  have hend := dropBlankEnd_append_mark hmark (List.forall_mem_nil _) cs
  rw [List.append_nil] at hend
  have hfirst : before? mark (cs ++ mark) = some cs := before?_append mark cs
  rw [dropMark, hend]
  simp only [requiredMarks, List.mem_cons, List.not_mem_nil, or_false] at hmark
  rcases hmark with rfl | rfl
  · rw [requiredMarks, List.findSome?_cons, hfirst]
  · have hother : before? ['*'] (cs ++ "(required)".toList) = none := by
      rw [before?, if_neg]
      intro hsuffix
      obtain ⟨before, hbefore⟩ := List.isSuffixOf_iff_suffix.1 hsuffix
      have hlast := congrArg List.getLast? hbefore
      simp at hlast
    rw [requiredMarks, List.findSome?_cons, hother, List.findSome?_cons, hfirst]

/-- A text in other words of ASCII letters and with other white space: each letter is a capital or a
small one, and each space is some white space. -/
inductive Respelled : List Char → List Char → Prop where
  | nil : Respelled [] []
  | letter {c d : Char} {text body : List Char} (hcase : d.toLower = c.toLower)
      (hrest : Respelled text body) : Respelled (c :: text) (d :: body)
  | gap {blanks text body : List Char} (hne : blanks ≠ [])
      (hblanks : ∀ c ∈ blanks, isBlankChar c = true) (hrest : Respelled text body) :
      Respelled (' ' :: text) (blanks ++ body)

/-- The marks that a column of a required field may have, in capital or small letters. -/
inductive IsMark (mark : List Char) : Prop where
  | star (hmark : mark = ['*'])
  | word (hmark : mark.map Char.toLower = "(required)".toList)

/-- A spelling of a text: white space around it, and a mark at the end or none. -/
inductive Spells (text : List Char) : List Char → Prop where
  | plain {left body right : List Char} (hleft : ∀ c ∈ left, isBlankChar c = true)
      (hbody : Respelled text body) (hright : ∀ c ∈ right, isBlankChar c = true) :
      Spells text (left ++ body ++ right)
  | marked {left body gap mark right : List Char} (hleft : ∀ c ∈ left, isBlankChar c = true)
      (hbody : Respelled text body) (hgap : ∀ c ∈ gap, isBlankChar c = true) (hmark : IsMark mark)
      (hright : ∀ c ∈ right, isBlankChar c = true) :
      Spells text (left ++ body ++ gap ++ mark ++ right)

/-- A character of a text whose spellings are told apart from the marks: it is of ASCII, and no mark
ends with it. -/
def isNameChar (c : Char) : Bool :=
  c.toNat < 0x80 && c.toLower != '*' && c.toLower != ')'

namespace Respelled

variable {text body : List Char}

theorem refl (text : List Char) : Respelled text text := by
  induction text with
  | nil => exact .nil
  | cons c text ih => exact .letter rfl ih

/-- A character of a spelling is white space or a letter of the text. -/
theorem blank_or_exists (hbody : Respelled text body) :
    ∀ d ∈ body, isBlankChar d = true ∨ ∃ c ∈ text, d.toLower = c.toLower := by
  intro e he
  induction hbody with
  | nil => cases he
  | @letter c d text body hcase _ ih =>
    rcases List.mem_cons.1 he with rfl | hrest
    · exact .inr ⟨c, List.mem_cons_self, hcase⟩
    · exact (ih hrest).imp_right fun ⟨c', hc', hsame⟩ => ⟨c', List.mem_cons_of_mem c hc', hsame⟩
  | gap _ hblanks _ ih =>
    rcases List.mem_append.1 he with hblank | hrest
    · exact .inl (hblanks e hblank)
    · exact (ih hrest).imp_right fun ⟨c', hc', hsame⟩ => ⟨c', List.mem_cons_of_mem _ hc', hsame⟩

/-- A spelling has the words of the text, also after other characters. -/
theorem words_map_toLower_append (hbody : Respelled text body) (before : List Char) :
    words (before ++ body.map Char.toLower) = words (before ++ text.map Char.toLower) := by
  -- The characters before grow by one letter at a time; a gap ends their last word.
  induction hbody generalizing before with
  | nil => rfl
  | @letter c d text body hcase _ ih =>
    rw [List.map_cons, List.map_cons, hcase, List.append_cons before _ (body.map _),
      List.append_cons before _ (text.map _)]
    exact ih (before ++ [c.toLower])
  | @gap blanks text body hne hblanks _ ih =>
    have hrest : words (body.map Char.toLower) = words (text.map Char.toLower) := ih []
    rw [List.map_append, map_toLower_of_blank hblanks,
      words_append_blank_append hblanks hne, hrest, List.map_cons]
    exact (words_append_cons (by decide) before _).symm

theorem words_map_toLower (hbody : Respelled text body) :
    words (body.map Char.toLower) = words (text.map Char.toLower) :=
  hbody.words_map_toLower_append []

end Respelled

theorem toLower_ne_of_isBlankChar {c : Char} (hblank : isBlankChar c = true) :
    c.toLower ≠ '*' ∧ c.toLower ≠ ')' := by
  rw [toLower_of_isBlankChar hblank]
  constructor <;>
  · rintro rfl
    exact absurd hblank (by decide)

theorem IsMark.map_toLower_mem {mark : List Char} (hmark : IsMark mark) :
    mark.map Char.toLower ∈ requiredMarks := by
  rcases hmark with rfl | hword
  · exact List.mem_cons_self
  · rw [hword]
    exact List.mem_cons_of_mem _ List.mem_cons_self

theorem hasPlainCase_of_map_toLower_mem {mark : List Char}
    (hmark : mark.map Char.toLower ∈ requiredMarks) : ∀ c ∈ mark, hasPlainCase c = true := by
  intro c hc
  have hascii : (requiredMarks.all fun mark => mark.all (·.toNat < 0x80)) = true := by decide
  have hlower := List.all_eq_true.1 (List.all_eq_true.1 hascii _ hmark) c.toLower
    (List.mem_map_of_mem hc)
  rw [hasPlainCase, Bool.or_eq_true, decide_eq_true_eq]
  exact .inl ((toNat_toLower_lt_iff c).1 (of_decide_eq_true hlower))

section Spelling

variable {text : List Char} (hname : ∀ c ∈ text, isNameChar c = true)

include hname

theorem Respelled.hasPlainCase {body : List Char} (hbody : Respelled text body) :
    ∀ d ∈ body, Text.hasPlainCase d = true := by
  intro d hd
  rw [Text.hasPlainCase, Bool.or_eq_true, decide_eq_true_eq]
  obtain hblank | ⟨c, hc, hcase⟩ := hbody.blank_or_exists d hd
  · exact .inr hblank
  · have hascii := hname c hc
    rw [isNameChar, Bool.and_eq_true, Bool.and_eq_true, decide_eq_true_eq] at hascii
    refine .inl ((toNat_toLower_lt_iff d).1 ?_)
    rw [hcase]
    exact (toNat_toLower_lt_iff c).2 hascii.1.1

/-- No mark ends with a character of a spelling of the text. -/
theorem Respelled.toLower_ne {body : List Char} (hbody : Respelled text body) :
    ∀ d ∈ body, d.toLower ≠ '*' ∧ d.toLower ≠ ')' := by
  intro d hd
  obtain hblank | ⟨c, hc, hcase⟩ := hbody.blank_or_exists d hd
  · exact toLower_ne_of_isBlankChar hblank
  · have hletter := hname c hc
    rw [isNameChar, Bool.and_eq_true, Bool.and_eq_true, bne_iff_ne, bne_iff_ne] at hletter
    rw [hcase]
    exact ⟨hletter.1.2, hletter.2⟩

theorem Spells.hasPlainCase {header : List Char} (hspells : Spells text header) :
    ∀ c ∈ header, Text.hasPlainCase c = true := by
  have hblank {blanks : List Char} (hblanks : ∀ c ∈ blanks, isBlankChar c = true) :
      ∀ c ∈ blanks, Text.hasPlainCase c = true := fun c hc => by
    rw [Text.hasPlainCase, hblanks c hc, Bool.or_true]
  cases hspells with
  | plain hleft hbody hright =>
    simp only [List.forall_mem_append]
    exact ⟨⟨hblank hleft, hbody.hasPlainCase hname⟩, hblank hright⟩
  | marked hleft hbody hgap hmark hright =>
    simp only [List.forall_mem_append]
    exact ⟨⟨⟨⟨hblank hleft, hbody.hasPlainCase hname⟩, hblank hgap⟩,
      hasPlainCase_of_map_toLower_mem hmark.map_toLower_mem⟩, hblank hright⟩

/-- Trimmed, in small letters and without its mark, a spelling has the words of the text. -/
theorem Spells.words_dropMark {header : List Char} (hspells : Spells text header) :
    words (dropMark (dropBlankEnd (dropBlankStart (header.map Char.toLower)))) =
      words (text.map Char.toLower) := by
  cases hspells with
  | @plain left body right hleft hbody hright =>
    have hchars : ∀ d ∈ (left ++ body ++ right).map Char.toLower, d ≠ '*' ∧ d ≠ ')' := by
      simp only [List.forall_mem_map, List.forall_mem_append]
      exact ⟨⟨fun c hc => toLower_ne_of_isBlankChar (hleft c hc), hbody.toLower_ne hname⟩,
        fun c hc => toLower_ne_of_isBlankChar (hright c hc)⟩
    rw [dropMark_of_not_mem
        (fun hmem => (hchars _ (mem_of_mem_dropBlankStart (mem_of_mem_dropBlankEnd hmem))).1 rfl)
        (fun hmem => (hchars _ (mem_of_mem_dropBlankStart (mem_of_mem_dropBlankEnd hmem))).2 rfl),
      words_dropBlankEnd, words_dropBlankStart, List.map_append, List.map_append,
      map_toLower_of_blank hleft, map_toLower_of_blank hright, words_append_blank hright,
      words_blank_append hleft, hbody.words_map_toLower]
  | @marked left body gap mark right hleft hbody hgap hmark hright =>
    have hmem := hmark.map_toLower_mem
    simp only [List.map_append, map_toLower_of_blank hleft, map_toLower_of_blank hgap,
      map_toLower_of_blank hright]
    rw [dropBlankStart_append_mark hmem, dropBlankEnd_append_mark hmem hright, dropMark_append hmem,
      words_dropBlankStart, words_append_blank hgap, words_blank_append hleft, hbody.words_map_toLower]

/-- Every spelling of a text has the normal form of the text. -/
theorem normalize_of_spells {header : String} (hspells : Spells text header.toList) :
    normalize header = String.ofList (unwords (words (text.map Char.toLower))) := by
  rw [normalize, toList_lowercase_trim (hspells.hasPlainCase hname), hspells.words_dropMark hname]

end Spelling

theorem Spells.refl (text : List Char) : Spells text text := by
  have hplain : Spells text ([] ++ text ++ []) :=
    .plain (List.forall_mem_nil _) (.refl text) (List.forall_mem_nil _)
  rwa [List.nil_append, List.append_nil] at hplain

theorem normalize_eq_of_spells {text header : String} (hname : text.toList.all isNameChar = true)
    (hspells : Spells text.toList header.toList) : normalize header = normalize text := by
  have hchars := List.all_eq_true.1 hname
  rw [normalize_of_spells hchars hspells, normalize_of_spells hchars (.refl text.toList)]

end Header

end AddressIntake

import AddressIntake.FormatRule
import AddressIntake.Proofs.Pattern
import AddressIntake.Proofs.Text.Blank
import Mathlib.Data.List.Basic

namespace AddressIntake

namespace FormatRule

open Text

/-- A letter of ASCII. -/
def IsLetter (c : Char) : Prop :=
  ('A' ≤ c ∧ c ≤ 'Z') ∨ ('a' ≤ c ∧ c ≤ 'z')

/-- A digit of ASCII. -/
def IsDigit (c : Char) : Prop :=
  '0' ≤ c ∧ c ≤ '9'

/-- A text between `least` and `most` characters of a class, of which the first and the last one are
of classes of their own. -/
structure IsFramed (least most : Nat) (first inner last : Char → Prop) (cs : List Char) : Prop where
  least_le : least ≤ cs.length
  le_most : cs.length ≤ most
  first : ∀ c, cs.head? = some c → first c
  inner : ∀ c ∈ cs, inner c
  last : ∀ c, cs.getLast? = some c → last c

/-- A text with one `@`, and with letters after the last dot behind it. -/
structure IsEmail (cs : List Char) : Prop where
  visible : ∀ c ∈ cs, isBlankChar c = false
  count_at : cs.count '@' = 1
  parts : ∃ user host domain, cs = user ++ '@' :: (host ++ '.' :: domain) ∧ user ≠ [] ∧ host ≠ [] ∧
    '.' ∉ domain ∧ 2 ≤ domain.length ∧ ∀ c ∈ domain, IsLetter c

/-- Nine digits, the first two of which a hyphen may part from the others. -/
def IsEin (digit : Char → Prop) (cs : List Char) : Prop :=
  ∃ office serial, (cs = office ++ serial ∨ cs = office ++ '-' :: serial) ∧ office.length = 2 ∧
    serial.length = 7 ∧ ∀ c ∈ office ++ serial, digit c

/-- The texts of the form that a rule asks for. -/
def HasForm : FormatRule → List Char → Prop
  | postalCode, cs =>
    IsFramed 3 10 (fun c => IsLetter c ∨ IsDigit c)
      (fun c => IsLetter c ∨ IsDigit c ∨ c ∈ [' ', '-']) (fun c => IsLetter c ∨ IsDigit c) cs
  | phone, cs => ∃ number, (cs = number ∨ cs = '+' :: number) ∧
    IsFramed 7 20 (fun c => IsDigit c ∨ c = '(')
      (fun c => IsDigit c ∨ c ∈ [' ', '(', ')', '.', '-']) IsDigit number
  | email, cs => IsEmail cs
  | taxId, cs =>
    IsFramed 5 20 (fun c => IsLetter c ∨ IsDigit c)
      (fun c => IsLetter c ∨ IsDigit c ∨ c ∈ ['-', '.', '/', ' '])
      (fun c => IsLetter c ∨ IsDigit c) cs
  | vatNumber, cs => (4 ≤ cs.length ∧ cs.length ≤ 16) ∧ (∀ c ∈ cs.take 2, IsLetter c) ∧
    ∀ c ∈ cs.drop 2, IsLetter c ∨ IsDigit c ∨ c ∈ ['+', '*', '.', ' ']
  | ein, cs => IsEin (isDecimalDigit · = true) cs

theorem isAlpha_iff {c : Char} : c.isAlpha = true ↔ IsLetter c := by
  have halpha : c.isAlpha =
      (decide ('A' ≤ c ∧ c ≤ 'Z') || (decide ('a' ≤ c) && decide (c ≤ 'z'))) := rfl
  rw [halpha, Bool.or_eq_true, Bool.and_eq_true, decide_eq_true_eq, decide_eq_true_eq,
    decide_eq_true_eq, IsLetter]

theorem isAsciiDigit_iff_isDigit {c : Char} : isAsciiDigit c = true ↔ IsDigit c := by
  rw [isAsciiDigit, Bool.and_eq_true, decide_eq_true_eq, decide_eq_true_eq, IsDigit]

theorem isAlnum_iff {c : Char} : isAlnum c = true ↔ IsLetter c ∨ IsDigit c := by
  rw [isAlnum, Bool.or_eq_true, isAlpha_iff, isAsciiDigit_iff_isDigit]

theorem isOneOf_iff {marks : String} {c : Char} : isOneOf marks c = true ↔ c ∈ marks.toList := by
  rw [isOneOf, List.contains_iff_mem]

section Framed

variable {least most : Nat}

theorem isFramed_cons_append_iff {first inner last : Char → Prop} {c d : Char}
    {between : List Char} :
    IsFramed least most first inner last (c :: (between ++ [d])) ↔
      (least ≤ between.length + 2 ∧ between.length + 2 ≤ most) ∧ first c ∧ last d ∧
        ∀ e ∈ c :: (between ++ [d]), inner e := by
  have hlength : (c :: (between ++ [d])).length = between.length + 2 := by simp
  have hlast : (c :: (between ++ [d])).getLast? = some d :=
    List.getLast?_concat (l := c :: between)
  constructor
  · rintro ⟨hleast, hmost, hc, hinner, hd⟩
    rw [hlength] at hleast hmost
    exact ⟨⟨hleast, hmost⟩, hc c rfl, hd d hlast, hinner⟩
  · rintro ⟨⟨hleast, hmost⟩, hc, hd, hinner⟩
    refine ⟨hlength ▸ hleast, hlength ▸ hmost, fun e he => ?_, hinner, fun e he => ?_⟩
    · rwa [← Option.some.inj he]
    · rwa [← Option.some.inj (hlast.symm.trans he)]

/-- A framed text of two characters or more has two ends. -/
theorem IsFramed.exists_eq {first inner last : Char → Prop} {cs : List Char}
    (hframed : IsFramed least most first inner last cs) (htwo : 2 ≤ least) :
    ∃ c between d, cs = c :: (between ++ [d]) := by
  have hlength := Nat.le_trans htwo hframed.least_le
  match cs with
  | [] | [_] => exact absurd hlength (by simp)
  | c :: d :: rest =>
    exact ⟨c, (d :: rest).dropLast, (d :: rest).getLast (List.cons_ne_nil d rest),
      by rw [List.dropLast_append_getLast]⟩

/-- A character, a run of the characters between, and one more character make up a framed text, if
the ends may also stand between. -/
theorem matches_framed_iff {first inner last : Char → Bool} {cs : List Char}
    (hfirst : ∀ c, first c = true → inner c = true) (hlast : ∀ c, last c = true → inner c = true) :
    Pattern.Matches [.one first, ⟨inner, least, some most⟩, .one last] cs ↔
      IsFramed (least + 2) (most + 2) (first · = true) (inner · = true) (last · = true) cs := by
  rw [Pattern.matches_one_cons_iff]
  simp only [Pattern.matches_cons_iff, Pattern.matches_nil_iff, CharRun.admits_one_iff]
  constructor
  · rintro ⟨c, _, rfl, hc, between, _, rfl, hbetween, _, _, rfl, ⟨d, rfl, hd⟩, rfl⟩
    have hbounds : least ≤ between.length ∧ between.length ≤ most :=
      ⟨hbetween.least_le, hbetween.le_most most rfl⟩
    refine isFramed_cons_append_iff.2 ⟨by omega, hc, hd, ?_⟩
    rw [List.forall_mem_cons, List.forall_mem_append, List.forall_mem_singleton]
    exact ⟨hfirst c hc, hbetween.accepts, hlast d hd⟩
  · intro hframed
    obtain ⟨c, between, d, rfl⟩ := hframed.exists_eq (by omega)
    obtain ⟨hbounds, hc, hd, hinner⟩ := isFramed_cons_append_iff.1 hframed
    have hbetween : CharRun.Admits ⟨inner, least, some most⟩ between := by
      refine ⟨fun e he => hinner e (by simp [he]), Nat.le_of_add_le_add_right hbounds.1, ?_⟩
      intro limit hlimit
      rw [← Option.some.inj hlimit]
      exact Nat.le_of_add_le_add_right hbounds.2
    exact ⟨c, _, rfl, hc, between, [d], rfl, hbetween, [d], [], rfl, ⟨d, rfl, hd⟩, rfl⟩

end Framed

section Forms

variable {cs : List Char}

theorem matches_postalCode_iff : postalCode.pattern.Matches cs ↔ postalCode.HasForm cs := by
  rw [pattern, matches_framed_iff (by simp +contextual) (by simp +contextual), HasForm]
  simp only [Bool.or_eq_true, isAlnum_iff, isOneOf_iff, or_assoc]
  rfl

theorem matches_phone_iff : phone.pattern.Matches cs ↔ phone.HasForm cs := by
  rw [pattern, Pattern.matches_optional_cons_iff, HasForm]
  refine exists_congr fun number => and_congr_right fun _ => ?_
  rw [matches_framed_iff (by simp [isOneOf]; grind) (by simp +contextual)]
  simp only [Bool.or_eq_true, isAsciiDigit_iff_isDigit, isOneOf_iff, beq_iff_eq]
  rfl

theorem matches_taxId_iff : taxId.pattern.Matches cs ↔ taxId.HasForm cs := by
  rw [pattern, matches_framed_iff (by simp +contextual) (by simp +contextual), HasForm]
  simp only [Bool.or_eq_true, isAlnum_iff, isOneOf_iff, or_assoc]
  rfl

theorem matches_vatNumber_iff : vatNumber.pattern.Matches cs ↔ vatNumber.HasForm cs := by
  rw [pattern, Pattern.matches_cons_iff, HasForm]
  simp only [CharRun.admits_exactly_iff, Pattern.matches_singleton_iff, isAlpha_iff]
  constructor
  · rintro ⟨country, number, rfl, ⟨hlength, hcountry⟩, hnumber⟩
    have hleast : 2 ≤ number.length := hnumber.least_le
    have hmost : number.length ≤ 14 := hnumber.le_most 14 rfl
    rw [← hlength, List.take_left, List.drop_left, List.length_append]
    refine ⟨by omega, hcountry, fun c hc => ?_⟩
    have hclass := hnumber.accepts c hc
    rwa [Bool.or_eq_true, isAlnum_iff, isOneOf_iff, or_assoc] at hclass
  · rintro ⟨⟨hleast, hmost⟩, hcountry, hnumber⟩
    refine ⟨cs.take 2, cs.drop 2, (List.take_append_drop 2 cs).symm,
      ⟨List.length_take_of_le (by omega), hcountry⟩, fun c hc => ?_, ?_, ?_⟩
    · rw [Bool.or_eq_true, isAlnum_iff, isOneOf_iff, or_assoc]
      exact hnumber c hc
    · rw [List.length_drop]
      exact Nat.le_sub_of_add_le hleast
    · intro limit hlimit
      rw [List.length_drop, ← Option.some.inj hlimit]
      exact Nat.sub_le_of_le_add hmost

theorem isEmailChar_iff {c : Char} : isEmailChar c = true ↔ isBlankChar c = false ∧ c ≠ '@' := by
  rw [isEmailChar, Bool.and_eq_true, Bool.not_eq_true', bne_iff_ne]

/-- A letter is neither white space nor one of the marks of an email address. -/
theorem IsLetter.ne {c : Char} (hletter : IsLetter c) :
    isBlankChar c = false ∧ c ≠ '@' ∧ c ≠ '.' := by
  have hcode : (65 ≤ c.toNat ∧ c.toNat ≤ 90) ∨ (97 ≤ c.toNat ∧ c.toNat ≤ 122) := hletter
  have hvisible : isBlankChar c = false := by
    simp only [isBlankChar, Bool.or_eq_false_iff, Bool.and_eq_false_iff, decide_eq_false_iff_not,
      beq_eq_false_iff_ne]
    omega
  refine ⟨hvisible, ?_, ?_⟩ <;>
  · rintro rfl
    exact absurd hcode (by decide)

theorem matches_email_iff : email.pattern.Matches cs ↔ email.HasForm cs := by
  simp only [pattern, Pattern.matches_cons_iff, CharRun.admits_atLeast_iff, CharRun.admits_one_iff,
    Pattern.matches_nil_iff, beq_iff_eq, isEmailChar_iff, isAlpha_iff, HasForm]
  constructor
  · rintro ⟨user, _, rfl, ⟨huser, huserChars⟩, _, _, rfl, ⟨_, rfl, rfl⟩, host, _, rfl,
      ⟨hhost, hhostChars⟩, _, _, rfl, ⟨_, rfl, rfl⟩, domain, _, rfl, ⟨hdomain, hletters⟩, rfl⟩
    refine ⟨?_, ?_, user, host, domain, by simp, List.ne_nil_of_length_pos huser,
      List.ne_nil_of_length_pos hhost, fun hdot => (hletters _ hdot).ne.2.2 rfl, hdomain, hletters⟩
    · simp only [List.forall_mem_append, List.forall_mem_singleton]
      exact ⟨fun c hc => (huserChars c hc).1, by decide, fun c hc => (hhostChars c hc).1, by decide,
        fun c hc => (hletters c hc).ne.1, List.forall_mem_nil _⟩
    · have hnone {part : List Char} (hpart : ∀ c ∈ part, c ≠ '@') : part.count '@' = 0 :=
        List.count_eq_zero_of_not_mem fun hat => hpart _ hat rfl
      simp [hnone fun c hc => (huserChars c hc).2, hnone fun c hc => (hhostChars c hc).2,
        hnone fun c hc => (hletters c hc).ne.2.1]
  · rintro ⟨hvisible, hcount, user, host, domain, rfl, huser, hhost, -, hdomain, hletters⟩
    simp only [List.forall_mem_append, List.forall_mem_cons] at hvisible
    simp only [List.count_append, List.count_cons_self] at hcount
    have hne {part : List Char} (hpart : part.count '@' = 0) : ∀ c ∈ part, c ≠ '@' := by
      rintro c hc rfl
      exact List.count_eq_zero.1 hpart hc
    have huserAt : ∀ c ∈ user, c ≠ '@' := hne (by omega)
    have hhostAt : ∀ c ∈ host, c ≠ '@' := hne (by omega)
    exact ⟨user, _, rfl,
      ⟨List.length_pos_of_ne_nil huser, fun c hc => ⟨hvisible.1 c hc, huserAt c hc⟩⟩,
      ['@'], _, rfl, ⟨'@', rfl, rfl⟩, host, _, rfl,
      ⟨List.length_pos_of_ne_nil hhost, fun c hc => ⟨hvisible.2.2.1 c hc, hhostAt c hc⟩⟩,
      ['.'], _, rfl, ⟨'.', rfl, rfl⟩, domain, [], (List.append_nil domain).symm,
      ⟨hdomain, hletters⟩, rfl⟩

theorem matches_ein_iff : ein.pattern.Matches cs ↔ ein.HasForm cs := by
  rw [pattern, Pattern.matches_cons_iff, HasForm, IsEin]
  simp only [Pattern.matches_optional_cons_iff, Pattern.matches_singleton_iff,
    CharRun.admits_exactly_iff, List.forall_mem_append]
  constructor
  · rintro ⟨office, _, rfl, ⟨hoffice, hofficeDigits⟩, serial, hmark, hserial, hserialDigits⟩
    refine ⟨office, serial, ?_, hoffice, hserial, hofficeDigits, hserialDigits⟩
    rcases hmark with rfl | rfl
    · exact .inl rfl
    · exact .inr rfl
  · rintro ⟨office, serial, rfl | rfl, hoffice, hserial, hofficeDigits, hserialDigits⟩
    · exact ⟨office, _, rfl, ⟨hoffice, hofficeDigits⟩, serial, .inl rfl, hserial, hserialDigits⟩
    · exact ⟨office, _, rfl, ⟨hoffice, hofficeDigits⟩, serial, .inr rfl, hserial, hserialDigits⟩

/-- The pattern of a rule is made for the texts of its form. -/
theorem matches_iff_hasForm (rule : FormatRule) : rule.pattern.Matches cs ↔ rule.HasForm cs :=
  match rule with
  | postalCode => matches_postalCode_iff
  | phone => matches_phone_iff
  | email => matches_email_iff
  | taxId => matches_taxId_iff
  | vatNumber => matches_vatNumber_iff
  | ein => matches_ein_iff

end Forms

theorem accepts_iff_matches {rule : FormatRule} {value : String} :
    rule.accepts value = true ↔ trim value = "" ∨ rule.pattern.Matches (trim value).toList := by
  rw [accepts, Bool.or_eq_true, Pattern.accepts_iff, trim_eq_empty_iff]

/-- A rule accepts exactly the values that are empty or have its form once they are trimmed. -/
theorem accepts_exactly_its_form (rule : FormatRule) (value : String) :
    rule.accepts value = true ↔ trim value = "" ∨ rule.HasForm (trim value).toList := by
  rw [accepts_iff_matches, matches_iff_hasForm]

/-- A host may hold dots, and a number may hold a hyphen, but not as its last character. -/
example : email.accepts " ops@mail.acme.example " = true ∧
    phone.accepts "+1 555-123-4567-" = false := by
  decide

end FormatRule

end AddressIntake

import AddressIntake.Text.Utf8

namespace AddressIntake.Text.Utf8

theorem units_last {p : Pending} {n : Nat} (hbyte : n < 256) (hleast : p.least ≤ n)
    (hgreatest : n ≤ p.greatest) (howed : p.owed ≤ 1) (rest : List UInt8) :
    units (some p) (UInt8.ofNat n :: rest) =
      some (Char.ofNat (p.bits * 64 + (n - 0x80))) :: units none rest := by
  have hn : (UInt8.ofNat n).toNat = n := UInt8.toNat_ofNat_of_lt' hbyte
  rw [units, hn]
  simp [hleast, hgreatest, howed]

theorem units_inner {p : Pending} {n : Nat} (hbyte : n < 256) (hleast : p.least ≤ n)
    (hgreatest : n ≤ p.greatest) (howed : 1 < p.owed) (rest : List UInt8) :
    units (some p) (UInt8.ofNat n :: rest) =
      units (some ⟨p.bits * 64 + (n - 0x80), p.owed - 1, 0x80, 0xBF⟩) rest := by
  have hn : (UInt8.ofNat n).toNat = n := UInt8.toNat_ofNat_of_lt' hbyte
  rw [units, hn]
  simp [hleast, hgreatest, Nat.not_le.2 howed]

/-- The first byte of a character of two bytes. -/
theorem ofByte_two {n : Nat} (hlo : 0xC2 ≤ n) (hhi : n ≤ 0xDF) :
    Lead.ofByte (UInt8.ofNat n) = .longer ⟨n - 0xC0, 1, 0x80, 0xBF⟩ := by
  have hn : (UInt8.ofNat n).toNat = n := UInt8.toNat_ofNat_of_lt' (by simp only [UInt8.size]; omega)
  rw [Lead.ofByte, hn]
  simp [hlo, hhi, show ¬ n < 0x80 by omega]

/-- The first byte of a character of three bytes, and what it allows as the second one. -/
theorem ofByte_three {n m : Nat} (hlo : 0xE0 ≤ n) (hhi : n ≤ 0xEF) (hm : 0x80 ≤ m) (hm' : m ≤ 0xBF)
    (hshort : n = 0xE0 → 0xA0 ≤ m) (hsurrogate : n = 0xED → m ≤ 0x9F) :
    ∃ least greatest, Lead.ofByte (UInt8.ofNat n) = .longer ⟨n - 0xE0, 2, least, greatest⟩ ∧
      least ≤ m ∧ m ≤ greatest := by
  have hn : (UInt8.ofNat n).toNat = n := UInt8.toNat_ofNat_of_lt' (by simp only [UInt8.size]; omega)
  rw [Lead.ofByte, hn, if_neg (by omega), if_neg (by simp; omega)]
  by_cases hfirst : n = 0xE0
  · subst hfirst
    exact ⟨_, _, rfl, hshort rfl, hm'⟩
  · rw [if_neg (by simpa using hfirst)]
    by_cases hlast : n = 0xED
    · subst hlast
      exact ⟨_, _, rfl, hm, hsurrogate rfl⟩
    · rw [if_neg (by simpa using hlast), if_pos (by simp; omega)]
      exact ⟨_, _, rfl, hm, hm'⟩

/-- The first byte of a character of four bytes, and what it allows as the second one. -/
theorem ofByte_four {n m : Nat} (hlo : 0xF0 ≤ n) (hhi : n ≤ 0xF4) (hm : 0x80 ≤ m) (hm' : m ≤ 0xBF)
    (hshort : n = 0xF0 → 0x90 ≤ m) (hlarge : n = 0xF4 → m ≤ 0x8F) :
    ∃ least greatest, Lead.ofByte (UInt8.ofNat n) = .longer ⟨n - 0xF0, 3, least, greatest⟩ ∧
      least ≤ m ∧ m ≤ greatest := by
  have hn : (UInt8.ofNat n).toNat = n := UInt8.toNat_ofNat_of_lt' (by simp only [UInt8.size]; omega)
  rw [Lead.ofByte, hn, if_neg (by omega), if_neg (by simp; omega), if_neg (by simp; omega),
    if_neg (by simp; omega), if_neg (by simp; omega)]
  by_cases hfirst : n = 0xF0
  · subst hfirst
    exact ⟨_, _, rfl, hshort rfl, hm'⟩
  · rw [if_neg (by simpa using hfirst)]
    by_cases hlast : n = 0xF4
    · subst hlast
      exact ⟨_, _, rfl, hm, hlarge rfl⟩
    · rw [if_pos (by simp; omega)]
      exact ⟨_, _, rfl, hm, hm'⟩

/-- The bytes of a character are read as this character. -/
theorem units_utf8EncodeChar (c : Char) (rest : List UInt8) :
    units none (String.utf8EncodeChar c ++ rest) = some c :: units none rest := by
  have hvalid : c.toNat < 0xD800 ∨ 0xDFFF < c.toNat ∧ c.toNat < 0x110000 := c.valid
  have hc : Char.ofNat c.toNat = c := Char.ofNat_toNat c
  have hcode : c.val.toNat = c.toNat := rfl
  rw [String.utf8EncodeChar, hcode]
  generalize c.toNat = v at hvalid hc
  by_cases hone : v ≤ 0x7f
  · have hv : (UInt8.ofNat v).toNat = v := UInt8.toNat_ofNat_of_lt' (by simp only [UInt8.size]; omega)
    have hlead : Lead.ofByte (UInt8.ofNat v) = .char (Char.ofNat v) := by
      rw [Lead.ofByte, hv]
      simp [show v < 0x80 by omega]
    rw [if_pos hone, List.cons_append, List.nil_append, units, hlead, hc]
  · rw [if_neg hone]
    by_cases htwo : v ≤ 0x7ff
    · rw [if_pos htwo, List.cons_append, List.cons_append, List.nil_append, units,
        ofByte_two (by omega) (by omega)]
      have hbits : (v / 64 % 0x20 + 0xc0 - 0xC0) * 64 + (v % 0x40 + 0x80 - 0x80) = v := by omega
      simp only
      rw [units_last (by omega) (by simp only; omega) (by simp only; omega) (by simp only; omega)]
      simp only [hbits, hc]
    · rw [if_neg htwo]
      by_cases hthree : v ≤ 0xffff
      · obtain ⟨least, greatest, hlead, hleast, hgreatest⟩ :=
          ofByte_three (n := v / 4096 % 0x10 + 0xe0) (m := v / 64 % 0x40 + 0x80) (by omega) (by omega)
            (by omega) (by omega) (by omega) (by omega)
        rw [if_pos hthree, List.cons_append, List.cons_append, List.cons_append, List.nil_append,
          units, hlead]
        have hbits : ((v / 4096 % 0x10 + 0xe0 - 0xE0) * 64 + (v / 64 % 0x40 + 0x80 - 0x80)) * 64 +
            (v % 0x40 + 0x80 - 0x80) = v := by omega
        simp only
        rw [units_inner (by omega) hleast hgreatest (by simp only; omega),
          units_last (by omega) (by simp only; omega) (by simp only; omega) (by simp only; omega)]
        simp only [hbits, hc]
      · obtain ⟨least, greatest, hlead, hleast, hgreatest⟩ :=
          ofByte_four (n := v / 262144 % 0x08 + 0xf0) (m := v / 4096 % 0x40 + 0x80) (by omega)
            (by omega) (by omega) (by omega) (by omega) (by omega)
        rw [if_neg hthree, List.cons_append, List.cons_append, List.cons_append, List.cons_append,
          List.nil_append, units, hlead]
        have hbits : (((v / 262144 % 0x08 + 0xf0 - 0xF0) * 64 + (v / 4096 % 0x40 + 0x80 - 0x80)) * 64 +
            (v / 64 % 0x40 + 0x80 - 0x80)) * 64 + (v % 0x40 + 0x80 - 0x80) = v := by omega
        simp only
        rw [units_inner (by omega) hleast hgreatest (by simp only; omega),
          units_inner (by omega) (by simp only; omega) (by simp only; omega) (by simp only; omega),
          units_last (by omega) (by simp only; omega) (by simp only; omega) (by simp only; omega)]
        simp only [hbits, hc]

theorem units_encode (cs : List Char) : units none (encode cs) = cs.map some := by
  induction cs with
  | nil => rfl
  | cons c cs ih =>
    rw [encode, List.flatMap_cons, units_utf8EncodeChar, List.map_cons, ← encode, ih]

/-- What is written as UTF-8 is read back. -/
theorem decode?_encode (cs : List Char) : decode? (encode cs) = some cs := by
  have hall (cs : List Char) : (cs.map some).mapM id = some cs := by
    induction cs with
    | nil => rfl
    | cons c cs ih =>
      rw [List.map_cons, List.mapM_cons, ih]
      rfl
  rw [decode?, units_encode, hall]

/-- Nothing that is written as UTF-8 is unreadable. -/
theorem decodeLossy_encode (cs : List Char) : decodeLossy (encode cs) = cs := by
  rw [decodeLossy, units_encode, List.map_map]
  exact List.map_id cs

end AddressIntake.Text.Utf8

import AddressIntake.Json.Printer
import AddressIntake.Json.Reader

namespace AddressIntake.Json

open Text

theorem hexValue?_hexDigit (n : Fin 16) : hexValue? (hexDigit n) = some n.val := by
  revert n
  decide

/-- The piece that the escape of a character is read as. -/
def pieceOf (c : Char) : Piece :=
  if c.toNat < 0x20 ∧ c ∉ ['\x08', '\x0C', '\n', '\r', '\t'] then .unit c.toNat else .char c

theorem readPieces_escapeChar (c : Char) (rest : List Char) :
    readPieces (escapeChar c ++ rest) =
      (readPieces rest).map fun r => (pieceOf c :: r.1, r.2) := by
  unfold escapeChar
  split
  · simp [readPieces, escaped?, pieceOf]
  · simp [readPieces, escaped?, pieceOf]
  · simp [readPieces, escaped?, pieceOf]
  · simp [readPieces, escaped?, pieceOf]
  · simp [readPieces, escaped?, pieceOf]
  · simp [readPieces, escaped?, pieceOf]
  · simp [readPieces, escaped?, pieceOf]
  · next hquote hslash hback hfeed hline hreturn htab =>
    by_cases hcontrol : c.toNat < 0x20
    · have hunit : hexUnit? '0' '0' (hexDigit (c.toNat / 16)) (hexDigit (c.toNat % 16)) =
          some c.toNat := by
        have hhigh := hexValue?_hexDigit ⟨c.toNat / 16, by omega⟩
        have hlow := hexValue?_hexDigit ⟨c.toNat % 16, by omega⟩
        have hzero : hexValue? '0' = some 0 := rfl
        simp only [hexUnit?, hzero, hhigh, hlow, Option.bind_eq_bind, Option.bind_some]
        congr 1
        omega
      have hpiece : pieceOf c = .unit c.toNat := by
        rw [pieceOf, if_pos]
        simp_all
      rw [if_pos hcontrol, hpiece]
      simp only [List.cons_append, List.nil_append, readPieces, hunit]
    · have hpiece : pieceOf c = .char c := by
        rw [pieceOf, if_neg (fun hboth => hcontrol hboth.1)]
      have hplain : (c == '\\' || decide (c.toNat < 0x20)) = false := by
        simp only [Bool.or_eq_false_iff, beq_eq_false_iff_ne, decide_eq_false_iff_not]
        exact ⟨hslash, hcontrol⟩
      rw [if_neg hcontrol, hpiece, List.cons_append, List.nil_append, readPieces]
      · rw [hplain]
        rfl
      · exact hquote
      · intro a b c' d rest' hc
        exact absurd hc hslash
      · intro e rest' hc
        exact absurd hc hslash

theorem readPieces_quoted (cs rest : List Char) :
    readPieces (cs.flatMap escapeChar ++ '"' :: rest) = some (cs.map pieceOf, rest) := by
  induction cs with
  | nil => simp [readPieces]
  | cons c cs ih =>
    rw [List.flatMap_cons, List.append_assoc, readPieces_escapeChar, ih]
    rfl

theorem joinPieces_unit {n : Nat} (hhigh : Encoding.isHighSurrogate n = false)
    (hlow : Encoding.isLowSurrogate n = false) (rest : List Piece) :
    joinPieces (.unit n :: rest) = (joinPieces rest).map (Char.ofNat n :: ·) := by
  rcases rest with _ | ⟨_ | _, rest⟩ <;> simp [joinPieces, hhigh, hlow]

theorem joinPieces_map_pieceOf (cs : List Char) : joinPieces (cs.map pieceOf) = some cs := by
  induction cs with
  | nil => rfl
  | cons c cs ih =>
    by_cases hunit : c.toNat < 0x20 ∧ c ∉ ['\x08', '\x0C', '\n', '\r', '\t']
    · have hhigh : Encoding.isHighSurrogate c.toNat = false := by
        simp [Encoding.isHighSurrogate]
        omega
      have hlow : Encoding.isLowSurrogate c.toNat = false := by
        simp [Encoding.isLowSurrogate]
        omega
      rw [List.map_cons, pieceOf, if_pos hunit, joinPieces_unit hhigh hlow, ih, Char.ofNat_toNat]
      rfl
    · rw [List.map_cons, pieceOf, if_neg hunit, joinPieces, ih]
      rfl

/-- A text in quotes is read back. -/
theorem readToken_quote (s : String) (rest : List Char) :
    readToken (quote s ++ rest) = some (.str s, rest) := by
  have hquote : quote s ++ rest = '"' :: (s.toList.flatMap escapeChar ++ '"' :: rest) := by
    simp [quote]
  rw [hquote, readToken, readPieces_quoted, Option.map_some]
  simp only [stringToken, joinPieces_map_pieceOf, String.ofList_toList]

end AddressIntake.Json

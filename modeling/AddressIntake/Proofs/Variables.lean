import AddressIntake.Json.Printer
import AddressIntake.Proofs.Text.Blank
import AddressIntake.Variables

namespace AddressIntake.Variables

open Text

/-- A character at which a line is given up: it is not blank, and starts neither a comment nor a
name. -/
def IsStray (c : Char) : Prop :=
  isBlankChar c = false ∧ c ≠ '#' ∧ (c.isAlpha || c == '_') = false

instance (c : Char) : Decidable (IsStray c) :=
  inferInstanceAs (Decidable (_ ∧ _))

theorem IsStray.readLine {c : Char} (hstray : IsStray c) (lookup : String → String)
    (cs : List Char) : readLine lookup (c :: cs) = .invalid := by
  obtain ⟨hvisible, hcomment, hname⟩ := hstray
  have hassignment : readAssignment (c :: dropBlankEnd cs) = none := by
    rw [readAssignment, readName, if_neg (by simpa using hname)]
    rfl
  rw [Variables.readLine, dropBlankEnd_cons_of_visible hvisible,
    dropBlankStart_cons_of_visible hvisible]
  split
  · rename_i hnil
    cases hnil
  · rename_i hcons
    exact absurd (List.cons.inj hcons).1 hcomment
  · rw [hassignment]

/-- However lines are joined, the first one is given up at its first character. -/
theorem IsStray.readLines_joinLines {c : Char} (hstray : IsStray c)
    (outside : String → Option String) (soFar : List Char) (quoting : Quoting)
    (lines : List (Option (List Char))) :
    readLines outside [] (joinLines (c :: soFar) quoting lines) = [] := by
  induction lines generalizing soFar quoting with
  | nil => rfl
  | cons line lines ih =>
    cases line with
    | none => rfl
    | some line =>
      have hcomment : (dropBlankStart ((c :: soFar) ++ line)).head? ≠ some '#' := by
        rw [List.cons_append, dropBlankStart_cons_of_visible hstray.1]
        simpa using hstray.2.1
      rw [joinLines, if_neg (by simpa using hcomment)]
      dsimp only
      split
      · rw [List.cons_append, readLines, hstray.readLine]
      · exact ih ..

theorem lines_cons {b : UInt8} (hline : b ≠ 0x0A) (rest : List UInt8) :
    ∃ line others, lines (b :: rest) = (b :: line) :: others := by
  rw [lines, if_neg (by simpa using hline)]
  cases lines rest with
  | nil => exact ⟨[], [], rfl⟩
  | cons line others => exact ⟨line, others, rfl⟩

/-- A text that starts with a bracket sets no variables. -/
theorem ofBytes_bracket (outside : String → Option String) (cs : List Char) :
    ofBytes outside (Utf8.encode ('[' :: cs)) = [] := by
  have hstray : IsStray '[' := by decide +kernel
  have hbytes : Utf8.encode ('[' :: cs) = 0x5B :: Utf8.encode cs := rfl
  obtain ⟨line, others, hlines⟩ := lines_cons (by decide : (0x5B : UInt8) ≠ 0x0A) (Utf8.encode cs)
  have hmark : dropMark (0x5B :: Utf8.encode cs) = 0x5B :: Utf8.encode cs := rfl
  rw [ofBytes, hbytes, hmark, hlines, List.map_cons]
  have hfirst : Utf8.decode? (0x5B :: line) = (Utf8.decode? line).map ('[' :: ·) := by
    have hunits : Utf8.units none (0x5B :: line) = some '[' :: Utf8.units none line := rfl
    rw [Utf8.decode?, hunits, List.mapM_cons, Utf8.decode?]
    cases (Utf8.units none line).mapM id <;> rfl
  rw [hfirst]
  cases Utf8.decode? line with
  | none => rfl
  | some text =>
    have hcomment : (dropBlankStart ([] ++ '[' :: text)).head? ≠ some '#' := by
      rw [List.nil_append, dropBlankStart_cons_of_visible hstray.1]
      simp
    rw [Option.map_some, joinLines, if_neg (by simpa using hcomment)]
    dsimp only
    split
    · have hscan : (Quoting.plain.scan ('[' :: text)).1 =
          '[' :: ((Quoting.plain.next '[').scan text).1 := rfl
      rw [List.nil_append, hscan, readLines, hstray.readLine]
    · exact hstray.readLines_joinLines outside _ _ _

/-- The JSON text of a list sets no variables. -/
theorem ofBytes_list {α : Type} (outside : String → Option String) (toJson : α → Json)
    (items : List α) :
    ofBytes outside (Utf8.encode (Json.indented (Json.ofList toJson items))) = [] := by
  rw [Json.indented, Json.ofList]
  cases items with
  | nil => exact ofBytes_bracket outside [']']
  | cons item items => exact ofBytes_bracket outside _

end AddressIntake.Variables

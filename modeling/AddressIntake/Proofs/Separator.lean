import AddressIntake.Proofs.Table

namespace AddressIntake

namespace Delimited

variable {sep : Char}

theorem moreFrequent_mem {best candidate : Char × Nat} {seps : List Char} (hbest : best.1 ∈ seps)
    (hcandidate : candidate.1 ∈ seps) : (moreFrequent best candidate).1 ∈ seps := by
  rw [moreFrequent]
  split
  · exact hcandidate
  · exact hbest

/-- The separator of a text is one of those that are looked for. -/
theorem detectSeparator_mem (cs : List Char) : detectSeparator cs ∈ separators := by
  have hfold (found : List (Char × Nat)) (hfound : ∀ entry ∈ found, entry.1 ∈ separators)
      (best : Char × Nat) (hbest : best.1 ∈ separators) :
      (found.foldl moreFrequent best).1 ∈ separators := by
    induction found generalizing best with
    | nil => exact hbest
    | cons entry found ih =>
      exact ih (fun other hother => hfound other (List.mem_cons_of_mem entry hother)) _
        (moreFrequent_mem hbest (hfound entry List.mem_cons_self))
  refine hfold _ ?_ _ (by decide)
  intro entry hentry
  obtain ⟨sep, hsep, rfl⟩ := List.mem_map.1 hentry
  exact hsep

theorem fst_foldl_moreFrequent {found : List (Char × Nat)}
    (hfound : ∀ entry ∈ found, entry.1 ≠ sep → entry.2 = 0) {best : Char × Nat}
    (hbest : best.1 = sep) : (found.foldl moreFrequent best).1 = sep := by
  induction found generalizing best with
  | nil => exact hbest
  | cons entry found ih =>
    obtain ⟨hentry, hrest⟩ := List.forall_mem_cons.1 hfound
    refine ih hrest ?_
    by_cases hsame : entry.1 = sep
    · rw [moreFrequent]
      split
      · exact hsame
      · exact hbest
    · rwa [moreFrequent, hentry hsame, if_neg (Nat.not_lt_zero _)]

/-- Without any other separator in its first line, a text is separated by commas. -/
theorem detectSeparator_eq_comma {cs : List Char}
    (hline : ∀ sep ∈ separators, sep ≠ ',' → sep ∉ firstLine cs) : detectSeparator cs = ',' := by
  refine fst_foldl_moreFrequent (fun entry hentry hother => ?_) rfl
  obtain ⟨sep, hsep, rfl⟩ := List.mem_map.1 hentry
  exact List.count_eq_zero_of_not_mem (hline sep hsep hother)

theorem mem_of_mem_firstLine {c : Char} {line rest : List Char}
    (hmem : c ∈ firstLine (line ++ '\n' :: rest)) : c ∈ line := by
  rw [firstLine, List.takeWhile_append] at hmem
  split at hmem
  · simpa using hmem
  · exact List.takeWhile_subset _ hmem

/-- Only the characters before the first line feed count, and a carriage return separates nothing. -/
theorem detectSeparator_append {header : List Char} (hheader : ∀ c ∈ header, isLineEnd c = false)
    {lineEnd : LineEnd} (hend : lineEnd ≠ .cr) (rest : List Char) :
    detectSeparator (header ++ (lineEnd.text ++ rest)) = detectSeparator header := by
  have hkeep : ∀ c ∈ header, (c != '\n') = true := by
    intro c hc
    have hnot := hheader c hc
    simp only [isLineEnd, Bool.or_eq_false_iff] at hnot
    simpa using hnot.1
  have hown : firstLine header = header := List.takeWhile_eq_self_iff.2 hkeep
  have hcount (sep : Char) (hsep : sep ∈ separators) :
      (firstLine (header ++ (lineEnd.text ++ rest))).count sep = (firstLine header).count sep := by
    rw [hown, firstLine, List.takeWhile_append_of_pos hkeep]
    cases lineEnd with
    | cr => exact absurd rfl hend
    | lf => simp [LineEnd.text]
    | crlf =>
      have hne : '\r' ≠ sep := by
        rintro rfl
        exact absurd hsep (by decide)
      simp [LineEnd.text, hne]
  have hcounts : separators.map (fun sep =>
      (sep, (firstLine (header ++ (lineEnd.text ++ rest))).count sep)) =
      separators.map fun sep => (sep, (firstLine header).count sep) :=
    List.map_congr_left fun sep hsep => by rw [hcount sep hsep]
  rw [detectSeparator, detectSeparator, hcounts]

theorem mem_and_ne_of_mem_splitOn {cs : List Char} :
    ∀ piece ∈ cs.splitOn sep, ∀ c ∈ piece, c ∈ cs ∧ c ≠ sep := by
  induction cs with
  | nil => simp
  | cons d cs ih =>
    rw [List.splitOn_cons_eq_if_modifyHead]
    by_cases hd : d = sep
    · subst hd
      simp only [beq_self_eq_true, ↓reduceIte, List.mem_cons]
      rintro piece (rfl | hpiece) c hc
      · cases hc
      · exact ⟨.inr (ih piece hpiece c hc).1, (ih piece hpiece c hc).2⟩
    · obtain ⟨first, others, hsplit⟩ := List.exists_cons_of_ne_nil (List.splitOn_ne_nil sep cs)
      rw [hsplit] at ih ⊢
      simp only [beq_iff_eq, hd, ↓reduceIte, List.modifyHead_cons, List.mem_cons] at ih ⊢
      rintro piece (rfl | hpiece) c hc
      · rcases List.mem_cons.1 hc with rfl | hc
        · exact ⟨.inl rfl, hd⟩
        · exact ⟨.inr (ih first (.inl rfl) c hc).1, (ih first (.inl rfl) c hc).2⟩
      · exact ⟨.inr (ih piece (.inr hpiece) c hc).1, (ih piece (.inr hpiece) c hc).2⟩

/-- A text without quotes and line ends as a line: its cells are what lies between separators. -/
def Line.ofText (sep : Char) (cs : List Char) : Line :=
  (cs.splitOn sep).map .plain

theorem Line.text_ofText (cs : List Char) : (ofText sep cs).text sep = cs := by
  have htext : Spelling.text ∘ Spelling.plain = id := rfl
  rw [Line.text, ofText, List.map_map, htext, List.map_id, List.intercalate_splitOn]

theorem Line.row_ofText (cs : List Char) : (ofText sep cs).row = (cs.splitOn sep).map cellText := by
  rw [Line.row, Line.values, ofText, List.map_map, List.map_map]
  rfl

theorem Line.isValid_ofText {cs : List Char}
    (hcs : ∀ c ∈ cs, c ≠ '"' ∧ isLineEnd c = false) (hne : cs ≠ []) :
    (ofText sep cs).IsValid sep := by
  refine ⟨fun cell hcell => ?_, fun _ => by rwa [text_ofText]⟩
  obtain ⟨piece, hpiece, rfl⟩ := List.mem_map.1 hcell
  refine ⟨fun hquote => ?_, fun c hc => ?_⟩
  · have hmem := List.mem_of_head? hquote
    exact (hcs _ (mem_and_ne_of_mem_splitOn piece hpiece _ hmem).1).1 rfl
  · obtain ⟨hmem, hne⟩ := mem_and_ne_of_mem_splitOn piece hpiece c hc
    exact ⟨hne, (hcs c hmem).2⟩

/-- The first line of a text is its first row, whatever follows. -/
theorem read_first_line (hsep : IsSeparator sep) {line : Line} (hvalid : line.IsValid sep)
    (hne : line ≠ []) (hstart : (line.text sep).head? ≠ some Text.Encoding.byteOrderMark)
    (lineEnd : LineEnd) (rest : List Char) :
    ∃ rows, read sep (line.text sep ++ (lineEnd.text ++ rest)) = line.row :: rows := by
  obtain ⟨c, more, htext, hend, -⟩ := lineEnd.exists_cons
  have hhead : (line.text sep ++ (lineEnd.text ++ rest)).head? ≠
      some Text.Encoding.byteOrderMark := by
    rwa [List.head?_append_of_ne_nil _ (hvalid.text_ne hne)]
  have hnone : skippedLines false (line.text sep ++ [c]) = 0 := by
    have happ : skippedLines false ([] ++ (line.text sep ++ [c])) = skippedLines false [] :=
      skippedLines_append_of_not_lineEnd (by simp) fun d hd => by
        rw [List.head?_append_of_ne_nil _ (hvalid.text_ne hne)] at hd
        exact hvalid.not_lineEnd_head hsep hd
    exact happ
  rw [read, records_of_head_ne hhead, htext, List.cons_append,
    recordsFrom_record hsep hvalid hne hend, rowsOf, List.reverse_nil, List.nil_append, hnone]
  exact ⟨_, rfl⟩

end Delimited

namespace Table

open Delimited

/-- If the header is the first line of a text and ends with a line feed, the cells are separated by
the character that occurs most often in the header, whatever the data rows hold. The data rows are
what the reader finds after the header, up to the last row that is not blank. -/
theorem parse_csv_separator {header data : List Char} {lineEnd : LineEnd} {bytes : List UInt8}
    {charset : String} (hend : lineEnd ≠ .cr)
    (hdecode : Text.Encoding.decode (Text.Encoding.ofDetected charset) bytes =
      header ++ (lineEnd.text ++ data))
    (hbinary : '\x00' ∉ header ++ (lineEnd.text ++ data))
    (hheader : ∀ c ∈ header, c ≠ '"' ∧ isLineEnd c = false)
    (hstart : header.head? ≠ some Text.Encoding.byteOrderMark)
    (hfilled : isBlankRow ((header.splitOn (detectSeparator header)).map cellText) = false)
    (hdata : ∃ row ∈ (read (detectSeparator header) (header ++ (lineEnd.text ++ data))).tail,
      isBlankRow row = false) :
    parse .csv (.bytes bytes charset) =
      .ok ⟨.csv, (header.splitOn (detectSeparator header)).map cellText,
        (read (detectSeparator header) (header ++ (lineEnd.text ++ data))).tail.rdropWhile isBlankRow,
        some (Text.Encoding.ofDetected charset), some (detectSeparator header)⟩ := by
  have hne : header ≠ [] := by
    rintro rfl
    cases hfilled
  have hline : Line.ofText (detectSeparator header) header ≠ [] := by
    intro hnil
    exact List.splitOn_ne_nil _ header (List.map_eq_nil_iff.1 hnil)
  have hsep := isSeparator_of_mem (detectSeparator_mem header)
  obtain ⟨rows, hrows⟩ := read_first_line hsep (Line.isValid_ofText hheader hne) hline
    (by rwa [Line.text_ofText]) lineEnd data
  rw [Line.text_ofText, Line.row_ofText] at hrows
  rw [hrows, List.tail_cons] at hdata
  have hsame := detectSeparator_append (fun c hc => (hheader c hc).2) hend data
  rw [parse, if_neg (by decide)]
  simp only [hdecode]
  rw [ofText, if_neg (by simpa using hbinary)]
  simp only [hsame, hrows, List.tail_cons, reduceCtorEq, beq_iff_eq, ↓reduceIte]
  exact ofRows_eq_ok (List.forall_mem_nil _) hfilled hdata .csv _ _

/-- A header of two cells before a data row with more commas than the header has semicolons, and a
blank row at the end. -/
theorem parse_csv_separator_of_semicolons :
    let header := "City;State".toList
    let data := "Salem, East, West;\"a;b\"\r\n ; \r\n".toList
    detectSeparator header = ';' ∧
    parse .csv (.bytes (Text.Utf8.encode (header ++ (LineEnd.crlf.text ++ data))) "ascii") =
      .ok ⟨.csv, ["City", "State"], [["Salem, East, West", "a;b"]], some "utf-8", some ';'⟩ := by
  intro header data
  have hend : LineEnd.crlf ≠ .cr := by decide
  have hdecode : Text.Encoding.decode (Text.Encoding.ofDetected "ascii")
      (Text.Utf8.encode (header ++ (LineEnd.crlf.text ++ data))) =
        header ++ (LineEnd.crlf.text ++ data) := by decide
  have hheader : ∀ c ∈ header, c ≠ '"' ∧ isLineEnd c = false := by simp [header, isLineEnd]
  have hparse := parse_csv_separator hend hdecode (by decide) hheader (by decide) (by decide)
    (by decide)
  exact ⟨by decide, hparse.trans (by decide)⟩

/-- An empty line in front of a header hides its separator, and so do data rows after a header that
ends with a carriage return: in both texts the header is split at commas, and stays one cell. -/
theorem parse_csv_separator_of_hidden_header :
    detectSeparator "City;State".toList = ';' ∧
    parse .csv (.ofText "\nCity;State\nSalem;OR\n".toList) =
      .ok ⟨.csv, ["City;State"], [["Salem;OR"]], some "utf-8", some ','⟩ ∧
    parse .csv (.ofText "City;State\rSalem, OR, US\r".toList) =
      .ok ⟨.csv, ["City;State"], [["Salem", "OR", "US"]], some "utf-8", some ','⟩ := by
  decide

end Table

end AddressIntake

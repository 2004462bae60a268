import AddressIntake.Delimited.Reader
import AddressIntake.Delimited.Separator
import AddressIntake.Delimited.Writer
import Mathlib.Tactic.MkIffOfInductiveProp

namespace AddressIntake.Delimited

/-- How a cell is written: as it is, or in quotes. -/
inductive Spelling where
  | plain (text : List Char)
  | quoted (content : List Char)
  deriving DecidableEq

namespace Spelling

/-- The text of a cell. -/
def text : Spelling → List Char
  | plain text => text
  | quoted content => quoteCell content

/-- The value that a cell stands for. -/
def value : Spelling → List Char
  | plain text => text
  | quoted content => content

/-- A cell can be written as it is if it does not start with a quote and holds neither the separator
nor a line end. -/
def IsValid (sep : Char) : Spelling → Prop
  | plain text => text.head? ≠ some '"' ∧ ∀ c ∈ text, c ≠ sep ∧ isLineEnd c = false
  | quoted _ => True

instance (sep : Char) (spelling : Spelling) : Decidable (spelling.IsValid sep) :=
  match spelling with
  | plain text =>
    -- Named, since the instance that is found otherwise goes through all characters there are.
    have : Decidable (∀ c ∈ text, c ≠ sep ∧ isLineEnd c = false) := List.decidableBAll _ text
    inferInstanceAs (Decidable (text.head? ≠ some '"' ∧ ∀ c ∈ text, c ≠ sep ∧ isLineEnd c = false))
  | quoted _ => .isTrue trivial

/-- Where the reader stands after the text of a cell. -/
def place (done : List (List Char)) : Spelling → Place
  | plain [] => .cellStart done
  | plain (c :: text) => .plain done (c :: text).reverse
  | quoted content => .quote done content.reverse

end Spelling

/-- A line as the cells of its record. An empty line has none. -/
abbrev Line := List Spelling

namespace Line

/-- The text of a line. -/
def text (sep : Char) (line : Line) : List Char :=
  [sep].intercalate (line.map Spelling.text)

/-- The values of the cells of a line. -/
def values (line : Line) : List (List Char) :=
  line.map Spelling.value

/-- The row of a line: its trimmed cells. -/
def row (line : Line) : List String :=
  line.values.map cellText

/-- The cells of a line can be written as they are, and only the empty line has an empty text. -/
@[mk_iff]
structure IsValid (sep : Char) (line : Line) : Prop where
  cells : ∀ cell ∈ line, cell.IsValid sep
  text_ne : line ≠ [] → line.text sep ≠ []

instance (sep : Char) (line : Line) : Decidable (line.IsValid sep) :=
  decidable_of_iff' _ (isValid_iff sep line)

end Line

/-- A character can separate cells if it is neither a quote nor a line end. -/
structure IsSeparator (sep : Char) : Prop where
  ne_quote : sep ≠ '"'
  not_lineEnd : isLineEnd sep = false

/-- The separators that are looked for can separate cells. -/
theorem isSeparator_of_mem {sep : Char} (hmem : sep ∈ separators) : IsSeparator sep := by
  simp only [separators, List.mem_cons, List.not_mem_nil, or_false] at hmem
  rcases hmem with rfl | rfl | rfl | rfl <;> exact ⟨by decide, by decide⟩

section Steps

variable {sep c : Char} {place after : Place} {cells : List (List Char)}

theorem recordsFrom_cons_of_next_none (hnext : place.next sep c = (none, after))
    (span rest : List Char) :
    recordsFrom sep place span (c :: rest) = recordsFrom sep after (c :: span) rest := by
  rw [recordsFrom, hnext]

theorem recordsFrom_cons_of_next_some (hnext : place.next sep c = (some cells, after))
    (span rest : List Char) :
    recordsFrom sep place span (c :: rest) =
      ⟨(c :: span).reverse, cells⟩ :: recordsFrom sep after [] rest := by
  rw [recordsFrom, hnext]

/-- Without a byte order mark in front, the records are taken from the first character on. -/
theorem records_of_head_ne {cs : List Char}
    (hstart : cs.head? ≠ some Text.Encoding.byteOrderMark) :
    records sep cs = recordsFrom sep .between [] cs := by
  cases cs with
  | nil => rfl
  | cons c rest =>
    rw [List.head?_cons, ne_eq, Option.some.injEq] at hstart
    rw [records, if_neg (by simpa using hstart)]

/-- Line ends between records are passed over. -/
theorem recordsFrom_between_lineEnds {ends : List Char} (hends : ∀ c ∈ ends, isLineEnd c = true)
    (span rest : List Char) :
    recordsFrom sep .between span (ends ++ rest) =
      recordsFrom sep .between (ends.reverse ++ span) rest := by
  induction ends generalizing span with
  | nil => rfl
  | cons c ends ih =>
    have hnext : Place.next sep .between c = (none, .between) := by
      simp [Place.next, hends c List.mem_cons_self]
    rw [List.cons_append, recordsFrom_cons_of_next_none hnext,
      ih fun d hd => hends d (List.mem_cons_of_mem c hd)]
    simp

end Steps

section Cells

variable {sep : Char}

theorem proceed_of_plain {c : Char} (hsep : c ≠ sep) (hend : isLineEnd c = false)
    (done : List (List Char)) (cell : OpenCell) :
    Place.proceed sep done cell c = (none, .plain done (c :: cell)) := by
  simp [Place.proceed, hsep, hend]

theorem recordsFrom_plain {text : List Char}
    (htext : ∀ c ∈ text, c ≠ sep ∧ isLineEnd c = false) (done : List (List Char)) (cell : OpenCell)
    (span rest : List Char) :
    recordsFrom sep (.plain done cell) span (text ++ rest) =
      recordsFrom sep (.plain done (text.reverse ++ cell)) (text.reverse ++ span) rest := by
  induction text generalizing cell span with
  | nil => rfl
  | cons c text ih =>
    obtain ⟨hsep, hend⟩ := htext c List.mem_cons_self
    have hnext : Place.next sep (.plain done cell) c = (none, .plain done (c :: cell)) :=
      proceed_of_plain hsep hend done cell
    rw [List.cons_append, recordsFrom_cons_of_next_none hnext,
      ih (fun d hd => htext d (List.mem_cons_of_mem c hd))]
    simp

/-- Inside quotes everything is part of the cell, and a quote is written twice. -/
theorem recordsFrom_quoted (content : List Char) (done : List (List Char)) (cell : OpenCell)
    (span rest : List Char) :
    recordsFrom sep (.quoted done cell) span
        (content.flatMap (fun c => if c == '"' then ['"', '"'] else [c]) ++ '"' :: rest) =
      recordsFrom sep (.quote done (content.reverse ++ cell))
        ('"' :: (content.flatMap (fun c => if c == '"' then ['"', '"'] else [c])).reverse ++ span)
        rest := by
  induction content generalizing cell span with
  | nil => exact recordsFrom_cons_of_next_none (by simp [Place.next]) span rest
  | cons c content ih =>
    by_cases hquote : c = '"'
    · subst hquote
      have hfirst : Place.next sep (.quoted done cell) '"' = (none, .quote done cell) := rfl
      have hsecond : Place.next sep (.quote done cell) '"' = (none, .quoted done ('"' :: cell)) := rfl
      simp only [List.flatMap_cons, beq_self_eq_true, ↓reduceIte, List.cons_append, List.nil_append]
      rw [recordsFrom_cons_of_next_none hfirst, recordsFrom_cons_of_next_none hsecond, ih]
      simp
    · have hnext : Place.next sep (.quoted done cell) c = (none, .quoted done (c :: cell)) := by
        simp [Place.next, hquote]
      have hne : (c == '"') = false := by simpa using hquote
      simp only [List.flatMap_cons, hne, Bool.false_eq_true, ↓reduceIte, List.cons_append,
        List.nil_append]
      rw [recordsFrom_cons_of_next_none hnext, ih]
      simp

/-- After the text of a cell the reader stands where the cell can end. -/
theorem recordsFrom_spelling {spelling : Spelling} (hvalid : spelling.IsValid sep)
    (done : List (List Char)) (span rest : List Char) :
    recordsFrom sep (.cellStart done) span (spelling.text ++ rest) =
      recordsFrom sep (spelling.place done) (spelling.text.reverse ++ span) rest := by
  cases spelling with
  | quoted content =>
    have hnext : Place.next sep (.cellStart done) '"' = (none, .quoted done []) := rfl
    rw [Spelling.text, quoteCell, List.cons_append, recordsFrom_cons_of_next_none hnext,
      List.append_assoc, List.singleton_append, recordsFrom_quoted]
    simp [Spelling.place]
  | plain text =>
    cases text with
    | nil => rfl
    | cons c text =>
      obtain ⟨hquote, htext⟩ := hvalid
      obtain ⟨hsep, hend⟩ := htext c List.mem_cons_self
      have hquote : c ≠ '"' := by simpa using hquote
      have hnext : Place.next sep (.cellStart done) c = (none, .plain done [c]) := by
        simp [Place.next, Place.open?, hend, hquote, hsep]
      rw [Spelling.text, List.cons_append, recordsFrom_cons_of_next_none hnext,
        recordsFrom_plain (fun d hd => htext d (List.mem_cons_of_mem c hd))]
      simp [Spelling.place]

theorem next_place_separator (hsep : IsSeparator sep) (spelling : Spelling)
    (done : List (List Char)) :
    (spelling.place done).next sep sep = (none, .cellStart (spelling.value :: done)) := by
  match spelling with
  | .plain [] =>
    simp [Spelling.place, Spelling.value, Place.next, Place.open?, hsep.ne_quote, hsep.not_lineEnd]
  | .plain (c :: text) => simp [Spelling.place, Spelling.value, Place.next, Place.proceed]
  | .quoted content =>
    simp [Spelling.place, Spelling.value, Place.next, Place.proceed, hsep.ne_quote]

theorem next_place_lineEnd (hsep : IsSeparator sep) (spelling : Spelling) (done : List (List Char))
    {c : Char} (hend : isLineEnd c = true) :
    (spelling.place done).next sep c = (some (done.reverse ++ [spelling.value]), .between) := by
  have hne : c ≠ sep := by
    rintro rfl
    rw [hsep.not_lineEnd] at hend
    cases hend
  have hquote : c ≠ '"' := by
    rintro rfl
    cases hend
  match spelling with
  | .plain [] =>
    simp [Spelling.place, Spelling.value, Place.next, Place.proceed, Place.record, hend, hne]
  | .plain (d :: text) =>
    simp [Spelling.place, Spelling.value, Place.next, Place.proceed, Place.record, hend, hne]
  | .quoted content =>
    simp [Spelling.place, Spelling.value, Place.next, Place.proceed, Place.record, hend, hne, hquote]

theorem finish_place (spelling : Spelling) (done : List (List Char)) :
    (spelling.place done).finish = some (done.reverse ++ [spelling.value]) := by
  match spelling with
  | .plain [] => simp [Spelling.place, Spelling.value, Place.finish, Place.record]
  | .plain (c :: text) => simp [Spelling.place, Spelling.value, Place.finish, Place.record]
  | .quoted content => simp [Spelling.place, Spelling.value, Place.finish, Place.record]

end Cells

namespace Line

variable {sep : Char}

theorem text_nil : text sep [] = [] :=
  rfl

theorem text_cons_cons (first second : Spelling) (others : Line) :
    text sep (first :: second :: others) = first.text ++ sep :: text sep (second :: others) := by
  rw [text, text, List.map_cons, List.map_cons, List.intercalate_cons_cons, List.append_assoc,
    List.singleton_append]

theorem text_singleton (cell : Spelling) : text sep [cell] = cell.text :=
  List.intercalate_singleton

theorem text_cons (first : Spelling) (others : Line) :
    text sep (first :: others) = first.text ++ others.flatMap fun cell => sep :: cell.text := by
  induction others generalizing first with
  | nil => rw [text_singleton, List.flatMap_nil, List.append_nil]
  | cons second others ih => rw [text_cons_cons, ih, List.flatMap_cons, List.cons_append]

/-- A line does not start with a line end. -/
theorem IsValid.not_lineEnd_head (hsep : IsSeparator sep) {line : Line} (hvalid : line.IsValid sep)
    {c : Char} (hhead : (line.text sep).head? = some c) : isLineEnd c = false := by
  cases line with
  | nil => cases hhead
  | cons first others =>
    have hfirst := hvalid.cells first List.mem_cons_self
    rw [text_cons] at hhead
    match first with
    | .quoted content =>
      obtain rfl : '"' = c := by simpa [Spelling.text, quoteCell] using hhead
      rfl
    | .plain (d :: text) =>
      obtain rfl : d = c := by simpa [Spelling.text] using hhead
      exact (hfirst.2 d List.mem_cons_self).2
    | .plain [] =>
      cases others with
      | nil => cases hhead
      | cons second others =>
        obtain rfl : sep = c := by simpa [Spelling.text] using hhead
        exact hsep.not_lineEnd

end Line

section Lines

variable {sep : Char}

/-- The text of the cells of a record is taken cell by cell. -/
theorem recordsFrom_cells (hsep : IsSeparator sep) {first : Spelling} {others : Line}
    (hvalid : ∀ cell ∈ first :: others, cell.IsValid sep) (done : List (List Char))
    (span : List Char) :
    ∃ (last : Spelling) (before : List (List Char)),
      before.reverse ++ [last.value] = done.reverse ++ Line.values (first :: others) ∧
      ∀ rest, recordsFrom sep (.cellStart done) span (Line.text sep (first :: others) ++ rest) =
        recordsFrom sep (last.place before) ((Line.text sep (first :: others)).reverse ++ span)
          rest := by
  induction others generalizing first done span with
  | nil =>
    refine ⟨first, done, rfl, fun rest => ?_⟩
    rw [Line.text_singleton, recordsFrom_spelling (hvalid first List.mem_cons_self)]
  | cons second others ih =>
    obtain ⟨last, before, hvalues, hrest⟩ :=
      ih (fun cell hcell => hvalid cell (List.mem_cons_of_mem first hcell)) (first.value :: done)
        (sep :: (first.text.reverse ++ span))
    refine ⟨last, before, ?_, fun rest => ?_⟩
    · rw [hvalues]
      simp [Line.values]
    · rw [Line.text_cons_cons, List.append_assoc,
        recordsFrom_spelling (hvalid first List.mem_cons_self), List.cons_append,
        recordsFrom_cons_of_next_none (next_place_separator hsep first done), hrest]
      simp

/-- Between two records, the text of a record is taken as at the start of a cell. -/
theorem recordsFrom_between_text (hsep : IsSeparator sep) {line : Line} (hvalid : line.IsValid sep)
    (hne : line ≠ []) (span rest : List Char) :
    recordsFrom sep .between span (line.text sep ++ rest) =
      recordsFrom sep (.cellStart []) span (line.text sep ++ rest) := by
  obtain ⟨c, text, htext⟩ := List.exists_cons_of_ne_nil (hvalid.text_ne hne)
  have hend : isLineEnd c = false := hvalid.not_lineEnd_head hsep (by rw [htext, List.head?_cons])
  have hsame : Place.next sep .between c = Place.next sep (.cellStart []) c := by
    simp [Place.next, hend]
  rw [htext, List.cons_append, recordsFrom, recordsFrom, hsame]

/-- A record is taken up to the character that ends it. -/
theorem recordsFrom_record (hsep : IsSeparator sep) {line : Line} (hvalid : line.IsValid sep)
    (hne : line ≠ []) {c : Char} (hend : isLineEnd c = true) (span rest : List Char) :
    recordsFrom sep .between span (line.text sep ++ c :: rest) =
      ⟨span.reverse ++ line.text sep ++ [c], line.values⟩ :: recordsFrom sep .between [] rest := by
  obtain ⟨first, others, rfl⟩ := List.exists_cons_of_ne_nil hne
  obtain ⟨last, before, hvalues, hrest⟩ := recordsFrom_cells hsep hvalid.cells [] span
  rw [recordsFrom_between_text hsep hvalid hne, hrest,
    recordsFrom_cons_of_next_some (next_place_lineEnd hsep last before hend), hvalues]
  simp

/-- The last record is taken up to the end of the text. -/
theorem recordsFrom_last_record (hsep : IsSeparator sep) {line : Line} (hvalid : line.IsValid sep)
    (hne : line ≠ []) (span : List Char) :
    recordsFrom sep .between span (line.text sep) =
      [⟨span.reverse ++ line.text sep, line.values⟩] := by
  obtain ⟨first, others, rfl⟩ := List.exists_cons_of_ne_nil hne
  obtain ⟨last, before, hvalues, hrest⟩ := recordsFrom_cells hsep hvalid.cells [] span
  have hempty := recordsFrom_between_text hsep hvalid hne span []
  rw [List.append_nil] at hempty
  have hend := hrest []
  rw [List.append_nil] at hend
  rw [hempty, hend, recordsFrom, finish_place, hvalues]
  simp

end Lines

end AddressIntake.Delimited

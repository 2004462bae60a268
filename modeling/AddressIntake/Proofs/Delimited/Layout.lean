import AddressIntake.Proofs.Delimited.Record
import Mathlib.Data.List.Chain
import Mathlib.Data.List.DropRight

namespace AddressIntake

theorem rdropWhile_append_cons {α : Type} {p : α → Bool} {x : α} (hx : p x = false)
    (before after : List α) :
    (before ++ x :: after).rdropWhile p = before ++ x :: after.rdropWhile p := by
  induction after using List.reverseRecOn with
  | nil => rw [List.rdropWhile_concat_neg _ _ _ (by simp [hx]), List.rdropWhile_nil]
  | append_singleton after y ih =>
    rw [← List.cons_append, ← List.append_assoc]
    by_cases hy : p y = true
    · rw [List.rdropWhile_concat_pos _ _ _ hy, List.rdropWhile_concat_pos _ _ _ hy, ih]
    · rw [List.rdropWhile_concat_neg _ _ _ hy, List.rdropWhile_concat_neg _ _ _ hy,
        List.append_assoc, List.cons_append]

namespace Delimited

/-- What ends a line: a line feed, a carriage return, or both. -/
inductive LineEnd where
  | lf
  | cr
  | crlf
  deriving DecidableEq

/-- The characters of a line end. -/
def LineEnd.text : LineEnd → List Char
  | lf => ['\n']
  | cr => ['\r']
  | crlf => ['\r', '\n']

/-- A text as lines: those that are ended, each with its line end, and what follows the last line
end. -/
structure Layout where
  ended : List (Line × LineEnd)
  last : Line

namespace Layout

/-- The lines of a text. -/
def lines (layout : Layout) : List Line :=
  layout.ended.map (·.1) ++ [layout.last]

/-- The characters of a text. -/
def text (sep : Char) (layout : Layout) : List Char :=
  layout.ended.flatMap (fun entry => entry.1.text sep ++ entry.2.text) ++ layout.last.text sep

/-- A line may follow another one, unless their line ends would be read as one: a line feed alone
after a carriage return. -/
def Follows (before after : Line × LineEnd) : Prop :=
  before.2 = .cr → after ≠ ([], .lf)

instance : DecidableRel Follows := fun before after =>
  inferInstanceAs (Decidable (before.2 = .cr → after ≠ ([], .lf)))

/-- The lines are those that the text is read as, and no byte order mark opens the text. -/
structure IsValid (sep : Char) (layout : Layout) : Prop where
  lines : ∀ line ∈ layout.lines, line.IsValid sep
  ends : layout.ended.IsChain Follows
  start : (layout.text sep).head? ≠ some Text.Encoding.byteOrderMark

theorem text_cons (sep : Char) (line : Line) (lineEnd : LineEnd) (ended : List (Line × LineEnd))
    (last : Line) :
    text sep ⟨(line, lineEnd) :: ended, last⟩ =
      line.text sep ++ (lineEnd.text ++ text sep ⟨ended, last⟩) := by
  simp [text]

theorem lines_cons (line : Line) (lineEnd : LineEnd) (ended : List (Line × LineEnd)) (last : Line) :
    lines ⟨(line, lineEnd) :: ended, last⟩ = line :: lines ⟨ended, last⟩ :=
  rfl

end Layout

section Skipped

theorem isLineEnd_of_mem_text {lineEnd : LineEnd} : ∀ c ∈ lineEnd.text, isLineEnd c = true := by
  cases lineEnd <;> simp [LineEnd.text, isLineEnd]

/-- A line end adds one line, unless it is a line feed that belongs to a carriage return. -/
theorem lineCount_append_text {ends : List Char} {lineEnd : LineEnd}
    (hapart : ends.getLast? = some '\r' → lineEnd ≠ .lf) :
    lineCount (ends ++ lineEnd.text) = lineCount ends + 1 := by
  induction ends using lineCount.induct with
  | case1 rest ih =>
    have hrest : rest.getLast? = some '\r' → lineEnd ≠ .lf := fun hlast => hapart (by
      rw [List.getLast?_cons_cons, List.getLast?_cons, hlast, Option.getD_some])
    rw [List.cons_append, List.cons_append, lineCount, lineCount, ih hrest]
  | case2 c rest hpair ih =>
    cases rest with
    | nil =>
      by_cases hreturn : c = '\r'
      · subst hreturn
        cases lineEnd with
        | lf => exact absurd rfl (hapart rfl)
        | cr => rfl
        | crlf => rfl
      · cases lineEnd <;> simp [LineEnd.text, lineCount, hreturn]
    | cons d rest =>
      have hrest : (d :: rest).getLast? = some '\r' → lineEnd ≠ .lf := fun hlast =>
        hapart (by rw [List.getLast?_cons_cons, hlast])
      rw [List.cons_append, lineCount, lineCount, ih hrest]
      · exact hpair
      · intro others hc hsame
        exact hpair rest hc (by rw [List.cons_append, List.cons.injEq] at hsame; rw [hsame.1])
  | case3 => cases lineEnd <;> rfl

theorem ownSpan_append {afterReturn : Bool} {span text : List Char}
    (happ : afterReturn = true → span = [] → text.head? ≠ some '\n') :
    ownSpan afterReturn (span ++ text) = ownSpan afterReturn span ++ text := by
  cases afterReturn with
  | false => rfl
  | true =>
    cases span with
    | cons c span => by_cases hc : c = '\n' <;> simp [ownSpan, hc]
    | nil =>
      cases text with
      | nil => rfl
      | cons c text =>
        have hc : c ≠ '\n' := by simpa using happ rfl rfl
        simp [ownSpan, hc]

theorem ownSpan_suffix (afterReturn : Bool) (span : List Char) :
    ownSpan afterReturn span <:+ span := by
  cases afterReturn with
  | false => exact List.suffix_rfl
  | true =>
    cases span with
    | nil => exact List.suffix_rfl
    | cons c span =>
      by_cases hc : c = '\n'
      · subst hc
        exact List.suffix_cons '\n' span
      · simp [ownSpan, hc]

variable {afterReturn : Bool} {span : List Char}

/-- The text of a record does not change how many empty lines stand before it. -/
theorem skippedLines_append_of_not_lineEnd {text : List Char}
    (hspan : ∀ c ∈ span, isLineEnd c = true)
    (htext : ∀ c, text.head? = some c → isLineEnd c = false) :
    skippedLines afterReturn (span ++ text) = skippedLines afterReturn span := by
  have hown : ∀ c ∈ ownSpan afterReturn span, isLineEnd c = true := fun c hc =>
    hspan c ((ownSpan_suffix afterReturn span).subset hc)
  have hstop : text.takeWhile isLineEnd = [] := by
    cases text with
    | nil => rfl
    | cons c text => exact List.takeWhile_cons_of_neg (by simp [htext c rfl])
  have happ : ownSpan afterReturn (span ++ text) = ownSpan afterReturn span ++ text :=
    ownSpan_append fun _ _ hfeed => by cases htext '\n' hfeed
  rw [skippedLines, skippedLines, happ, List.takeWhile_append_of_pos hown, hstop, List.append_nil,
    List.takeWhile_eq_self_iff.2 hown]

/-- Whether a line feed that comes next would belong to a carriage return before it: the last of the
characters taken so far, or the one at which the record before them ended. -/
def IsHanging (afterReturn : Bool) (span : List Char) : Prop :=
  span.getLast? = some '\r' ∨ afterReturn = true ∧ span = []

theorem eq_cr_of_isHanging_append {lineEnd : LineEnd}
    (hhanging : IsHanging afterReturn (span ++ lineEnd.text)) : lineEnd = .cr := by
  cases lineEnd <;> simp_all [IsHanging, LineEnd.text, List.getLast?_append]

/-- An empty line with its line end is one more empty line. -/
theorem skippedLines_append_text {lineEnd : LineEnd} (hspan : ∀ c ∈ span, isLineEnd c = true)
    (hapart : IsHanging afterReturn span → lineEnd ≠ .lf) :
    skippedLines afterReturn (span ++ lineEnd.text) = skippedLines afterReturn span + 1 := by
  have hown : ∀ c ∈ ownSpan afterReturn span, isLineEnd c = true := fun c hc =>
    hspan c ((ownSpan_suffix afterReturn span).subset hc)
  have happ : ownSpan afterReturn (span ++ lineEnd.text) =
      ownSpan afterReturn span ++ lineEnd.text := by
    refine ownSpan_append fun hreturn hempty => ?_
    have hne := hapart (.inr ⟨hreturn, hempty⟩)
    cases lineEnd with
    | lf => exact absurd rfl hne
    | cr | crlf => decide
  have hlast : (ownSpan afterReturn span).getLast? = some '\r' → lineEnd ≠ .lf := by
    intro hlast
    obtain ⟨front, hfront⟩ := ownSpan_suffix afterReturn span
    exact hapart (.inl (by rw [← hfront, List.getLast?_append, hlast, Option.some_or]))
  rw [skippedLines, skippedLines, happ, List.takeWhile_append_of_pos hown,
    List.takeWhile_eq_self_iff.2 isLineEnd_of_mem_text, List.takeWhile_eq_self_iff.2 hown,
    lineCount_append_text hlast]

end Skipped

section Rows

variable {sep : Char}

theorem values_eq_nil_iff {line : Line} : line.values = [] ↔ line = [] :=
  List.map_eq_nil_iff

/-- The first character of a line end ends a record. What is left of the line end counts for no empty
line, and only a carriage return alone could go on with a line feed. -/
theorem LineEnd.exists_cons (lineEnd : LineEnd) :
    ∃ (c : Char) (more : List Char), lineEnd.text = c :: more ∧ isLineEnd c = true ∧
      (∀ d ∈ more, isLineEnd d = true) ∧ skippedLines (c == '\r') more = 0 ∧
      (IsHanging (c == '\r') more → lineEnd = .cr) := by
  cases lineEnd with
  | lf => exact ⟨'\n', [], rfl, rfl, by simp, rfl, by simp [IsHanging]⟩
  | cr => exact ⟨'\r', [], rfl, rfl, by simp, rfl, fun _ => rfl⟩
  | crlf => exact ⟨'\r', ['\n'], rfl, rfl, by simp [isLineEnd], rfl, by simp [IsHanging]⟩

/-- The rows of the records of lines, after characters that were taken for the first of them. -/
theorem rowsOf_recordsFrom (hsep : IsSeparator sep) {ended : List (Line × LineEnd)} {last : Line}
    (hlines : ∀ line ∈ Layout.lines ⟨ended, last⟩, line.IsValid sep)
    (hends : ended.IsChain Layout.Follows) {afterReturn : Bool} {span : List Char}
    (hspan : ∀ c ∈ span, isLineEnd c = true)
    (hfirst : ∀ entry ∈ ended.head?, IsHanging afterReturn span → entry ≠ ([], .lf)) :
    rowsOf afterReturn (recordsFrom sep .between span.reverse (Layout.text sep ⟨ended, last⟩)) =
      (List.replicate (skippedLines afterReturn span) [] ++
        (Layout.lines ⟨ended, last⟩).map Line.values).rdropWhile List.isEmpty := by
  induction ended generalizing afterReturn span with
  | nil =>
    have hvalid : last.IsValid sep := hlines last (by simp [Layout.lines])
    by_cases hlast : last = []
    · subst hlast
      have hall : (List.replicate (skippedLines afterReturn span) [] ++
          (Layout.lines ⟨[], []⟩).map Line.values).rdropWhile List.isEmpty = [] := by
        rw [List.rdropWhile_eq_nil_iff]
        intro row hrow
        rcases List.mem_append.1 hrow with hrow | hrow
        · rw [List.eq_of_mem_replicate hrow]
          rfl
        · rw [List.mem_singleton.1 hrow]
          rfl
      rw [hall]
      rfl
    · have htext : Layout.text sep ⟨[], last⟩ = last.text sep := rfl
      rw [htext, recordsFrom_last_record hsep hvalid hlast, rowsOf, rowsOf, List.reverse_reverse,
        skippedLines_append_of_not_lineEnd hspan fun c => hvalid.not_lineEnd_head hsep]
      simp [Layout.lines, List.rdropWhile_concat_neg, values_eq_nil_iff, hlast]
  | cons entry ended ih =>
    obtain ⟨line, lineEnd⟩ := entry
    have hvalid : line.IsValid sep := hlines line (by simp [Layout.lines])
    have hrest : ∀ line ∈ Layout.lines ⟨ended, last⟩, line.IsValid sep := fun other hother =>
      hlines other (List.mem_cons_of_mem line hother)
    obtain ⟨hnext, hrestEnds⟩ := List.isChain_cons.1 hends
    rw [Layout.text_cons]
    by_cases hline : line = []
    · subst hline
      have hne : IsHanging afterReturn span → lineEnd ≠ .lf := by
        rintro hhanging rfl
        exact hfirst _ rfl hhanging rfl
      have htaken : ∀ c ∈ span ++ lineEnd.text, isLineEnd c = true := by
        intro c hc
        exact (List.mem_append.1 hc).elim (hspan c) (isLineEnd_of_mem_text c)
      rw [Line.text_nil, List.nil_append, recordsFrom_between_lineEnds isLineEnd_of_mem_text,
        ← List.reverse_append, ih hrest hrestEnds htaken, skippedLines_append_text hspan hne,
        List.replicate_succ', List.append_assoc]
      · rfl
      · intro next hmem hhanging
        exact hnext next hmem (eq_cr_of_isHanging_append hhanging)
    · obtain ⟨c, more, htext, hend, hmore, hnone, hhanging⟩ := lineEnd.exists_cons
      have hstart : ∀ d, (line.text sep ++ [c]).head? = some d → isLineEnd d = false := by
        intro d hd
        rw [List.head?_append_of_ne_nil _ (hvalid.text_ne hline)] at hd
        exact hvalid.not_lineEnd_head hsep hd
      have hlast : ((span ++ (line.text sep ++ [c])).getLast? == some '\r') = (c == '\r') := by
        simp [List.getLast?_append]
      have hfilled : line.values.isEmpty = false := by
        simpa [List.isEmpty_eq_false_iff, values_eq_nil_iff] using hline
      have hrows := ih hrest hrestEnds hmore fun next hmem hopen =>
        hnext next hmem (hhanging hopen)
      rw [hnone, List.replicate_zero, List.nil_append] at hrows
      rw [htext, List.cons_append, recordsFrom_record hsep hvalid hline hend, List.reverse_reverse,
        rowsOf, List.append_assoc, skippedLines_append_of_not_lineEnd hspan hstart, hlast,
        Layout.lines_cons, List.map_cons, rdropWhile_append_cons hfilled, ← hrows,
        recordsFrom_between_lineEnds hmore, List.append_nil]

/-- The rows of a text are its lines up to the last record, each in its place. -/
theorem Layout.IsValid.read_text (hsep : IsSeparator sep) {layout : Layout}
    (hvalid : layout.IsValid sep) :
    read sep (layout.text sep) = (layout.lines.rdropWhile List.isEmpty).map Line.row := by
  have hrows : rowsOf false (recordsFrom sep .between [] (layout.text sep)) =
      (List.replicate (skippedLines false []) [] ++ layout.lines.map Line.values).rdropWhile
        List.isEmpty :=
    rowsOf_recordsFrom hsep hvalid.lines hvalid.ends (List.forall_mem_nil _)
      fun _ _ hhanging => by simp [IsHanging] at hhanging
  have hvalues : (layout.lines.map Line.values).rdropWhile List.isEmpty =
      (layout.lines.rdropWhile List.isEmpty).map Line.values := by
    have hempty : List.isEmpty ∘ Line.values = List.isEmpty := by
      funext line
      cases line <;> rfl
    rw [List.rdropWhile, ← List.map_reverse, List.dropWhile_map, hempty, ← List.map_reverse]
    rfl
  have hnone : skippedLines false [] = 0 := rfl
  rw [hnone, List.replicate_zero, List.nil_append] at hrows
  rw [read, records_of_head_ne hvalid.start]
  refine (congrArg _ (hrows.trans hvalues)).trans ?_
  rw [List.map_map]
  rfl

end Rows

end Delimited

end AddressIntake

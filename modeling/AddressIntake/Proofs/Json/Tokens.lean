import AddressIntake.Proofs.Json.Decimal
import AddressIntake.Proofs.Json.Quote

namespace AddressIntake.Json

mutual

/-- A value whose numbers are all integers of 64-bit words. -/
def IsPlain : Json → Prop
  | .int n => IsWord n
  | .real _ => False
  | .arr items => AllPlain items
  | .obj entries => AllEntriesPlain entries
  | .null | .bool _ | .str _ => True

/-- Elements that are all plain. -/
def AllPlain : List Json → Prop
  | [] => True
  | item :: rest => IsPlain item ∧ AllPlain rest

/-- Entries whose values are all plain. -/
def AllEntriesPlain : List (String × Json) → Prop
  | [] => True
  | (_, value) :: rest => IsPlain value ∧ AllEntriesPlain rest

end

theorem isPlain_ofOption {α : Type} {write : α → Json} {value : Option α}
    (hplain : ∀ a ∈ value, (write a).IsPlain) : (Json.ofOption write value).IsPlain := by
  cases value with
  | none => rw [Json.ofOption, IsPlain]; trivial
  | some a => exact hplain a rfl

theorem isPlain_ofOption_str (value : Option String) : (Json.ofOption .str value).IsPlain :=
  isPlain_ofOption fun s _ => by rw [IsPlain]; trivial

theorem isPlain_ofList {α : Type} {write : α → Json} {items : List α}
    (hplain : ∀ a ∈ items, (write a).IsPlain) : (Json.ofList write items).IsPlain := by
  rw [Json.ofList, IsPlain]
  induction items with
  | nil => trivial
  | cons item items ih =>
    exact ⟨hplain item List.mem_cons_self, ih fun a ha => hplain a (List.mem_cons_of_mem item ha)⟩

mutual

/-- The tokens of a value. -/
def spell : Json → List Token
  | .null => [.null]
  | .bool b => [.bool b]
  | .int n => [.int n]
  | .real numeral => [.real numeral]
  | .str s => [.str s]
  | .arr [] => [.openList, .closeList]
  | .arr (item :: rest) => .openList :: (spell item ++ spellItems rest ++ [.closeList])
  | .obj [] => [.openObject, .closeObject]
  | .obj ((key, value) :: rest) =>
    .openObject :: .str key :: .colon :: (spell value ++ spellEntries rest ++ [.closeObject])

/-- The tokens of the elements of a list after its first one. -/
def spellItems : List Json → List Token
  | [] => []
  | item :: rest => .comma :: (spell item ++ spellItems rest)

/-- The tokens of the entries of an object after its first one. -/
def spellEntries : List (String × Json) → List Token
  | [] => []
  | (key, value) :: rest => .comma :: .str key :: .colon :: (spell value ++ spellEntries rest)

end

/-- A layout that adds nothing but blanks to the marks between parts. -/
structure Layout.IsSpaced (layout : Layout) : Prop where
  first : ∀ level, (layout.first level).all isGap = true
  between : ∀ level, ∃ gaps, layout.between level = ',' :: gaps ∧ gaps.all isGap = true
  last : ∀ level, (layout.last level).all isGap = true
  colon : ∃ gaps, layout.colon = ':' :: gaps ∧ gaps.all isGap = true

theorem isSpaced_compact : Layout.compact.IsSpaced :=
  ⟨fun _ => rfl, fun _ => ⟨[], rfl, rfl⟩, fun _ => rfl, ⟨[], rfl, rfl⟩⟩

theorem all_isGap_newline (level : Nat) : (newline level).all isGap = true := by
  rw [newline, List.all_cons, List.all_replicate]
  simp [isGap]

theorem isSpaced_indented : Layout.indented.IsSpaced :=
  ⟨fun level => all_isGap_newline (level + 1), fun level => ⟨_, rfl, all_isGap_newline (level + 1)⟩,
    all_isGap_newline, ⟨[' '], rfl, rfl⟩⟩

theorem tokens_gaps {gaps : List Char} (hgaps : gaps.all isGap = true) (rest : List Char) :
    tokens (gaps ++ rest) = tokens rest := by
  induction gaps with
  | nil => rfl
  | cons c gaps ih =>
    rw [List.all_cons, Bool.and_eq_true] at hgaps
    rw [List.cons_append, tokens, if_pos hgaps.1, ih hgaps.2]

/-- The first token of a text that does not start with a blank. -/
theorem tokens_of_readToken {c : Char} {rest after : List Char} {token : Token}
    (hgap : isGap c = false) (hread : readToken (c :: rest) = some (token, after)) :
    tokens (c :: rest) = token :: tokens after := by
  rw [tokens, if_neg (by simp [hgap])]
  split
  · next hnone =>
    rw [hread] at hnone
    cases hnone
  · next token' after' hsome =>
    rw [hread] at hsome
    cases hsome
    rfl

theorem tokens_quote (s : String) (rest : List Char) :
    tokens (quote s ++ rest) = .str s :: tokens rest :=
  tokens_of_readToken rfl (readToken_quote s rest)

theorem tokens_decimal {n : Int} (hword : IsWord n) {rest : List Char} (hrest : EndsNumeral rest) :
    tokens (decimal n ++ rest) = .int n :: tokens rest := by
  have hread := readToken_decimal hword hrest
  obtain ⟨c, cs, hcs⟩ : ∃ c cs, decimal n = c :: cs := by
    by_cases hnegative : n < 0
    · exact ⟨'-', _, if_pos hnegative⟩
    · rw [decimal, if_neg hnegative]
      exact List.exists_cons_of_ne_nil Nat.toDigits_ne_nil
  have hc : isNumeralChar c = true := isNumeralChar_of_mem_decimal (n := n) (by simp [hcs])
  have hgap : isGap c = false := by
    by_cases hblank : isGap c = true
    · simp only [isGap, Bool.or_eq_true, beq_iff_eq] at hblank
      rcases hblank with ((rfl | rfl) | rfl) | rfl <;> cases hc
    · simpa using hblank
  rw [hcs, List.cons_append] at hread ⊢
  exact tokens_of_readToken hgap hread

/-- Blanks and a mark do not go on with a numeral. -/
theorem endsNumeral_gaps {gaps : List Char} (hgaps : gaps.all isGap = true) {mark : Char}
    (hmark : isNumeralChar mark = false) (rest : List Char) :
    EndsNumeral (gaps ++ mark :: rest) := by
  intro c hc
  cases gaps with
  | nil =>
    cases hc
    exact hmark
  | cons gap gaps =>
    cases hc
    rw [List.all_cons, Bool.and_eq_true] at hgaps
    have hgap := hgaps.1
    simp only [isGap, Bool.or_eq_true, beq_iff_eq] at hgap
    rcases hgap with ((rfl | rfl) | rfl) | rfl <;> rfl

theorem endsNumeral_printItems {layout : Layout} (hlayout : layout.IsSpaced) (level : Nat)
    (items : List Json) {rest : List Char} (hrest : EndsNumeral rest) :
    EndsNumeral (printItems layout level items ++ rest) := by
  cases items with
  | nil => exact hrest
  | cons item items =>
    obtain ⟨gaps, hbetween, _⟩ := hlayout.between level
    intro c hc
    rw [printItems, hbetween] at hc
    cases hc
    rfl

theorem endsNumeral_printEntries {layout : Layout} (hlayout : layout.IsSpaced) (level : Nat)
    (entries : List (String × Json)) {rest : List Char} (hrest : EndsNumeral rest) :
    EndsNumeral (printEntries layout level entries ++ rest) := by
  cases entries with
  | nil => exact hrest
  | cons entry entries =>
    obtain ⟨gaps, hbetween, _⟩ := hlayout.between level
    intro c hc
    rw [printEntries, hbetween] at hc
    cases hc
    rfl

mutual

/-- The tokens of a printed value are those of the value, if no numeral goes on behind it. -/
theorem tokens_print {layout : Layout} (hlayout : layout.IsSpaced) (level : Nat) (json : Json)
    (hplain : json.IsPlain) {rest : List Char} (hrest : EndsNumeral rest) :
    tokens (print layout level json ++ rest) = spell json ++ tokens rest := by
  match json, hplain with
  | .null, _ => exact tokens_of_readToken rfl rfl
  | .bool true, _ => exact tokens_of_readToken rfl rfl
  | .bool false, _ => exact tokens_of_readToken rfl rfl
  | .int n, hword => exact tokens_decimal hword hrest
  | .str s, _ => exact tokens_quote s rest
  | .arr [], _ =>
    rw [print, spell]
    exact (tokens_of_readToken rfl rfl).trans (congrArg _ (tokens_of_readToken rfl rfl))
  | .obj [], _ =>
    rw [print, spell]
    exact (tokens_of_readToken rfl rfl).trans (congrArg _ (tokens_of_readToken rfl rfl))
  | .arr (item :: items), ⟨hitem, hitems⟩ =>
    have hclose : EndsNumeral (layout.last level ++ ']' :: rest) :=
      endsNumeral_gaps (hlayout.last level) rfl rest
    have hinside := tokens_print hlayout (level + 1) item hitem
      (endsNumeral_printItems hlayout level items hclose)
    have hothers := tokens_printItems hlayout level items hitems hclose
    have hopen (cs : List Char) : tokens ('[' :: cs) = .openList :: tokens cs :=
      tokens_of_readToken rfl rfl
    have hend : tokens (']' :: rest) = .closeList :: tokens rest := tokens_of_readToken rfl rfl
    rw [print, spell]
    simp only [List.cons_append, List.append_assoc, List.nil_append]
    rw [hopen, tokens_gaps (hlayout.first level), hinside, hothers,
      tokens_gaps (hlayout.last level), hend]
  | .obj ((key, value) :: entries), ⟨hvalue, hentries⟩ =>
    obtain ⟨gaps, hcolon, hgaps⟩ := hlayout.colon
    have hclose : EndsNumeral (layout.last level ++ '}' :: rest) :=
      endsNumeral_gaps (hlayout.last level) rfl rest
    have hinside := tokens_print hlayout (level + 1) value hvalue
      (endsNumeral_printEntries hlayout level entries hclose)
    have hothers := tokens_printEntries hlayout level entries hentries hclose
    have hopen (cs : List Char) : tokens ('{' :: cs) = .openObject :: tokens cs :=
      tokens_of_readToken rfl rfl
    have hmark (cs : List Char) : tokens (':' :: cs) = .colon :: tokens cs :=
      tokens_of_readToken rfl rfl
    have hend : tokens ('}' :: rest) = .closeObject :: tokens rest := tokens_of_readToken rfl rfl
    rw [print, spell, hcolon]
    simp only [List.cons_append, List.append_assoc, List.nil_append]
    rw [hopen, tokens_gaps (hlayout.first level), tokens_quote, hmark, tokens_gaps hgaps, hinside,
      hothers, tokens_gaps (hlayout.last level), hend]

theorem tokens_printItems {layout : Layout} (hlayout : layout.IsSpaced) (level : Nat)
    (items : List Json) (hplain : AllPlain items) {rest : List Char} (hrest : EndsNumeral rest) :
    tokens (printItems layout level items ++ rest) = spellItems items ++ tokens rest := by
  match items, hplain with
  | [], _ => rfl
  | item :: items, ⟨hitem, hitems⟩ =>
    obtain ⟨gaps, hbetween, hgaps⟩ := hlayout.between level
    have hinside := tokens_print hlayout (level + 1) item hitem
      (endsNumeral_printItems hlayout level items hrest)
    have hothers := tokens_printItems hlayout level items hitems hrest
    have hmark (cs : List Char) : tokens (',' :: cs) = .comma :: tokens cs :=
      tokens_of_readToken rfl rfl
    rw [printItems, spellItems, hbetween]
    simp only [List.cons_append, List.append_assoc]
    rw [hmark, tokens_gaps hgaps, hinside, hothers]

theorem tokens_printEntries {layout : Layout} (hlayout : layout.IsSpaced) (level : Nat)
    (entries : List (String × Json)) (hplain : AllEntriesPlain entries) {rest : List Char}
    (hrest : EndsNumeral rest) :
    tokens (printEntries layout level entries ++ rest) = spellEntries entries ++ tokens rest := by
  match entries, hplain with
  | [], _ => rfl
  | (key, value) :: entries, ⟨hvalue, hentries⟩ =>
    obtain ⟨gaps, hbetween, hgaps⟩ := hlayout.between level
    obtain ⟨spaces, hcolon, hspaces⟩ := hlayout.colon
    have hinside := tokens_print hlayout (level + 1) value hvalue
      (endsNumeral_printEntries hlayout level entries hrest)
    have hothers := tokens_printEntries hlayout level entries hentries hrest
    have hcomma (cs : List Char) : tokens (',' :: cs) = .comma :: tokens cs :=
      tokens_of_readToken rfl rfl
    have hmark (cs : List Char) : tokens (':' :: cs) = .colon :: tokens cs :=
      tokens_of_readToken rfl rfl
    rw [printEntries, spellEntries, hbetween, hcolon]
    simp only [List.cons_append, List.append_assoc]
    rw [hcomma, tokens_gaps hgaps, tokens_quote, hmark, tokens_gaps hspaces, hinside, hothers]

end

end AddressIntake.Json

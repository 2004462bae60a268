import AddressIntake.Proofs.Json.Tokens

namespace AddressIntake.Json

/-- No value starts with the end of a list. -/
theorem run_firstItem_spell (json : Json) (stack : List Frame) (rest : List Token) :
    Expect.run (.firstItem stack) (spell json ++ rest) =
      Expect.run (.value (.items [] :: stack)) (spell json ++ rest) := by
  rcases json with _ | b | n | numeral | s | items | entries
  · rfl
  · rfl
  · rfl
  · rfl
  · rfl
  · cases items <;> rw [spell] <;> rfl
  · rcases entries with _ | ⟨⟨key, value⟩, entries⟩ <;> rw [spell] <;> rfl

mutual

/-- The tokens of a value are read as this value. -/
theorem run_spell (json : Json) (stack : List Frame) (rest : List Token) :
    Expect.run (.value stack) (spell json ++ rest) = Expect.run (.after json.node stack) rest := by
  match json with
  | .null => rw [spell, node]; rfl
  | .bool b => rw [spell, node]; rfl
  | .int n => rw [spell, node]; rfl
  | .real numeral => rw [spell, node]; rfl
  | .str s => rw [spell, node]; rfl
  | .arr [] => rw [spell, node, nodes]; rfl
  | .obj [] => rw [spell, node, entryNodes]; rfl
  | .arr (item :: items) =>
    have hitem := run_spell item (.items [] :: stack) (spellItems items ++ .closeList :: rest)
    have hitems := run_spellItems items item.node [] stack rest
    rw [spell, node, nodes, List.cons_append, Expect.run]
    simp only [Expect.step, Expect.start, List.append_assoc, List.cons_append, List.nil_append]
    rw [run_firstItem_spell, hitem, hitems]
    rfl
  | .obj ((key, value) :: entries) =>
    have hvalue := run_spell value (.entries [] (some key) :: stack)
      (spellEntries entries ++ .closeObject :: rest)
    have hentries := run_spellEntries entries value.node [] (some key) stack rest
    rw [spell, node, entryNodes, List.cons_append, Expect.run]
    simp only [Expect.step, Expect.start, List.append_assoc, List.cons_append, List.nil_append,
      Expect.run]
    rw [hvalue, hentries]
    rfl

theorem run_spellItems (items : List Json) (value : Node) (done : List Node) (stack : List Frame)
    (rest : List Token) :
    Expect.run (.after value (.items done :: stack)) (spellItems items ++ .closeList :: rest) =
      Expect.run (.after (.arr ((value :: done).reverse ++ nodes items) true) stack) rest := by
  match items with
  | [] => rw [spellItems, nodes, List.append_nil]; rfl
  | item :: items =>
    have hitem := run_spell item (.items (value :: done) :: stack)
      (spellItems items ++ .closeList :: rest)
    have hitems := run_spellItems items item.node (value :: done) stack rest
    rw [spellItems, nodes, List.cons_append, Expect.run]
    simp only [Expect.step, List.append_assoc]
    rw [hitem, hitems, List.reverse_cons (a := item.node), List.append_assoc]
    rfl

theorem run_spellEntries (entries : List (String × Json)) (value : Node)
    (done : List (Option String × Node)) (key : Option String) (stack : List Frame)
    (rest : List Token) :
    Expect.run (.after value (.entries done key :: stack))
        (spellEntries entries ++ .closeObject :: rest) =
      Expect.run (.after (.obj (((key, value) :: done).reverse ++ entryNodes entries) true) stack)
        rest := by
  match entries with
  | [] => rw [spellEntries, entryNodes, List.append_nil]; rfl
  | (name, next) :: entries =>
    have hnext := run_spell next (.entries ((key, value) :: done) (some name) :: stack)
      (spellEntries entries ++ .closeObject :: rest)
    have hentries := run_spellEntries entries next.node ((key, value) :: done) (some name) stack rest
    rw [spellEntries, entryNodes, List.cons_append, Expect.run]
    simp only [Expect.step, List.append_assoc, List.cons_append, Expect.run]
    rw [hnext, hentries, List.reverse_cons (a := (some name, next.node)), List.append_assoc]
    rfl

end

/-- A printed value is the content of its text. -/
theorem ofText_print {layout : Layout} (hlayout : layout.IsSpaced) (level : Nat) {json : Json}
    (hplain : json.IsPlain) : Content.ofText (print layout level json) = ⟨json.node, true⟩ := by
  have hend : EndsNumeral [] := fun c hc => by cases hc
  have htokens := tokens_print hlayout level json hplain hend
  have hnone : tokens [] = [] := by rw [tokens]
  rw [List.append_nil, hnone] at htokens
  rw [Content.ofText, htokens, run_spell]
  rfl

/-- What is taken out of a printed value is what is taken out of the value. -/
theorem decode_print {α : Type} (read : Decoder α) {layout : Layout} (hlayout : layout.IsSpaced)
    (level : Nat) {json : Json} (hplain : json.IsPlain) :
    decode read (print layout level json) = read json.node := by
  rw [decode, ofText_print hlayout level hplain]
  cases read json.node <;> rfl

end AddressIntake.Json

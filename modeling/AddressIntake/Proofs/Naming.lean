import AddressIntake.Proofs.Sheet
import AddressIntake.Proofs.Spelling

namespace AddressIntake

namespace Field

/-- The normal forms of the headers that name a field. -/
def names (field : Field) : List String :=
  [Header.normalize field.label, field.key]

/-- Whether a header names a field. -/
def IsNamedBy (field : Field) (header : String) : Prop :=
  Header.normalize header ∈ field.names

instance (field : Field) (header : String) : Decidable (field.IsNamedBy header) :=
  inferInstanceAs (Decidable (_ ∈ _))

end Field

namespace Schema

theorem eq_of_mem_names (kind : AddressKind) : ∀ field ∈ fields kind, ∀ name ∈ field.names,
    ∀ other ∈ fields kind, name ∈ other.names → other = field :=
  fields_cases (by decide +kernel) (by decide +kernel) kind

theorem ne_empty_of_mem_names (kind : AddressKind) :
    ∀ field ∈ fields kind, ∀ name ∈ field.names, name ≠ "" :=
  forall_mem_fields (by decide +kernel) kind

/-- The key of a field is compared as it is. -/
theorem normalize_key (kind : AddressKind) :
    ∀ field ∈ fields kind, Header.normalize field.key = field.key :=
  forall_mem_fields (by decide +kernel) kind

/-- The characters of a label or of a key are not those of a mark. -/
theorem all_isNameChar (kind : AddressKind) :
    ∀ field ∈ fields kind, field.label.toList.all Header.isNameChar = true ∧
      field.key.toList.all Header.isNameChar = true :=
  forall_mem_fields (by decide) kind

end Schema

namespace Field

variable {kind : AddressKind} {field : Field} {header : String}

/-- Every spelling of the label or of the key of a field names the field. -/
theorem isNamedBy_of_spells (hmem : field ∈ Schema.fields kind)
    (hspells : Header.Spells field.label.toList header.toList ∨
      Header.Spells field.key.toList header.toList) : field.IsNamedBy header := by
  obtain ⟨hlabel, hkey⟩ := Schema.all_isNameChar kind field hmem
  rw [IsNamedBy, names]
  rcases hspells with hspells | hspells
  · rw [Header.normalize_eq_of_spells hlabel hspells]
    exact List.mem_cons_self
  · rw [Header.normalize_eq_of_spells hkey hspells, Schema.normalize_key kind field hmem]
    exact List.mem_cons_of_mem _ List.mem_cons_self

theorem IsNamedBy.eq {other : Field} (hmem : field ∈ Schema.fields kind)
    (hother : other ∈ Schema.fields kind) (hfield : field.IsNamedBy header)
    (hnamed : other.IsNamedBy header) : other = field :=
  Schema.eq_of_mem_names kind field hmem _ hfield other hother hnamed

end Field

namespace Columns

/-- The key of the field that a header names. -/
def named? (fields : List Field) (header : String) : Option String :=
  if (Header.normalize header).isEmpty then none else keyNamed? fields (Header.normalize header)

section Fields

variable {fields : List Field} {headers : List String} {key : String}

theorem named?_eq_some_iff {header : String} :
    named? fields header = some key ↔ Names fields header key := by
  rw [named?, Names]
  cases (Header.normalize header).isEmpty <;> simp

/-- One more column holds the field that its header names, unless another column does. -/
theorem keys_push (fields : List Field) (columns : Columns) (header : String) :
    (columns.push fields header).keys =
      columns.keys ++ [(named? fields header).filter (!columns.isMapped ·)] := by
  rw [push, named?]
  split
  · simp
  · split
    · next hfound => rw [hfound]
    · next hnone => rw [hnone]

theorem ofHeaders_append (fields : List Field) (headers : List String) (header : String) :
    ofHeaders fields (headers ++ [header]) = (ofHeaders fields headers).push fields header := by
  rw [ofHeaders, List.foldl_append, ← ofHeaders, List.foldl_cons, List.foldl_nil]

theorem length_keys_ofHeaders (fields : List Field) (headers : List String) :
    (ofHeaders fields headers).keys.length = headers.length := by
  induction headers using List.reverseRecOn with
  | nil => rfl
  | append_singleton headers header ih =>
    rw [ofHeaders_append, keys_push, List.length_append, List.length_append, ih,
      List.length_singleton, List.length_singleton]

/-- A field has a column exactly if some header names it. -/
theorem isMapped_ofHeaders_iff :
    (ofHeaders fields headers).isMapped key = true ↔ ∃ header ∈ headers, Names fields header key := by
  induction headers using List.reverseRecOn with
  | nil => simp [ofHeaders, empty, isMapped]
  | append_singleton headers header ih =>
    have hpush : ((ofHeaders fields headers).push fields header).isMapped key = true ↔
        (ofHeaders fields headers).isMapped key = true ∨ Names fields header key := by
      rw [isMapped, keys_push, List.contains_iff_mem, List.mem_append, List.mem_singleton, eq_comm,
        Option.filter_eq_some_iff, named?_eq_some_iff, ← List.contains_iff_mem, ← isMapped]
      cases (ofHeaders fields headers).isMapped key <;> simp
    rw [ofHeaders_append, hpush, ih]
    simp [or_and_right, exists_or]

/-- The first column whose header names a field holds the field, and no other column does. -/
theorem getElem?_keys_ofHeaders_iff {i : Nat} :
    (ofHeaders fields headers).keys[i]? = some (some key) ↔
      ∃ header, headers[i]? = some header ∧ Names fields header key ∧
        ∀ earlier ∈ headers.take i, ¬ Names fields earlier key := by
  induction headers using List.reverseRecOn with
  | nil => simp [ofHeaders, empty]
  | append_singleton headers header ih =>
    have hlength := length_keys_ofHeaders fields headers
    rw [ofHeaders_append, keys_push]
    rcases lt_trichotomy i headers.length with hbefore | rfl | hbeyond
    · rw [List.getElem?_append_left (by omega), List.getElem?_append_left hbefore,
        List.take_append_of_le_length hbefore.le, ih]
    · -- The last column holds the field if none of the headers before names it.
      rw [← hlength, List.getElem?_concat_length, hlength, List.getElem?_concat_length,
        List.take_left, Option.some_inj, Option.filter_eq_some_iff, named?_eq_some_iff]
      have hfresh : (!(ofHeaders fields headers).isMapped key) = true ↔
          ∀ earlier ∈ headers, ¬ Names fields earlier key := by
        rw [Bool.not_eq_true', ← Bool.not_eq_true, isMapped_ofHeaders_iff]
        simp
      simp [hfresh]
    · rw [List.getElem?_eq_none (by simp; omega), List.getElem?_eq_none (by simp; omega)]
      simp

end Fields

variable {kind : AddressKind}

/-- Of the fields of a kind a header names one at most, so that no field hides another. -/
theorem names_iff {header key : String} :
    Names (Schema.fields kind) header key ↔
      ∃ field ∈ Schema.fields kind, field.key = key ∧ field.IsNamedBy header := by
  have hmatches (field : Field) :
      (Header.normalize field.label == Header.normalize header ||
        field.key == Header.normalize header) = true ↔ field.IsNamedBy header := by
    rw [Field.IsNamedBy, Field.names, Bool.or_eq_true, beq_iff_eq, beq_iff_eq, List.mem_cons,
      List.mem_singleton, eq_comm, @eq_comm _ field.key]
  rw [Names, keyNamed?, Option.map_eq_some_iff]
  constructor
  · rintro ⟨_, field, hfound, hkey⟩
    have hnamed := List.find?_some hfound
    exact ⟨field, List.mem_of_find?_eq_some hfound, hkey, (hmatches field).1 hnamed⟩
  · rintro ⟨field, hmem, hkey, hnamed⟩
    refine ⟨?_, field, ?_, hkey⟩
    · rw [← Bool.not_eq_true, String.isEmpty_iff]
      exact Schema.ne_empty_of_mem_names kind field hmem _ hnamed
    · have hsome : ((Schema.fields kind).find? fun field =>
          Header.normalize field.label == Header.normalize header ||
            field.key == Header.normalize header).isSome = true :=
        List.find?_isSome.2 ⟨field, hmem, (hmatches field).2 hnamed⟩
      obtain ⟨other, hother⟩ := Option.isSome_iff_exists.1 hsome
      have hnamedOther := List.find?_some hother
      have hsame : other = field := hnamed.eq hmem (List.mem_of_find?_eq_some hother)
        ((hmatches other).1 hnamedOther)
      rw [hother, hsame]

theorem getElem?_keys_ofHeaders_fields_iff {headers : List String} {i : Nat} {key : String} :
    (ofHeaders (Schema.fields kind) headers).keys[i]? = some (some key) ↔
      ∃ field ∈ Schema.fields kind, field.key = key ∧ ∃ header, headers[i]? = some header ∧
        field.IsNamedBy header ∧ ∀ earlier ∈ headers.take i, ¬ field.IsNamedBy earlier := by
  have hkeys {field other : Field} (hmem : field ∈ Schema.fields kind)
      (hother : other ∈ Schema.fields kind) (hkey : other.key = field.key) : other = field :=
    Schema.eq_of_mem_names kind field hmem field.key (by simp [Field.names]) other hother
      (by simp [Field.names, hkey])
  simp only [getElem?_keys_ofHeaders_iff, names_iff]
  constructor
  · rintro ⟨header, hheader, ⟨field, hmem, rfl, hnamed⟩, hfirst⟩
    exact ⟨field, hmem, rfl, header, hheader, hnamed, fun earlier hearlier hnamed =>
      hfirst earlier hearlier ⟨field, hmem, rfl, hnamed⟩⟩
  · rintro ⟨field, hmem, rfl, header, hheader, hnamed, hfirst⟩
    refine ⟨header, hheader, ⟨field, hmem, rfl, hnamed⟩, ?_⟩
    rintro earlier hearlier ⟨other, hother, hkey, hearlierNamed⟩
    rw [hkeys hmem hother hkey] at hearlierNamed
    exact hfirst earlier hearlier hearlierNamed

/-- Every header of a file has its column, and each field is held by the first column whose header
names it and by no other. All spellings of the label and of the key of a field name it and no other
field of the kind. The rows under the columns hold exactly the keys of the columns with a field, each
with the cell of its column, or the empty text in a row that ends before it. -/
theorem ofHeaders_recognizes_every_spelling (kind : AddressKind) (headers : List String) :
    (ofHeaders (Schema.fields kind) headers).keys.length = headers.length ∧
      (ofHeaders (Schema.fields kind) headers).held.Nodup ∧
      (∀ (i : Nat) (key : String),
        (ofHeaders (Schema.fields kind) headers).keys[i]? = some (some key) ↔
          ∃ field ∈ Schema.fields kind, field.key = key ∧ ∃ header, headers[i]? = some header ∧
            field.IsNamedBy header ∧ ∀ earlier ∈ headers.take i, ¬ field.IsNamedBy earlier) ∧
      (∀ field ∈ Schema.fields kind, ∀ header : String,
        Header.Spells field.label.toList header.toList ∨
          Header.Spells field.key.toList header.toList →
        ∀ other ∈ Schema.fields kind, other.IsNamedBy header ↔ other = field) ∧
      ∀ data : List (List String), List.Forall₂ (fun cells (row : Row) => ∀ key cell : String,
        row.get? key = some cell ↔
          ∃ i : Nat, (ofHeaders (Schema.fields kind) headers).keys[i]? = some (some key) ∧
            cell = (cells[i]?).getD "")
        data ((ofHeaders (Schema.fields kind) headers).rows data) := by
  have hnodup := nodup_held_ofHeaders (Schema.fields kind) headers
  refine ⟨length_keys_ofHeaders _ _, hnodup, fun i key => getElem?_keys_ofHeaders_fields_iff, ?_, ?_⟩
  · intro field hmem header hspells other hother
    have hnamed := Field.isNamedBy_of_spells hmem hspells
    exact ⟨hnamed.eq hmem hother, fun hsame => hsame ▸ hnamed⟩
  · intro data
    rw [rows, List.forall₂_map_right_iff, List.forall₂_same]
    exact fun cells _ key cell => get?_row_eq_some_iff hnodup

/-- A marked label with other white space names its field, so that the key of the field, which comes
later, has no column. -/
theorem ofHeaders_recognizes_a_marked_label :
    (∃ field ∈ Schema.fields .billTo, field.key = "tax_id" ∧ ∀ other ∈ Schema.fields .billTo,
      other.IsNamedBy "\u00A0TAX \u2003id (Required)\t" ↔ other = field) ∧
      (ofHeaders (Schema.fields .billTo) ["\u00A0TAX \u2003id (Required)\t", "Tax_Id *", "Fax"]).keys =
        [some "tax_id", none, none] := by
  have hbody : Header.Respelled ['T', 'a', 'x', ' ', 'I', 'D']
      ['T', 'A', 'X', ' ', '\u2003', 'i', 'd'] :=
    .letter rfl (.letter rfl (.letter rfl (@Header.Respelled.gap [' ', '\u2003'] _ _
      (List.cons_ne_nil _ _) (List.all_eq_true.1 rfl) (.letter rfl (.letter rfl .nil)))))
  have hspells : Header.Spells "Tax ID".toList "\u00A0TAX \u2003id (Required)\t".toList :=
    @Header.Spells.marked _ ['\u00A0'] _ [' '] "(Required)".toList ['\t']
      (List.forall_mem_singleton.2 rfl) hbody (List.forall_mem_singleton.2 rfl) (.word rfl)
      (List.forall_mem_singleton.2 rfl)
  have hfield : ∃ field ∈ Schema.fields .billTo, field.label = "Tax ID" ∧ field.key = "tax_id" := by
    decide
  obtain ⟨field, hmem, hlabel, hkey⟩ := hfield
  have hnamed := (ofHeaders_recognizes_every_spelling .billTo []).2.2.2.1 field hmem _
    (.inl (hlabel ▸ hspells))
  exact ⟨⟨field, hmem, hkey, hnamed⟩, by decide +kernel⟩

end Columns

end AddressIntake

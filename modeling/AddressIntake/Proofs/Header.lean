import AddressIntake.Delimited.Separator
import AddressIntake.Proofs.Text.Blank
import AddressIntake.Sheet

namespace AddressIntake

namespace Header

open Text

/-- A character that a reader of delimited text does not take for binary content, for the start of a
text or for a separator other than the comma. -/
def isPlainChar (c : Char) : Bool :=
  !(['\x00', Encoding.byteOrderMark, ';', '\t', '|'].contains c)

theorem isPlainChar_of_separator {sep : Char} (hsep : sep ∈ Delimited.separators)
    (hcomma : sep ≠ ',') : isPlainChar sep = false := by
  simp only [Delimited.separators, List.mem_cons, List.not_mem_nil, or_false] at hsep
  rcases hsep with rfl | rfl | rfl | rfl
  · rfl
  · exact absurd rfl hcomma
  · rfl
  · rfl

/-- A header that a reader of delimited text takes for what it is: trimmed visible text of plain
characters. -/
structure IsPlain (header : String) : Prop where
  visible : isBlank header = false
  trimmed : trim header = header
  plain : header.toList.all isPlainChar = true

instance (header : String) : Decidable (IsPlain header) :=
  decidable_of_iff
    (isBlank header = false ∧ trim header = header ∧ header.toList.all isPlainChar = true)
    ⟨fun h => ⟨h.1, h.2.1, h.2.2⟩, fun h => ⟨h.visible, h.trimmed, h.plain⟩⟩

namespace IsPlain

variable {header : String} (hplain : IsPlain header)

include hplain

theorem not_mem {c : Char} (hc : isPlainChar c = false) : c ∉ header.toList := by
  intro hmem
  rw [List.all_eq_true.1 hplain.plain c hmem] at hc
  cases hc

theorem head?_ne : header.toList.head? ≠ some Encoding.byteOrderMark :=
  fun hhead => hplain.not_mem rfl (List.mem_of_head? hhead)

end IsPlain

theorem map_trim_eq_self {headers : List String} (hplain : ∀ header ∈ headers, IsPlain header) :
    headers.map trim = headers :=
  (List.map_congr_left fun header hmem => (hplain header hmem).trimmed).trans (List.map_id headers)

end Header

end AddressIntake

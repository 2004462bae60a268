import AddressIntake.Policy
import AddressIntake.Proofs.Address
import AddressIntake.Proofs.FieldMap

namespace AddressIntake

open Json Record

namespace FieldMap

variable {α : Type}

/-- A map is taken out of the JSON object of its entries. -/
theorem decoder_toJson {read : Decoder α} {write : α → Json}
    (hread : ∀ a, read (write a).node = .ok a) (m : FieldMap α) :
    decoder read (m.toJson write).node = .ok m := by
  have hentries : Decoder.entries read (m.toJson write).node = .ok m.entries :=
    Decoder.entries_node hread m.entries
  rw [decoder, hentries]
  exact congrArg Except.ok m.ofList_entries

theorem isPlain_toJson {write : α → Json} (hplain : ∀ a, (write a).IsPlain) (m : FieldMap α) :
    (m.toJson write).IsPlain := by
  rw [toJson, IsPlain]
  induction m.entries with
  | nil => rw [List.map_nil, AllEntriesPlain]; trivial
  | cons entry entries ih => rw [List.map_cons, AllEntriesPlain]; exact ⟨hplain _, ih⟩

end FieldMap

namespace Policy

/-- A stored policy is read back. -/
theorem decoder_toJson (policy : Policy) : decoder policy.toJson.node = .ok policy := by
  have hfits := ((((fits_required "projectId" (Decoder.string_node policy.project)).map Policy.mk).seq
    (fits_required "addressType" policy.kind.decoder_toJson)).seq
    (fits_required "required" (FieldMap.decoder_toJson Decoder.bool_node policy.required))).seq
    (fits_required "updatedAt" policy.updatedAt.decoder_toJson)
  have hnames : ["projectId", "addressType", "required", "updatedAt"].Nodup := by decide
  exact hfits.decoder_node hnames

theorem isPlain_toJson (policy : Policy) : policy.toJson.IsPlain := by
  have hflags : (policy.required.toJson .bool).IsPlain :=
    FieldMap.isPlain_toJson (fun b => by rw [IsPlain]; trivial) policy.required
  simp only [toJson, AddressKind.toJson, Timestamp.toJson, IsPlain, AllEntriesPlain, hflags, and_self]

end Policy

end AddressIntake

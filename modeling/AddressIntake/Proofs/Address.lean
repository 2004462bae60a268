import AddressIntake.Address
import AddressIntake.Proofs.Json.Decoder
import AddressIntake.Proofs.Json.Reading
import AddressIntake.Proofs.RecordId
import AddressIntake.Proofs.Timestamp

namespace AddressIntake

open Json Record

namespace AddressKind

@[simp]
theorem decoder_toJson (kind : AddressKind) : decoder kind.toJson.node = .ok kind :=
  Decoder.choice_node kind.ofTag?_tag

end AddressKind

namespace RecordId

/-- An optional identity stands beside its name. -/
theorem fits_optional (name : String) (id : Option RecordId) :
    (Record.optional name decoder).Fits [(name, Json.ofOption toJson id)] id :=
  Record.fits_optional name <| Decoder.nullable_ofOption (fun id _ => decoder_toJson id)
    fun id _ hnull => by
      rw [toJson, node] at hnull
      cases hnull

theorem isPlain_ofOption (id : Option RecordId) : (Json.ofOption toJson id).IsPlain :=
  Json.isPlain_ofOption fun id _ => by rw [toJson, IsPlain]; trivial

end RecordId

namespace AddressFields

/-- The fields of an address stand among the members of its record. -/
theorem fits_record (fields : AddressFields) : record.Fits fields.members fields :=
  ((((((((((((((fits_optional_string "companyName" fields.companyName).map AddressFields.mk).seq
    (fits_optional_string "contactName" fields.contactName)).seq
    (fits_required "addressLine1" (Decoder.string_node fields.addressLine1))).seq
    (fits_optional_string "addressLine2" fields.addressLine2)).seq
    (fits_required "city" (Decoder.string_node fields.city))).seq
    (fits_required "state" (Decoder.string_node fields.state))).seq
    (fits_optional_string "postalCode" fields.postalCode)).seq
    (fits_required "country" (Decoder.string_node fields.country))).seq
    (fits_optional_string "phone" fields.phone)).seq
    (fits_optional_string "email" fields.email)).seq
    (fits_optional_string "taxId" fields.taxId)).seq
    (fits_optional_string "vatNumber" fields.vatNumber)).seq
    (fits_optional_string "ein" fields.ein)).seq
    (fits_optional_string "notes" fields.notes)

end AddressFields

namespace Address

/-- The entries of the JSON object of an address. -/
def entries (address : Address) : List (String × Json) :=
  [("id", address.id.toJson), ("projectId", .str address.project),
      ("addressType", address.kind.toJson)] ++ address.fields.members ++
    [("shipToId", Json.ofOption RecordId.toJson address.shipTo),
      ("createdAt", address.createdAt.toJson)]

theorem nodup_names_entries (address : Address) : (address.entries.map (·.1)).Nodup := by
  have hnames : address.entries.map (·.1) = ["id", "projectId", "addressType", "companyName",
      "contactName", "addressLine1", "addressLine2", "city", "state", "postalCode", "country",
      "phone", "email", "taxId", "vatNumber", "ein", "notes", "shipToId", "createdAt"] := rfl
  rw [hnames]
  decide

/-- A stored address is read back. -/
theorem decoder_toJson (address : Address) : decoder address.toJson.node = .ok address := by
  have hfits := ((((((fits_required "id" address.id.decoder_toJson).map Address.mk).seq
    (fits_required "projectId" (Decoder.string_node address.project))).seq
    (fits_required "addressType" address.kind.decoder_toJson)).seq
    address.fields.fits_record).seq
    (RecordId.fits_optional "shipToId" address.shipTo)).seq
    (fits_required "createdAt" address.createdAt.decoder_toJson)
  exact hfits.openDecoder_node address.nodup_names_entries

theorem isPlain_toJson (address : Address) : address.toJson.IsPlain := by
  simp only [toJson, AddressFields.members, RecordId.toJson, AddressKind.toJson, Timestamp.toJson,
    List.cons_append, List.nil_append, IsPlain, AllEntriesPlain, isPlain_ofOption_str,
    RecordId.isPlain_ofOption, and_self]

end Address

namespace NewAddress

/-- The entries of the JSON object of an address to be created. -/
def entries (new : NewAddress) : List (String × Json) :=
  [("projectId", .str new.project), ("addressType", new.kind.toJson)] ++ new.fields.members ++
    [("shipToId", Json.ofOption RecordId.toJson new.shipTo)]

theorem nodup_names_entries (new : NewAddress) : (new.entries.map (·.1)).Nodup := by
  have hnames : new.entries.map (·.1) = ["projectId", "addressType", "companyName", "contactName",
      "addressLine1", "addressLine2", "city", "state", "postalCode", "country", "phone", "email",
      "taxId", "vatNumber", "ein", "notes", "shipToId"] := rfl
  rw [hnames]
  decide

/-- An address to be created is read back. -/
theorem decoder_toJson (new : NewAddress) : decoder new.toJson.node = .ok new := by
  have hfits := ((((fits_required "projectId" (Decoder.string_node new.project)).map
    NewAddress.mk).seq
    (fits_required "addressType" new.kind.decoder_toJson)).seq
    new.fields.fits_record).seq
    (RecordId.fits_optional "shipToId" new.shipTo)
  exact hfits.openDecoder_node new.nodup_names_entries

theorem isPlain_toJson (new : NewAddress) : new.toJson.IsPlain := by
  simp only [toJson, AddressFields.members, AddressKind.toJson, List.cons_append, List.nil_append,
    IsPlain, AllEntriesPlain, isPlain_ofOption_str, RecordId.isPlain_ofOption, and_self]

end NewAddress

end AddressIntake

import AddressIntake.FieldMap
import AddressIntake.Schema
import AddressIntake.Timestamp

namespace AddressIntake

/-- Which fields are required, by key. A key without a flag is not. -/
abbrev PolicyFlags := FieldMap Bool

/-- The stored flags of one project and kind of address. -/
structure Policy where
  project : String
  kind : AddressKind
  required : PolicyFlags
  updatedAt : Timestamp
  deriving DecidableEq

namespace Policy

open Json

/-- The flags that require exactly the given keys. -/
def flagsRequiring (keys : List String) : PolicyFlags :=
  .ofList (keys.map fun key => (key, true))

/-- A field is required if it always is, or if its flag is set. -/
def isRequired (always flag : Bool) : Bool :=
  always || flag

/-- The keys of the fields that are required under the flags, in alphabetical order. Flags of other
keys say nothing. -/
def requiredKeys (fields : List Field) (flags : PolicyFlags) : List String :=
  ((fields.filter fun field =>
    isRequired field.alwaysRequired ((flags.get? field.key).getD false)).map (·.key)).mergeSort

/-- The JSON object of a policy. -/
def toJson (policy : Policy) : Json :=
  .obj [("projectId", .str policy.project), ("addressType", policy.kind.toJson),
    ("required", policy.required.toJson .bool), ("updatedAt", policy.updatedAt.toJson)]

/-- The policy in a JSON record. -/
def decoder : Decoder Policy :=
  Record.decoder <| Policy.mk <$>
    Record.required "projectId" Decoder.string <*>
    Record.required "addressType" AddressKind.decoder <*>
    Record.required "required" (FieldMap.decoder Decoder.bool) <*>
    Record.required "updatedAt" Timestamp.decoder

end Policy

end AddressIntake

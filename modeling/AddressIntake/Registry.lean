import AddressIntake.Address
import AddressIntake.Policy

namespace AddressIntake

/-- What is stored for all projects: addresses in the order of their creation, and at most one
policy for each project and kind of address. -/
structure Registry where
  addresses : List Address
  policies : List Policy
  deriving DecidableEq

namespace Registry

/-- Nothing stored. -/
def empty : Registry := ⟨[], []⟩

/-- The address with an identity. -/
def find? (registry : Registry) (id : RecordId) : Option Address :=
  registry.addresses.find? (·.id == id)

/-- The addresses of one kind in one project. -/
def select (registry : Registry) (project : String) (kind : AddressKind) : List Address :=
  registry.addresses.filter fun a => a.project == project && a.kind == kind

/-- Whether a policy is that of a project and kind. -/
def governs (project : String) (kind : AddressKind) (policy : Policy) : Bool :=
  policy.project == project && policy.kind == kind

/-- The policy of a project and kind. -/
def policy? (registry : Registry) (project : String) (kind : AddressKind) : Option Policy :=
  registry.policies.find? (governs project kind)

/-- The policies with one more, in the place of the one for the same project and kind if there is
one. -/
def putPolicy (policy : Policy) : List Policy → List Policy
  | [] => [policy]
  | other :: rest =>
    if governs policy.project policy.kind other then policy :: rest
    else other :: putPolicy policy rest

/-- The registry with a policy saved. -/
def savePolicy (registry : Registry) (policy : Policy) : Registry :=
  { registry with policies := putPolicy policy registry.policies }

/-- The registry with addresses added at the end. -/
def append (registry : Registry) (addresses : List Address) : Registry :=
  { registry with addresses := registry.addresses ++ addresses }

end Registry

end AddressIntake

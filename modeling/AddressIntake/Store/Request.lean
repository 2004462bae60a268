import AddressIntake.Registry

namespace AddressIntake

/-- Why a store does not do what is asked. -/
inductive StoreError where
  | io (reason : String)
  | json (reason : String)
  | poisoned
  | rejected (reason : String)
  | unavailable (reason : String)
  deriving DecidableEq, Repr

/-- The wording of an error. -/
def StoreError.message : StoreError → String
  | io reason => s!"Store IO error: {reason}"
  | json reason => s!"Store JSON error: {reason}"
  | poisoned => "Store lock poisoned"
  | rejected reason => s!"Write rejected: {reason}"
  | unavailable reason => s!"Store unavailable: {reason}"

/-- Why a transaction is given up: a row with a name that resolves no more, or the store. -/
inductive Abort where
  | unresolved (error : RowError)
  | store (error : StoreError)
  deriving DecidableEq, Repr

/-- One step of a transaction: an address to be created, or a reason to give up. -/
abbrev Draft := Except Abort NewAddress

/-- The addresses that a transaction creates, or the first reason to give it up. A store may refuse
an address with a reason of its own. -/
def stage (refuses : NewAddress → Option String) : List Draft → Except Abort (List NewAddress)
  | [] => .ok []
  | .error abort :: _ => .error abort
  | .ok new :: rest =>
    match refuses new with
    | some reason => .error (.store (.rejected reason))
    | none =>
      match stage refuses rest with
      | .ok created => .ok (new :: created)
      | .error abort => .error abort

/-- A request to a store. It is one step: nothing else happens in the store between its start and
its end. -/
inductive StoreRequest where
  /-- The address with an identity. -/
  | find (id : RecordId)
  /-- The addresses of one kind in one project. -/
  | select (project : String) (kind : AddressKind)
  /-- The required-field policy of a project and kind. -/
  | policy (project : String) (kind : AddressKind)
  /-- To save a policy. -/
  | savePolicy (policy : Policy)
  /-- To create all addresses of a list of drafts, or none if one of them fails. -/
  | transact (drafts : List Draft)

/-- The type of the answer to a request. -/
def StoreRequest.Answer : StoreRequest → Type
  | .find _ => Except StoreError (Option Address)
  | .select .. => Except StoreError (List Address)
  | .policy .. => Except StoreError (Option Policy)
  | .savePolicy _ => Except StoreError Unit
  | .transact _ => Except Abort (List Address)

/-- A store answers requests in a monad. -/
abbrev Store (m : Type → Type) := (r : StoreRequest) → m r.Answer

end AddressIntake

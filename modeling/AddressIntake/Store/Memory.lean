import AddressIntake.Store.Request

namespace AddressIntake

/-- A store in memory: what it holds, the stamps of the records to come, whether it answers queries
for addresses, and which addresses it refuses. -/
structure MemoryStore where
  registry : Registry
  stamps : Nat → Stamp
  issued : Nat
  readable : Bool
  refuses : NewAddress → Option String

namespace MemoryStore

/-- An empty store that refuses nothing. -/
def empty (stamps : Nat → Stamp) : MemoryStore :=
  ⟨.empty, stamps, 0, true, fun _ => none⟩

/-- The error of a query for addresses while there is no answer to such queries. -/
def unreadable : StoreError := .unavailable "address queries disabled"

/-- The records of a list of new addresses, stamped one after the other. -/
def stamped (store : MemoryStore) (created : List NewAddress) : List Address :=
  created.zipIdx.map fun (new, i) => Address.ofNew (store.stamps (store.issued + i)) new

/-- The answer to a request and the store afterwards. -/
def respond (r : StoreRequest) (store : MemoryStore) : r.Answer × MemoryStore :=
  match r with
  | .find id =>
    (if store.readable then .ok (store.registry.find? id) else .error unreadable, store)
  | .select project kind =>
    (if store.readable then .ok (store.registry.select project kind) else .error unreadable, store)
  | .policy project kind => (.ok (store.registry.policy? project kind), store)
  | .savePolicy policy => (.ok (), { store with registry := store.registry.savePolicy policy })
  | .transact drafts =>
    match stage store.refuses drafts with
    | .error abort => (.error abort, store)
    | .ok created =>
      let records := store.stamped created
      (.ok records,
        { store with
          registry := store.registry.append records
          issued := store.issued + records.length })

/-- The store as a way to answer requests. -/
def answer : Store (StateM MemoryStore) :=
  fun r => respond r

end MemoryStore

namespace Store

variable {m : Type → Type} [Monad m]

/-- The store whose queries for ship-to addresses find nothing after the first few. The state is how
many are left to be answered. -/
def losingShipTo (store : Store m) : Store (StateT Nat m)
  | .select project .shipTo => do
    match ← get with
    | 0 => return .ok []
    | left + 1 =>
      set left
      store (.select project .shipTo)
  | r => store r

/-- The store that does not answer queries for policies. -/
def withoutPolicies (store : Store m) : Store m
  | .policy .. => pure (.error (.unavailable "policy queries disabled"))
  | r => store r

end Store

end AddressIntake

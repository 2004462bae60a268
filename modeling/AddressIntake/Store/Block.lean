import AddressIntake.Script
import AddressIntake.Store.OnDisk

namespace AddressIntake

/-- A block of a transaction: addresses that are created, each with a record or an error for answer,
and a value or an error at the end. -/
abbrev Block (ε α : Type) := Script NewAddress (fun _ => Except StoreError Address) (Except ε α)

namespace Block

variable {ε α : Type} {m : Type → Type} [Monad m]

/-- What a block ends with and the records that it leaves aside. In a folder every address is
accepted. -/
def perform (fresh : m Stamp) : Block ε α → m (Except ε α × List Address)
  | Script.done result => pure (result, [])
  | Script.ask new next => do
    let stamp ← fresh
    let address := Address.ofNew stamp new
    let (result, others) ← perform fresh (next (.ok address))
    return (result, address :: others)

/-- The block that takes drafts one after the other and ends with the records, or with the first
reason to give up. -/
def ofDrafts : List Draft → Block Abort (List Address)
  | [] => Script.done (.ok [])
  | .error abort :: _ => Script.done (.error abort)
  | .ok new :: rest => Script.ask new fun
    | .error e => Script.done (.error (.store e))
    | .ok address => (ofDrafts rest).bind fun result => Script.done (result.map (address :: ·))

end Block

namespace StoreFolder

variable {ε α : Type} {m : Type → Type} [Monad m]

/-- An action under the lock. Nothing is done if the lock is lost, as it is for good when its holder
does not come to an end. -/
def underLock (lost : Bool) (ofStore : StoreError → ε) (action : m (Except ε α)) : m (Except ε α) :=
  if lost then pure (.error (ofStore .poisoned)) else action

/-- The answer to a transaction with a block. What the block creates is kept aside until it ends,
and the file of addresses is replaced only if it ends well. -/
def transaction (files : Files m) (fresh : m Stamp) (folder : String) (ofStore : StoreError → ε)
    (block : Block ε α) : m (Except ε α) := do
  match ← load files folder with
  | .error e => return .error (ofStore e)
  | .ok registry =>
    let (result, staged) ← block.perform fresh
    match result with
    | .error e => return .error e
    | .ok value =>
      match ← writeList files Address.toJson (joinPath folder addressesName)
          (registry.append staged).addresses with
      | .error e => return .error (ofStore e)
      | .ok () => return .ok value

end StoreFolder

end AddressIntake

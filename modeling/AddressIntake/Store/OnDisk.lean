import AddressIntake.Files.Basic
import AddressIntake.Json.Printer
import AddressIntake.Json.Reader
import AddressIntake.Store.Request

namespace AddressIntake

namespace StoreFolder

/-- The name of the file of addresses. -/
def addressesName : String := "addresses.json"

/-- The name of the file of policies. -/
def policiesName : String := "policies.json"

/-- What the name of an unfinished file ends with. -/
def unfinishedSuffix : String := ".tmp"

/-- The list that the text of a file holds. A blank text holds none. -/
def parseList {α : Type} (read : Json.Decoder α) (cs : List Char) :
    Except StoreError (List α) :=
  if cs.all Text.isBlankChar then .ok []
  else
    match Json.decode (Json.Decoder.list read) cs with
    | .ok items => .ok items
    | .error _ => .error (.json "unexpected content")

/-- The document of a list. -/
def listDocument {α : Type} (write : α → Json) (items : List α) : Document :=
  .ofText (Json.indented (Json.ofList write items))

variable {m : Type → Type} [Monad m] {α : Type}

/-- The list in a file. A file that is not there holds none. -/
def readList (files : Files m) (read : Json.Decoder α) (path : String) :
    m (Except StoreError (List α)) := do
  let present : Bool ← files (.present path)
  if present then
    match ← files.readText path with
    | .error reason => return .error (.io reason)
    | .ok cs => return parseList read cs
  else return .ok []

/-- Puts a list into a file by way of an unfinished file next to it. -/
def writeList (files : Files m) (write : α → Json) (path : String) (items : List α) :
    m (Except StoreError Unit) := do
  let unfinished := path ++ unfinishedSuffix
  match ← files (.write unfinished (listDocument write items)) with
  | .error e => return .error (.io e.message)
  | .ok () =>
    match ← files (.rename unfinished path) with
    | .error e => return .error (.io e.message)
    | .ok () => return .ok ()

/-- What a folder holds. -/
def load (files : Files m) (folder : String) : m (Except StoreError Registry) := do
  match ← readList files Address.decoder (joinPath folder addressesName) with
  | .error e => return .error e
  | .ok addresses =>
    match ← readList files Policy.decoder (joinPath folder policiesName) with
    | .error e => return .error e
    | .ok policies => return .ok ⟨addresses, policies⟩

/-- The records of a list of new addresses, each with a stamp of its own. -/
def stampAll (fresh : m Stamp) : List NewAddress → m (List Address)
  | [] => pure []
  | new :: rest => do
    let stamp ← fresh
    let others ← stampAll fresh rest
    return .ofNew stamp new :: others

/-- The answer to a transaction. The file of addresses is replaced even if nothing is created. -/
def transact (files : Files m) (fresh : m Stamp) (folder : String) (drafts : List Draft) :
    m (Except Abort (List Address)) := do
  match ← load files folder with
  | .error e => return .error (.store e)
  | .ok registry =>
    match stage (fun _ => none) drafts with
    | .error abort => return .error abort
    | .ok created =>
      let records ← stampAll fresh created
      match ← writeList files Address.toJson (joinPath folder addressesName)
          (registry.append records).addresses with
      | .error e => return .error (.store e)
      | .ok () => return .ok records

/-- The folder as a way to answer requests. Every request reads both files. -/
def answer (files : Files m) (fresh : m Stamp) (folder : String) : Store m
  | .find id => do
    match ← load files folder with
    | .error e => return .error e
    | .ok registry => return .ok (registry.find? id)
  | .select project kind => do
    match ← load files folder with
    | .error e => return .error e
    | .ok registry => return .ok (registry.select project kind)
  | .policy project kind => do
    match ← load files folder with
    | .error e => return .error e
    | .ok registry => return .ok (registry.policy? project kind)
  | .savePolicy policy => do
    match ← load files folder with
    | .error e => return .error e
    | .ok registry =>
      writeList files Policy.toJson (joinPath folder policiesName)
        (registry.savePolicy policy).policies
  | .transact drafts => transact files fresh folder drafts

/-- Makes the folder of a store, unless it is there. -/
def make (files : Files m) (folder : String) : m (Except StoreError Unit) := do
  match ← files (.makeFolders folder) with
  | .error e => return .error (.io e.message)
  | .ok () => return .ok ()

end StoreFolder

end AddressIntake

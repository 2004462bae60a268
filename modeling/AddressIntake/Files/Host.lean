import AddressIntake.Address
import AddressIntake.Files.Tree

namespace AddressIntake

/-- A request that fails: the error that is told, and what the file is left with that was being
written, if it was touched. -/
structure Mishap where
  error : FileError
  left : Option Document

/-- A machine: its files, the mishaps of the requests to come, and the stamps of the records to
come. -/
structure Host where
  tree : FileTree
  mishaps : Nat → Option Mishap
  asked : Nat
  stamps : Nat → Stamp
  issued : Nat

namespace Host

/-- A machine on which nothing goes wrong. -/
def working (tree : FileTree) (stamps : Nat → Stamp) : Host :=
  ⟨tree, fun _ => none, 0, stamps, 0⟩

/-- The machine after a number of requests, with the files that they left. -/
def moved (host : Host) (tree : FileTree) (count : Nat) : Host :=
  { host with tree, asked := host.asked + count }

/-- The files after writing broke off. -/
def brokenOff (tree : FileTree) (path : String) : Option Document → FileTree
  | some left => (FileTree.respond (.write path left) tree).2
  | none => tree

/-- The answer to a request and the machine afterwards. Whether something is there can always be
told. -/
def respond (r : FileRequest) (host : Host) : r.Answer × Host :=
  match host.mishaps host.asked with
  | none =>
    let (answer, after) := FileTree.respond r host.tree
    (answer, host.moved after 1)
  | some mishap =>
    match r with
    | .present path => ((FileTree.respond (.present path) host.tree).1, host.moved host.tree 1)
    | .read _ => (.error mishap.error, host.moved host.tree 1)
    | .write path _ => (.error mishap.error, host.moved (brokenOff host.tree path mishap.left) 1)
    | .rename .. => (.error mishap.error, host.moved host.tree 1)
    | .makeFolders _ => (.error mishap.error, host.moved host.tree 1)

/-- The machine as a way to answer requests. -/
def answer : Files (StateM Host) :=
  fun r => respond r

/-- The next stamp. -/
def fresh : StateM Host Stamp :=
  fun host => (host.stamps host.issued, { host with issued := host.issued + 1 })

@[simp]
theorem moved_tree (host : Host) (tree : FileTree) (count : Nat) : (host.moved tree count).tree = tree :=
  rfl

@[simp]
theorem moved_moved (host : Host) (first second : FileTree) (m n : Nat) :
    (host.moved first m).moved second n = host.moved second (m + n) := by
  simp only [moved, Nat.add_assoc]

end Host

end AddressIntake

import AddressIntake.Proofs.Except
import AddressIntake.Proofs.Files.Host

namespace AddressIntake

namespace FileTree

variable {tree other : FileTree}

/-- The place for a file at a path, or why there can be none. -/
def placeOf (tree : FileTree) (path : String) : Except FileError Place :=
  (Directions.ofText path).bind tree.placeForFile

theorem lookup_eq_ok_iff {folder : Place} {name : String} {node : Option FileNode} :
    tree.lookup folder name = .ok node ↔
      name.utf8ByteSize ≤ maxNameLength ∧ tree.node? (folder ++ [name]) = node := by
  rw [lookup]
  split
  · rename_i hlong
    simp [Nat.not_le.2 hlong]
  · rename_i hshort
    simp [Nat.not_lt.1 hshort]

/-- There is a place for a file where directions lead to no folder, and it is read from there. -/
theorem placeForFile_eq_ok {directions : Directions} {place : Place}
    (hplace : tree.placeForFile directions = .ok place) :
    tree.node? place ≠ some .folder ∧ ∀ document,
      tree.read directions = .ok document ↔ tree.node? place = some (.file document) := by
  rw [placeForFile] at hplace
  obtain ⟨goal, hgoal, hplace⟩ := exists_of_bind_eq_ok hplace
  cases goal with
  | folder place => cases hplace
  | named folder name =>
    dsimp only at hplace
    cases hslash : directions.toFolder with
    | true =>
      rw [hslash] at hplace
      cases hplace
    | false =>
      rw [hslash, if_neg Bool.false_ne_true] at hplace
      obtain ⟨node, hlookup, hplace⟩ := exists_of_bind_eq_ok hplace
      have hnode := (lookup_eq_ok_iff.1 hlookup).2
      rcases node with _ | ⟨_ | found⟩
      · have hread : tree.read directions = .error .notFound := by
          simp only [read, find, hgoal, hlookup, bind, Except.bind]
          rfl
        cases hplace
        simp [hnode, hread]
      · cases hplace
      · have hread : tree.read directions = .ok found := by
          simp only [read, find, hgoal, hlookup, hslash, bind, Except.bind]
          rfl
        cases hplace
        simp [hnode, hread]

/-- A file that is read lies at the place for it. -/
theorem exists_placeForFile_of_read {directions : Directions} {document : Document}
    (hread : tree.read directions = .ok document) :
    ∃ place, tree.placeForFile directions = .ok place := by
  rw [read_eq_ok_iff, find] at hread
  obtain ⟨goal, hgoal, hread⟩ := exists_of_bind_eq_ok hread
  cases goal with
  | folder place => cases hread
  | named folder name =>
    obtain ⟨node, hlookup, hread⟩ := exists_of_bind_eq_ok hread
    rcases node with _ | ⟨_ | found⟩
    · cases hread
    · cases hread
    · cases hslash : directions.toFolder with
      | true =>
        rw [hslash] at hread
        cases hread
      | false =>
        refine ⟨folder ++ [name], ?_⟩
        simp only [placeForFile, hgoal, hlookup, hslash, bind, Except.bind]
        rfl

theorem placeOf_eq_ok {path : String} {place : Place} (hplace : tree.placeOf path = .ok place) :
    ∃ directions, Directions.ofText path = .ok directions ∧
      tree.placeForFile directions = .ok place :=
  exists_of_bind_eq_ok hplace

theorem not_folder_of_placeOf {path : String} {place : Place}
    (hplace : tree.placeOf path = .ok place) : tree.node? place ≠ some .folder := by
  obtain ⟨_, _, hplace⟩ := placeOf_eq_ok hplace
  exact (placeForFile_eq_ok hplace).1

/-- The file at a path is the one at the place that the path leads to. -/
theorem content_eq_some_iff_of_placeOf {path : String} {place : Place}
    (hplace : tree.placeOf path = .ok place) {document : Document} :
    content tree path = some document ↔ tree.node? place = some (.file document) := by
  obtain ⟨directions, hdirections, hplace⟩ := placeOf_eq_ok hplace
  rw [← (placeForFile_eq_ok hplace).2, content, hdirections]
  dsimp only [Except.bind]
  cases tree.read directions <;> simp [Except.toOption]

theorem content_eq_none_of_placeOf {path : String} {e : FileError}
    (hplace : tree.placeOf path = .error e) : content tree path = none := by
  refine Option.eq_none_iff_forall_ne_some.2 fun document hdocument => ?_
  rw [placeOf] at hplace
  rw [content] at hdocument
  cases hdirections : Directions.ofText path with
  | error e =>
    rw [hdirections] at hdocument
    cases hdocument
  | ok directions =>
    rw [hdirections] at hplace hdocument
    dsimp only [Except.bind] at hplace hdocument
    cases hread : tree.read directions with
    | error e =>
      rw [hread] at hdocument
      cases hdocument
    | ok found =>
      obtain ⟨_, hok⟩ := exists_placeForFile_of_read hread
      cases hplace.symm.trans hok

/-- Nothing is read from a place where nothing is. -/
theorem exists_respond_read_eq_error {path : String} {place : Place}
    (hplace : tree.placeOf path = .ok place) (hvacant : tree.node? place = none) :
    ∃ e, (respond (.read path) tree).1 = .error e := by
  obtain ⟨directions, hdirections, hplace⟩ := placeOf_eq_ok hplace
  rw [respond, hdirections]
  cases hread : tree.read directions with
  | error e => exact ⟨e, hread⟩
  | ok document => cases hvacant.symm.trans (((placeForFile_eq_ok hplace).2 document).1 hread)

/-- A file is written at the place that its path leads to, if it leads to one. -/
theorem respond_write_eq (path : String) (document : Document) :
    respond (.write path document) tree = match tree.placeOf path with
      | .ok place => (.ok (), tree.put place (.file document))
      | .error e => (.error e, tree) := by
  rw [respond, placeOf]
  cases Directions.ofText path with
  | error e => rfl
  | ok directions =>
    simp only [bind, Except.bind, write]
    cases tree.placeForFile directions <;> rfl

/-- A file is moved to the place that the new path leads to, if it leads to one. -/
theorem respond_rename_eq {source target : String} {place : Place} {document : Document}
    (hsource : tree.placeOf source = .ok place)
    (hdocument : tree.node? place = some (.file document)) :
    respond (.rename source target) tree = match tree.placeOf target with
      | .ok new => (.ok (), (tree.remove place).put new (.file document))
      | .error e => (.error e, tree) := by
  obtain ⟨directions, hdirections, hplace⟩ := placeOf_eq_ok hsource
  have hread := ((placeForFile_eq_ok hplace).2 document).2 hdocument
  rw [respond, placeOf, hdirections]
  cases Directions.ofText target with
  | error e => rfl
  | ok last =>
    simp only [bind, Except.bind, rename, hread, hplace]
    cases tree.placeForFile last <;> rfl

/-- Two trees with folders at the same places. -/
def SameFolders (tree other : FileTree) : Prop :=
  ∀ place, tree.node? place = some .folder ↔ other.node? place = some .folder

namespace SameFolders

theorem refl (tree : FileTree) : tree.SameFolders tree :=
  fun _ => Iff.rfl

theorem symm (hsame : tree.SameFolders other) : other.SameFolders tree :=
  fun place => (hsame place).symm

theorem trans {third : FileTree} (hsame : tree.SameFolders other)
    (hnext : other.SameFolders third) : tree.SameFolders third :=
  fun place => (hsame place).trans (hnext place)

theorem keepsFolders (hsame : tree.SameFolders other) : tree.KeepsFolders other :=
  fun place => (hsame place).1

end SameFolders

theorem isFixed_of_not_folder {place : Place} (hplace : tree.node? place ≠ some .folder) :
    place.isFixed = false := by
  cases hfixed : place.isFixed with
  | false => rfl
  | true => exact absurd (by rw [node?, if_pos hfixed]) hplace

theorem sameFolders_put {place : Place} (hplace : tree.node? place ≠ some .folder)
    (document : Document) : tree.SameFolders (tree.put place (.file document)) := by
  intro other
  by_cases hother : other = place
  · subst hother
    rw [node?_put_self (isFixed_of_not_folder hplace)]
    exact iff_of_false hplace (by simp)
  · rw [node?_put_of_ne hother]

theorem sameFolders_remove {place : Place} (hplace : tree.node? place ≠ some .folder) :
    tree.SameFolders (tree.remove place) := by
  intro other
  by_cases hother : other = place
  · subst hother
    rw [node?_remove_self (isFixed_of_not_folder hplace)]
    exact iff_of_false hplace (by simp)
  · rw [node?_remove_of_ne hother]

/-- Where the folders are still there, directions have the same goal. -/
theorem KeepsFolders.goal (hkeeps : tree.KeepsFolders other) {directions : Directions} {goal : Goal}
    (hgoal : tree.goal directions = .ok goal) : other.goal directions = .ok goal := by
  rw [FileTree.goal] at hgoal ⊢
  obtain ⟨folder, hwalk, hgoal⟩ := exists_of_bind_eq_ok hgoal
  have hwalk : other.walk directions.rooted directions.steps.dropLast = .ok folder :=
    hkeeps.walk hwalk
  rw [FileTree.walk] at hwalk
  simp only [hwalk, bind, Except.bind]
  cases hlast : directions.steps.getLast? with
  | none =>
    rw [hlast] at hgoal
    exact hgoal
  | some last =>
    rw [hlast] at hgoal
    dsimp only at hgoal ⊢
    by_cases hdots : (last == Directions.here || last == Directions.around) = true
    · rw [if_pos hdots] at hgoal ⊢
      obtain ⟨place, henter, hgoal⟩ := exists_of_bind_eq_ok hgoal
      rw [hkeeps.enter henter]
      exact hgoal
    · rw [if_neg hdots] at hgoal ⊢
      exact hgoal

/-- A place for a file in one tree is one in the other. -/
theorem SameFolders.placeOf (hsame : tree.SameFolders other) {path : String} {place : Place}
    (hplace : tree.placeOf path = .ok place) : other.placeOf path = .ok place := by
  have hfree := not_folder_of_placeOf hplace
  obtain ⟨directions, hdirections, hplace⟩ := placeOf_eq_ok hplace
  rw [FileTree.placeOf, hdirections]
  rw [placeForFile] at hplace
  obtain ⟨goal, hgoal, hplace⟩ := exists_of_bind_eq_ok hplace
  rw [Except.bind, placeForFile, hsame.keepsFolders.goal hgoal]
  cases goal with
  | folder place => cases hplace
  | named folder name =>
    cases hslash : directions.toFolder with
    | true =>
      rw [hslash] at hplace
      cases hplace
    | false =>
      rw [hslash] at hplace
      obtain ⟨node, hlookup, hplace⟩ := exists_of_bind_eq_ok hplace
      obtain rfl : place = folder ++ [name] := by
        rcases node with _ | ⟨_ | _⟩ <;> cases hplace <;> rfl
      have hother : other.lookup folder name = .ok (other.node? (folder ++ [name])) :=
        lookup_eq_ok_iff.2 ⟨(lookup_eq_ok_iff.1 hlookup).1, rfl⟩
      have hfree := mt (hsame _).2 hfree
      simp only [bind, Except.bind, hother]
      rcases hnode : other.node? (folder ++ [name]) with _ | ⟨_ | _⟩
      · rfl
      · exact absurd hnode hfree
      · rfl

/-- A file that was written is found at its path. -/
theorem reach_put_self {path : String} {place : Place} (hplace : tree.placeOf path = .ok place)
    (document : Document) :
    (tree.put place (.file document)).reach path = .ok (some (.file document)) := by
  have hfree := not_folder_of_placeOf hplace
  have hsame := sameFolders_put hfree document
  rw [← content_eq_some_iff, content_eq_some_iff_of_placeOf (hsame.placeOf hplace),
    node?_put_self (isFixed_of_not_folder hfree)]

/-- Requests other than those to make folders leave the folders as they are. -/
theorem sameFolders_respond {r : FileRequest} (hrequest : ∀ path, r ≠ .makeFolders path) :
    tree.SameFolders (respond r tree).2 := by
  cases r with
  | present | read => exact .refl tree
  | makeFolders path => exact absurd rfl (hrequest path)
  | write path document =>
    rw [respond_write_eq]
    cases hplace : tree.placeOf path with
    | error e => exact .refl tree
    | ok place => exact sameFolders_put (not_folder_of_placeOf hplace) document
  | rename source target =>
    obtain ⟨_, last, after, hfirst, hlast, hrename, hrespond⟩ | ⟨e, hrespond⟩ :=
      respond_rename_cases tree source target
    · rw [hrespond]
      obtain ⟨document, _, hrename⟩ := exists_of_bind_eq_ok hrename
      obtain ⟨old, hold, hrename⟩ := exists_of_bind_eq_ok hrename
      obtain ⟨new, hnew, hrename⟩ := exists_of_bind_eq_ok hrename
      cases hrename
      have hremoved := sameFolders_remove (placeForFile_eq_ok hold).1
      exact hremoved.trans (sameFolders_put (mt (hremoved new).2 (placeForFile_eq_ok hnew).1) document)
    · rw [hrespond]
      exact .refl tree

end FileTree

theorem Host.sameFolders_respond {r : FileRequest} (hrequest : ∀ path, r ≠ .makeFolders path)
    (host : Host) : host.tree.SameFolders (respond r host).2.tree := by
  rw [respond]
  cases host.mishaps host.asked with
  | none => exact FileTree.sameFolders_respond hrequest
  | some mishap =>
    cases r with
    | present | read | rename | makeFolders => exact .refl host.tree
    | write path document =>
      rw [moved_tree]
      cases mishap.left with
      | none => exact .refl host.tree
      | some left => exact FileTree.sameFolders_respond (by simp)

end AddressIntake

import AddressIntake.Files.Tree
import AddressIntake.Proofs.Files.Directions
import AddressIntake.Proofs.Files.Faithful

namespace AddressIntake

namespace FileTree

variable {tree : FileTree}

theorem lookup_filter_of_ne {entries : List (Place × FileNode)} {place other : Place}
    (hne : other ≠ place) : (entries.filter (·.1 != place)).lookup other = entries.lookup other := by
  induction entries with
  | nil => rfl
  | cons entry entries ih =>
    by_cases hentry : entry.1 = place
    · have hskip : (other == entry.1) = false := beq_eq_false_iff_ne.2 (hentry ▸ hne)
      rw [List.filter_cons_of_neg (by simp [hentry]), ih, List.lookup_cons, hskip]
    · rw [List.filter_cons_of_pos (by simp [hentry]), List.lookup_cons, List.lookup_cons, ih]

theorem lookup_filter_self (entries : List (Place × FileNode)) (place : Place) :
    (entries.filter (·.1 != place)).lookup place = none := by
  induction entries with
  | nil => rfl
  | cons entry entries ih =>
    by_cases hentry : entry.1 = place
    · rw [List.filter_cons_of_neg (by simp [hentry]), ih]
    · have hskip : (place == entry.1) = false := beq_eq_false_iff_ne.2 (Ne.symm hentry)
      rw [List.filter_cons_of_pos (by simp [hentry]), List.lookup_cons, hskip]
      exact ih

theorem node?_put_of_ne {place other : Place} (hne : other ≠ place) (node : FileNode) :
    (tree.put place node).node? other = tree.node? other := by
  have hskip : (other == place) = false := beq_eq_false_iff_ne.2 hne
  simp only [node?, put, List.lookup_append, lookup_filter_of_ne hne, List.lookup_cons, hskip,
    List.lookup_nil, Option.or_none]

theorem node?_put_self {place : Place} (hplace : place.isFixed = false) (node : FileNode) :
    (tree.put place node).node? place = some node := by
  simp [node?, put, hplace, List.lookup_append, lookup_filter_self]

theorem node?_remove_of_ne {place other : Place} (hne : other ≠ place) :
    (tree.remove place).node? other = tree.node? other := by
  simp only [node?, remove, lookup_filter_of_ne hne]

theorem node?_remove_self {place : Place} (hplace : place.isFixed = false) :
    (tree.remove place).node? place = none := by
  simp [node?, remove, hplace, lookup_filter_self]

/-- A tree that has every folder of another one. -/
def KeepsFolders (tree after : FileTree) : Prop :=
  ∀ place, tree.node? place = some .folder → after.node? place = some .folder

theorem keepsFolders_put {place : Place} (hplace : tree.node? place ≠ some .folder)
    (node : FileNode) : tree.KeepsFolders (tree.put place node) := by
  intro other hother
  have hne : other ≠ place := fun hsame => hplace (hsame ▸ hother)
  rwa [node?_put_of_ne hne]

theorem keepsFolders_move {old new : Place} (hold : tree.node? old ≠ some .folder)
    (hnew : tree.node? new ≠ some .folder) (node : FileNode) :
    tree.KeepsFolders ((tree.remove old).put new node) := by
  intro other hother
  have hneOld : other ≠ old := fun hsame => hold (hsame ▸ hother)
  have hneNew : other ≠ new := fun hsame => hnew (hsame ▸ hother)
  rwa [node?_put_of_ne hneNew, node?_remove_of_ne hneOld]

/-- A step into a folder leads to the same place where the folders are still there. -/
theorem KeepsFolders.enter {after : FileTree} (hkeeps : tree.KeepsFolders after) {folder place : Place}
    {step : String} (henter : tree.enter folder step = .ok place) :
    after.enter folder step = .ok place := by
  rw [FileTree.enter] at henter ⊢
  by_cases hhere : (step == Directions.here) = true
  · rwa [if_pos hhere] at henter ⊢
  · rw [if_neg hhere] at henter ⊢
    by_cases haround : (step == Directions.around) = true
    · rwa [if_pos haround] at henter ⊢
    · rw [if_neg haround, lookup] at henter ⊢
      by_cases hlong : maxNameLength < step.utf8ByteSize
      · rw [if_pos hlong] at henter
        cases henter
      · rw [if_neg hlong] at henter ⊢
        cases hnode : tree.node? (folder ++ [step]) with
        | none =>
          rw [hnode] at henter
          cases henter
        | some node =>
          cases node with
          | file document =>
            rw [hnode] at henter
            cases henter
          | folder =>
            rw [hnode] at henter
            rw [hkeeps _ hnode]
            exact henter

/-- The folder that steps lead to from the start of a path. -/
def walk (tree : FileTree) (rooted : Bool) (steps : List String) : Except FileError Place :=
  steps.foldlM tree.enter (if rooted then Place.root else [])

theorem KeepsFolders.walk {after : FileTree} (hkeeps : tree.KeepsFolders after) {rooted : Bool}
    {steps : List String} {folder : Place} (hwalk : tree.walk rooted steps = .ok folder) :
    after.walk rooted steps = .ok folder := by
  rw [FileTree.walk] at hwalk ⊢
  generalize (if rooted then Place.root else []) = start at hwalk ⊢
  induction steps generalizing start with
  | nil => exact hwalk
  | cons step steps ih =>
    rw [List.foldlM_cons] at hwalk ⊢
    cases henter : tree.enter start step with
    | error e =>
      rw [henter] at hwalk
      cases hwalk
    | ok place =>
      rw [henter] at hwalk
      rw [hkeeps.enter henter]
      exact ih place hwalk

/-- A text that can name a file in a folder, and is short enough to do so. -/
def IsFileName (name : String) : Prop :=
  Directions.IsName name ∧ name.utf8ByteSize ≤ maxNameLength

instance (name : String) : Decidable (IsFileName name) :=
  inferInstanceAs (Decidable (_ ∧ _))

theorem read_eq_ok_iff {directions : Directions} {document : Document} :
    tree.read directions = .ok document ↔ tree.find directions = .ok (some (.file document)) := by
  rw [read]
  cases tree.find directions with
  | error e => simp [bind, Except.bind]
  | ok node =>
    rcases node with _ | ⟨_ | _⟩ <;>
      simp [bind, Except.bind, pure, Except.pure, throw, throwThe, MonadExceptOf.throw]

section Named

variable {rooted : Bool} {steps : List String} {folder : Place} {name : String}

theorem goal_of_walk (hname : IsFileName name) (hwalk : tree.walk rooted steps = .ok folder) :
    tree.goal ⟨rooted, steps ++ [name], false⟩ = .ok (.named folder name) := by
  obtain ⟨⟨_, hhere, haround, _⟩, _⟩ := hname
  rw [walk] at hwalk
  simp only [goal, hwalk, bind, Except.bind, List.dropLast_concat, List.getLast?_concat,
    beq_eq_false_iff_ne.2 hhere, beq_eq_false_iff_ne.2 haround, Bool.or_self, Bool.false_eq_true,
    if_false]
  rfl

theorem goal_of_walk_error {e : FileError} (hwalk : tree.walk rooted steps = .error e) :
    tree.goal ⟨rooted, steps ++ [name], false⟩ = .error e := by
  rw [walk] at hwalk
  simp only [goal, hwalk, bind, Except.bind, List.dropLast_concat]

variable (hname : IsFileName name) (hwalk : tree.walk rooted steps = .ok folder)

include hname hwalk

/-- A short name leads to what is at its place. -/
theorem find_of_walk :
    tree.find ⟨rooted, steps ++ [name], false⟩ = .ok (tree.node? (folder ++ [name])) := by
  have hlookup : tree.lookup folder name = .ok (tree.node? (folder ++ [name])) :=
    if_neg (Nat.not_lt.2 hname.2)
  simp only [find, goal_of_walk hname hwalk, bind, Except.bind, hlookup]
  cases tree.node? (folder ++ [name]) with
  | none => rfl
  | some node => cases node <;> rfl

theorem placeForFile_ok_iff_of_walk {place : Place} :
    tree.placeForFile ⟨rooted, steps ++ [name], false⟩ = .ok place ↔
      place = folder ++ [name] ∧ tree.node? (folder ++ [name]) ≠ some .folder := by
  have hlookup : tree.lookup folder name = .ok (tree.node? (folder ++ [name])) :=
    if_neg (Nat.not_lt.2 hname.2)
  simp only [placeForFile, goal_of_walk hname hwalk, bind, Except.bind, hlookup]
  cases tree.node? (folder ++ [name]) with
  | none => simp [pure, Except.pure, eq_comm]
  | some node =>
    cases node <;> simp [pure, Except.pure, throw, throwThe, MonadExceptOf.throw, eq_comm]

/-- After a change that keeps the folders, a name whose place is as before leads to the same. -/
theorem KeepsFolders.find_eq {after : FileTree} (hkeeps : tree.KeepsFolders after)
    (hnode : after.node? (folder ++ [name]) = tree.node? (folder ++ [name])) :
    after.find ⟨rooted, steps ++ [name], false⟩ = tree.find ⟨rooted, steps ++ [name], false⟩ := by
  rw [find_of_walk hname (hkeeps.walk hwalk), find_of_walk hname hwalk, hnode]

omit hname hwalk

theorem exists_walk_of_placeForFile_ok {place : Place}
    (hplace : tree.placeForFile ⟨rooted, steps ++ [name], false⟩ = .ok place) :
    ∃ folder, tree.walk rooted steps = .ok folder := by
  cases hwalk : tree.walk rooted steps with
  | ok folder => exact ⟨folder, rfl⟩
  | error e =>
    rw [placeForFile, goal_of_walk_error hwalk] at hplace
    cases hplace

theorem isFixed_append_name (hname : IsFileName name) (folder : Place) :
    Place.isFixed (folder ++ [name]) = false := by
  obtain ⟨⟨_, _, haround, hslash⟩, _⟩ := hname
  have hroot : folder ++ [name] ≠ Place.root := by
    intro hsame
    obtain rfl : name = "/" := by simpa [Place.root] using congrArg List.getLast? hsame
    exact hslash (by decide)
  simp [Place.isFixed, hroot, haround]

theorem exists_walk_of_find_ok {node : Option FileNode}
    (hfind : tree.find ⟨rooted, steps ++ [name], false⟩ = .ok node) :
    ∃ folder, tree.walk rooted steps = .ok folder := by
  cases hwalk : tree.walk rooted steps with
  | ok folder => exact ⟨folder, rfl⟩
  | error e =>
    rw [find, goal_of_walk_error hwalk] at hfind
    cases hfind

/-- There is a place for a file where no folder is. -/
theorem exists_placeForFile_ok (hname : IsFileName name) {node : Option FileNode}
    (hfind : tree.find ⟨rooted, steps ++ [name], false⟩ = .ok node) (hnode : node ≠ some .folder) :
    ∃ place, tree.placeForFile ⟨rooted, steps ++ [name], false⟩ = .ok place := by
  obtain ⟨folder, hwalk⟩ := exists_walk_of_find_ok hfind
  rw [find_of_walk hname hwalk, Except.ok.injEq] at hfind
  subst hfind
  exact ⟨_, (placeForFile_ok_iff_of_walk hname hwalk).2 ⟨rfl, hnode⟩⟩

variable {document : Document} {after : FileTree}

/-- A name at which a file was written leads to it, and every other name to what it led to. -/
theorem find_write (hname : IsFileName name)
    (hwrite : tree.write ⟨rooted, steps ++ [name], false⟩ document = .ok after) :
    after.find ⟨rooted, steps ++ [name], false⟩ = .ok (some (.file document)) ∧
    ∀ other, IsFileName other → other ≠ name →
      after.find ⟨rooted, steps ++ [other], false⟩ = tree.find ⟨rooted, steps ++ [other], false⟩ := by
  cases hplace : tree.placeForFile ⟨rooted, steps ++ [name], false⟩ with
  | error e =>
    rw [write, hplace] at hwrite
    cases hwrite
  | ok place =>
    rw [write, hplace] at hwrite
    cases hwrite
    obtain ⟨folder, hwalk⟩ := exists_walk_of_placeForFile_ok hplace
    obtain ⟨rfl, hfree⟩ := (placeForFile_ok_iff_of_walk hname hwalk).1 hplace
    have hkeeps := keepsFolders_put hfree (.file document)
    refine ⟨?_, fun other hother hne => ?_⟩
    · rw [find_of_walk hname (hkeeps.walk hwalk), node?_put_self (isFixed_append_name hname folder)]
    · exact hkeeps.find_eq hother hwalk (node?_put_of_ne (by simpa using hne) _)

/-- A file that was renamed is found at its new name alone, and every third name leads to what it
led to. -/
theorem find_rename {source target : String} (hsource : IsFileName source)
    (htarget : IsFileName target)
    (hrename : tree.rename ⟨rooted, steps ++ [source], false⟩ ⟨rooted, steps ++ [target], false⟩ =
      .ok after) :
    (∃ document, tree.find ⟨rooted, steps ++ [source], false⟩ = .ok (some (.file document)) ∧
      after.find ⟨rooted, steps ++ [target], false⟩ = .ok (some (.file document))) ∧
    (source ≠ target → after.find ⟨rooted, steps ++ [source], false⟩ = .ok none) ∧
    ∀ other, IsFileName other → other ≠ source → other ≠ target →
      after.find ⟨rooted, steps ++ [other], false⟩ = tree.find ⟨rooted, steps ++ [other], false⟩ := by
  rw [rename] at hrename
  cases hread : tree.read ⟨rooted, steps ++ [source], false⟩ with
  | error e =>
    rw [hread] at hrename
    cases hrename
  | ok document =>
    cases hold : tree.placeForFile ⟨rooted, steps ++ [source], false⟩ with
    | error e =>
      rw [hread, hold] at hrename
      cases hrename
    | ok old =>
      cases hnew : tree.placeForFile ⟨rooted, steps ++ [target], false⟩ with
      | error e =>
        rw [hread, hold, hnew] at hrename
        cases hrename
      | ok new =>
        rw [hread, hold, hnew] at hrename
        cases hrename
        obtain ⟨folder, hwalk⟩ := exists_walk_of_placeForFile_ok hold
        obtain ⟨rfl, hfree⟩ := (placeForFile_ok_iff_of_walk hsource hwalk).1 hold
        obtain ⟨rfl, hfree'⟩ := (placeForFile_ok_iff_of_walk htarget hwalk).1 hnew
        have hkeeps := keepsFolders_move hfree hfree' (.file document)
        refine ⟨⟨document, read_eq_ok_iff.1 hread, ?_⟩, fun hne => ?_,
          fun other hother hneSource hneTarget => ?_⟩
        · rw [find_of_walk htarget (hkeeps.walk hwalk),
            node?_put_self (isFixed_append_name htarget folder)]
        · rw [find_of_walk hsource (hkeeps.walk hwalk), node?_put_of_ne (by simpa using hne),
            node?_remove_self (isFixed_append_name hsource folder)]
        · refine hkeeps.find_eq hother hwalk ?_
          rw [node?_put_of_ne (by simpa using hneTarget), node?_remove_of_ne (by simpa using hneSource)]

end Named

/-- What is at a path, or why this cannot be told. -/
def reach (tree : FileTree) (path : String) : Except FileError (Option FileNode) :=
  (Directions.ofText path).bind tree.find

/-- The document in the file at a path. -/
def content : Contents FileTree :=
  fun tree path => ((Directions.ofText path).bind tree.read).toOption

theorem content_eq_some_iff {path : String} {document : Document} :
    content tree path = some document ↔ tree.reach path = .ok (some (.file document)) := by
  rw [content, reach]
  cases Directions.ofText path with
  | error e => simp [Except.bind, Except.toOption]
  | ok directions =>
    rw [Except.bind, Except.bind, ← read_eq_ok_iff]
    cases tree.read directions <;> simp [Except.toOption]

theorem content_eq_of_reach {after : FileTree} {path other : String}
    (hreach : after.reach other = tree.reach path) : content after other = content tree path := by
  refine Option.ext fun document => ?_
  rw [content_eq_some_iff, content_eq_some_iff, hreach]

/-- What a request to write does, by whether it succeeds. -/
theorem respond_write_cases (tree : FileTree) (path : String) (document : Document) :
    (∃ directions after, Directions.ofText path = .ok directions ∧
      tree.write directions document = .ok after ∧
      respond (.write path document) tree = (.ok (), after)) ∨
    ∃ e, respond (.write path document) tree = (.error e, tree) := by
  rw [respond]
  cases Directions.ofText path with
  | error e => exact .inr ⟨e, rfl⟩
  | ok directions =>
    simp only [bind, Except.bind]
    cases hwrite : tree.write directions document with
    | error e => exact .inr ⟨e, rfl⟩
    | ok after => exact .inl ⟨directions, after, rfl, hwrite, rfl⟩

theorem respond_rename_cases (tree : FileTree) (source target : String) :
    (∃ first second after, Directions.ofText source = .ok first ∧
      Directions.ofText target = .ok second ∧ tree.rename first second = .ok after ∧
      respond (.rename source target) tree = (.ok (), after)) ∨
    ∃ e, respond (.rename source target) tree = (.error e, tree) := by
  rw [respond]
  cases Directions.ofText source with
  | error e => exact .inr ⟨e, rfl⟩
  | ok first =>
    cases Directions.ofText target with
    | error e => exact .inr ⟨e, rfl⟩
    | ok second =>
      simp only [bind, Except.bind]
      cases hrename : tree.rename first second with
      | error e => exact .inr ⟨e, rfl⟩
      | ok after => exact .inl ⟨first, second, after, rfl, rfl, hrename, rfl⟩

/-- The directions that a path gives, if it gives any, are those to its name. -/
theorem directions_eq {folder name : String} {rooted : Bool} {steps : List String}
    (hpath : Directions.ofText (joinPath folder name) = .ok ⟨rooted, steps ++ [name], false⟩ ∨
      ∃ e, Directions.ofText (joinPath folder name) = .error e) {directions : Directions}
    (hdirections : Directions.ofText (joinPath folder name) = .ok directions) :
    directions = ⟨rooted, steps ++ [name], false⟩ := by
  obtain hok | ⟨e, herror⟩ := hpath
  · exact Except.ok.inj (hdirections.symm.trans hok)
  · cases hdirections.symm.trans herror

/-- Where the names of two trees lead to the same, so do the paths to them. -/
theorem reach_eq_of_find {folder name : String} {rooted : Bool} {steps : List String}
    {after : FileTree}
    (hpath : Directions.ofText (joinPath folder name) = .ok ⟨rooted, steps ++ [name], false⟩ ∨
      ∃ e, Directions.ofText (joinPath folder name) = .error e)
    (hfind : after.find ⟨rooted, steps ++ [name], false⟩ =
      tree.find ⟨rooted, steps ++ [name], false⟩) :
    after.reach (joinPath folder name) = tree.reach (joinPath folder name) := by
  rw [reach, reach]
  obtain hok | ⟨e, herror⟩ := hpath
  · rw [hok]
    exact hfind
  · rw [herror]
    rfl

/-- Something is at a path if it is found there. -/
theorem respond_present (tree : FileTree) (path : String) :
    respond (.present path) tree = (match tree.reach path with
      | .ok (some _) => true
      | _ => false, tree) :=
  rfl

/-- A file is read at a path if it is found there. -/
theorem respond_read (tree : FileTree) (path : String) :
    respond (.read path) tree = ((tree.reach path).bind (fun
      | some (.file document) => .ok document
      | some .folder => .error .isFolder
      | none => .error .notFound), tree) := by
  rw [respond, reach]
  cases Directions.ofText path with
  | error e => rfl
  | ok directions =>
    simp only [Except.bind, read]
    cases tree.find directions with
    | error e => rfl
    | ok node => rcases node with _ | ⟨_ | _⟩ <;> rfl

section Folder

variable (folder : String) {names : List String} (hnames : ∀ name ∈ names, IsFileName name)

include hnames

/-- A file is written as a whole, and nothing else is changed, or nothing at all. -/
theorem reach_respond_write {name : String} (hname : name ∈ names) (document : Document)
    (tree : FileTree) :
    (∃ after, respond (.write (joinPath folder name) document) tree = (.ok (), after) ∧
      after.reach (joinPath folder name) = .ok (some (.file document)) ∧
      ∀ other ∈ names, other ≠ name →
        after.reach (joinPath folder other) = tree.reach (joinPath folder other)) ∨
    ∃ e, respond (.write (joinPath folder name) document) tree = (.error e, tree) := by
  have hfile := hnames name hname
  obtain ⟨directions, after, hdirections, hwrite, hrespond⟩ | hfailed :=
    respond_write_cases tree (joinPath folder name) document
  · obtain rfl := directions_eq (Directions.ofText_joinPath folder hfile.1) hdirections
    obtain ⟨hwritten, hkept⟩ := find_write hfile hwrite
    refine .inl ⟨after, hrespond, ?_, fun other hother hne => ?_⟩
    · rw [reach, hdirections]
      exact hwritten
    · have hfile' := hnames other hother
      exact reach_eq_of_find (Directions.ofText_joinPath folder hfile'.1) (hkept other hfile' hne)
  · exact .inr hfailed

/-- A file takes the place of another one as a whole, and no third one is changed, or nothing at
all is. -/
theorem reach_respond_rename {source target : String} (hsource : source ∈ names)
    (htarget : target ∈ names) (tree : FileTree) :
    (∃ after document,
      respond (.rename (joinPath folder source) (joinPath folder target)) tree = (.ok (), after) ∧
      tree.reach (joinPath folder source) = .ok (some (.file document)) ∧
      after.reach (joinPath folder target) = .ok (some (.file document)) ∧
      (source ≠ target → after.reach (joinPath folder source) = .ok none) ∧
      ∀ other ∈ names, other ≠ source → other ≠ target →
        after.reach (joinPath folder other) = tree.reach (joinPath folder other)) ∨
    ∃ e, respond (.rename (joinPath folder source) (joinPath folder target)) tree =
      (.error e, tree) := by
  have hfile := hnames source hsource
  have hfile' := hnames target htarget
  obtain ⟨first, second, after, hfirst, hsecond, hrename, hrespond⟩ | hfailed :=
    respond_rename_cases tree (joinPath folder source) (joinPath folder target)
  · obtain rfl := directions_eq (Directions.ofText_joinPath folder hfile.1) hfirst
    obtain rfl := directions_eq (Directions.ofText_joinPath folder hfile'.1) hsecond
    obtain ⟨⟨document, hfind, hmoved⟩, hgone, hkept⟩ := find_rename hfile hfile' hrename
    refine .inl ⟨after, document, hrespond, ?_, ?_, fun hne => ?_, fun other hother hne hne' => ?_⟩
    · rw [reach, hfirst]
      exact hfind
    · rw [reach, hsecond]
      exact hmoved
    · rw [reach, hfirst]
      exact hgone hne
    · have hfile'' := hnames other hother
      exact reach_eq_of_find (Directions.ofText_joinPath folder hfile''.1) (hkept other hfile'' hne hne')
  · exact .inr hfailed

/-- Where a path can be followed and does not end at a folder, a file can be written. -/
theorem respond_write_ok {name : String} (hname : name ∈ names) {node : Option FileNode}
    (hreach : tree.reach (joinPath folder name) = .ok node) (hnode : node ≠ some .folder)
    (document : Document) : (respond (.write (joinPath folder name) document) tree).1 = .ok () := by
  have hfile := hnames name hname
  obtain hdirections | ⟨e, herror⟩ := Directions.ofText_joinPath folder hfile.1
  · rw [reach, hdirections] at hreach
    obtain ⟨place, hplace⟩ := exists_placeForFile_ok hfile hreach hnode
    simp only [respond, write, hdirections, hplace, bind, Except.bind, pure, Except.pure, changed]
    rfl
  · rw [reach, herror] at hreach
    cases hreach

/-- A file can take any place in its folder where no folder is. -/
theorem respond_rename_ok {source target : String} (hsource : source ∈ names)
    (htarget : target ∈ names) {document : Document} {node : Option FileNode}
    (hfrom : tree.reach (joinPath folder source) = .ok (some (.file document)))
    (hto : tree.reach (joinPath folder target) = .ok node) (hnode : node ≠ some .folder) :
    (respond (.rename (joinPath folder source) (joinPath folder target)) tree).1 = .ok () := by
  have hfile := hnames source hsource
  have hfile' := hnames target htarget
  obtain hfirst | ⟨e, herror⟩ := Directions.ofText_joinPath folder hfile.1
  · obtain hsecond | ⟨e, herror⟩ := Directions.ofText_joinPath folder hfile'.1
    · rw [reach, hfirst] at hfrom
      rw [reach, hsecond] at hto
      have hread := read_eq_ok_iff.2 hfrom
      obtain ⟨old, hold⟩ := exists_placeForFile_ok hfile hfrom (by simp)
      obtain ⟨new, hnew⟩ := exists_placeForFile_ok hfile' hto hnode
      simp only [respond, rename, hfirst, hsecond, hread, hold, hnew, bind, Except.bind, pure,
        Except.pure, changed]
      rfl
    · rw [reach, herror] at hto
      cases hto
  · rw [reach, herror] at hfrom
    cases hfrom

/-- A tree of files does what it tells about names in a folder. -/
theorem isFaithful_answer : answer.IsFaithful content (names.map (joinPath folder)) := by
  have hne {name other : String} (hpaths : joinPath folder other ≠ joinPath folder name) :
      other ≠ name := fun hsame => hpaths (hsame ▸ rfl)
  constructor
  case keeps_present => exact fun _ _ _ _ _ => rfl
  case keeps_read => exact fun _ _ _ _ _ => rfl
  case read_ok => exact fun _ _ _ _ hread => congrArg Except.toOption hread
  case absent =>
    intro path _ before habsent
    have habsent : (respond (.present path) before).1 = false := habsent
    refine Option.eq_none_iff_forall_ne_some.2 fun document hdocument => ?_
    rw [respond_present, content_eq_some_iff.1 hdocument] at habsent
    cases habsent
  case write_other =>
    intro path hpath otherPath hotherPath hpaths document before kept hkept
    obtain rfl := List.mem_singleton.1 hkept
    obtain ⟨name, hname, rfl⟩ := List.mem_map.1 hpath
    obtain ⟨other, hother, rfl⟩ := List.mem_map.1 hotherPath
    obtain ⟨after, hrespond, _, hkept⟩ | ⟨e, hrespond⟩ :=
      reach_respond_write folder hnames hname document before
    · rw [answer, hrespond]
      exact content_eq_of_reach (hkept other hother (hne hpaths))
    · rw [answer, hrespond]
  case write_ok =>
    intro path hpath document before hok
    obtain ⟨name, hname, rfl⟩ := List.mem_map.1 hpath
    obtain ⟨after, hrespond, hwritten, _⟩ | ⟨e, hrespond⟩ :=
      reach_respond_write folder hnames hname document before
    · rw [answer, hrespond]
      exact content_eq_some_iff.2 hwritten
    · rw [answer, hrespond] at hok
      cases hok
  case rename_other =>
    intro sourcePath hsourcePath targetPath htargetPath otherPath hotherPath hpaths hpaths' before
      kept hkept
    obtain rfl := List.mem_singleton.1 hkept
    obtain ⟨source, hsource, rfl⟩ := List.mem_map.1 hsourcePath
    obtain ⟨target, htarget, rfl⟩ := List.mem_map.1 htargetPath
    obtain ⟨other, hother, rfl⟩ := List.mem_map.1 hotherPath
    obtain ⟨after, _, hrespond, _, _, _, hkept⟩ | ⟨e, hrespond⟩ :=
      reach_respond_rename folder hnames hsource htarget before
    · rw [answer, hrespond]
      exact content_eq_of_reach (hkept other hother (hne hpaths) (hne hpaths'))
    · rw [answer, hrespond]
  case rename_ok =>
    intro sourcePath hsourcePath targetPath htargetPath _ before hok
    obtain ⟨source, hsource, rfl⟩ := List.mem_map.1 hsourcePath
    obtain ⟨target, htarget, rfl⟩ := List.mem_map.1 htargetPath
    obtain ⟨after, document, hrespond, hsourceFile, htargetFile, _⟩ | ⟨e, hrespond⟩ :=
      reach_respond_rename folder hnames hsource htarget before
    · rw [answer, hrespond]
      exact content_eq_of_reach (htargetFile.trans hsourceFile.symm)
    · rw [answer, hrespond] at hok
      cases hok
  case rename_error =>
    intro sourcePath hsourcePath targetPath htargetPath before e herror
    obtain ⟨source, hsource, rfl⟩ := List.mem_map.1 hsourcePath
    obtain ⟨target, htarget, rfl⟩ := List.mem_map.1 htargetPath
    obtain ⟨after, _, hrespond, _⟩ | ⟨_, hrespond⟩ :=
      reach_respond_rename folder hnames hsource htarget before
    · rw [answer, hrespond] at herror
      cases herror
    · rw [answer, hrespond]

end Folder

end FileTree

end AddressIntake

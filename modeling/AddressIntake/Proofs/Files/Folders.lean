import AddressIntake.Proofs.Files.Places

namespace AddressIntake

namespace FileTree

variable {tree other after : FileTree}

/-- The steps of a path lead to the folder at a place. -/
def Opens (tree : FileTree) (path : String) (place : Place) : Prop :=
  tree.walk (Directions.split path).rooted (Directions.split path).steps = .ok place

theorem walk_append_singleton (tree : FileTree) (rooted : Bool) (steps : List String)
    (last : String) :
    tree.walk rooted (steps ++ [last]) = (tree.walk rooted steps).bind (tree.enter · last) := by
  rw [walk, walk, List.foldlM_append]
  cases steps.foldlM tree.enter (if rooted then Place.root else []) with
  | error e => rfl
  | ok folder =>
    simp only [bind, Except.bind, List.foldlM_cons, List.foldlM_nil]
    cases tree.enter folder last <;> rfl

/-- Directions end at a folder if their steps lead to one. -/
theorem find_eq_folder_iff {directions : Directions} :
    tree.find directions = .ok (some .folder) ↔
      ∃ place, tree.walk directions.rooted directions.steps = .ok place := by
  obtain ⟨rooted, steps, toFolder⟩ := directions
  rcases List.eq_nil_or_concat steps with rfl | ⟨front, last, rfl⟩
  · exact iff_of_true rfl ⟨_, rfl⟩
  · simp only [List.concat_eq_append, walk_append_singleton, find, goal, List.dropLast_concat,
      List.getLast?_concat]
    rw [walk]
    cases front.foldlM tree.enter (if rooted then Place.root else []) with
    | error e => simp [bind, Except.bind]
    | ok folder =>
      simp only [bind, Except.bind, enter]
      by_cases hhere : last = Directions.here
      · simp [hhere, pure, Except.pure]
      · by_cases haround : last = Directions.around
        · have hdots : Directions.around ≠ Directions.here := by decide
          simp [haround, hdots, pure, Except.pure]
        · simp only [beq_eq_false_iff_ne.2 hhere, beq_eq_false_iff_ne.2 haround, Bool.or_self,
            Bool.false_eq_true, if_false, pure, Except.pure]
          rcases tree.lookup folder last with e | _ | _ | document
          · simp
          · simp
          · simp
          · cases toFolder <;> simp [throw, throwThe, MonadExceptOf.throw]

/-- A tree in which nothing has changed but that there are folders where nothing was. -/
def AddsFolders (tree after : FileTree) : Prop :=
  ∀ place, after.node? place = tree.node? place ∨
    tree.node? place = none ∧ after.node? place = some .folder

theorem AddsFolders.refl (tree : FileTree) : tree.AddsFolders tree :=
  fun _ => .inl rfl

theorem AddsFolders.trans {third : FileTree} (hadds : tree.AddsFolders after)
    (hnext : after.AddsFolders third) : tree.AddsFolders third := by
  intro place
  obtain hsame | ⟨hnone, hfolder⟩ := hnext place
  · rw [hsame]
    exact hadds place
  · obtain hsame | ⟨_, hfolder'⟩ := hadds place
    · exact .inr ⟨hsame ▸ hnone, hfolder⟩
    · cases hnone.symm.trans hfolder'

/-- A folder is only made where nothing was, and then it is there. -/
theorem makeFolder_eq_ok {directions : Directions} (hmake : tree.makeFolder directions = .ok after) :
    after.find directions = .ok (some .folder) ∧ tree.AddsFolders after := by
  rw [makeFolder] at hmake
  obtain ⟨goal, hgoal, hmake⟩ := exists_of_bind_eq_ok hmake
  cases goal with
  | folder place => cases hmake
  | named folder name =>
    obtain ⟨node, hlookup, hmake⟩ := exists_of_bind_eq_ok hmake
    cases node with
    | some node => cases hmake
    | none =>
      cases hmake
      obtain ⟨hshort, hnone⟩ := lookup_eq_ok_iff.1 hlookup
      have hfree : tree.node? (folder ++ [name]) ≠ some .folder := by simp [hnone]
      have hmade : (tree.put (folder ++ [name]) .folder).node? (folder ++ [name]) = some .folder :=
        node?_put_self (isFixed_of_not_folder hfree) .folder
      have hkeeps := keepsFolders_put hfree .folder
      refine ⟨?_, fun place => ?_⟩
      · simp only [find, hkeeps.goal hgoal, lookup_eq_ok_iff.2 ⟨hshort, hmade⟩, bind, Except.bind]
        rfl
      · by_cases hplace : place = folder ++ [name]
        · exact .inr ⟨hplace ▸ hnone, hplace ▸ hmade⟩
        · exact .inl (node?_put_of_ne hplace _)

/-- Where a folder is, none is made. -/
theorem ensureFolder_of_find {directions : Directions}
    (hfind : tree.find directions = .ok (some .folder)) :
    tree.ensureFolder directions = (.ok (), tree) := by
  have hthere : tree.isFolder directions = true := by rw [isFolder, hfind]
  cases hmake : tree.makeFolder directions with
  | error e =>
    rw [ensureFolder, hmake]
    exact Prod.ext (if_pos hthere) rfl
  | ok after =>
    rw [makeFolder] at hmake
    rw [find] at hfind
    obtain ⟨goal, hgoal, hmake⟩ := exists_of_bind_eq_ok hmake
    rw [hgoal] at hfind
    cases goal with
    | folder place => cases hmake
    | named folder name =>
      obtain ⟨node, hlookup, hmake⟩ := exists_of_bind_eq_ok hmake
      dsimp only [bind, Except.bind] at hfind
      rw [hlookup] at hfind
      cases node with
      | none => cases hfind
      | some node => cases hmake

theorem ensureFolder_spec (tree : FileTree) (directions : Directions) :
    tree.AddsFolders (tree.ensureFolder directions).2 ∧
      ((tree.ensureFolder directions).1 = .ok () →
        (tree.ensureFolder directions).2.find directions = .ok (some .folder)) := by
  rw [ensureFolder]
  cases hmake : tree.makeFolder directions with
  | ok after => exact ⟨(makeFolder_eq_ok hmake).2, fun _ => (makeFolder_eq_ok hmake).1⟩
  | error e =>
    refine ⟨.refl tree, fun hok => ?_⟩
    dsimp only at hok ⊢
    rw [isFolder] at hok
    split at hok
    · assumption
    · cases hok

theorem ensureFolders_spec (tree : FileTree) (directions : Directions) (around : List Directions) :
    tree.AddsFolders (tree.ensureFolders directions around).2 ∧
      ((tree.ensureFolders directions around).1 = .ok () →
        (tree.ensureFolders directions around).2.find directions = .ok (some .folder)) := by
  induction around generalizing directions with
  | nil => exact ensureFolder_spec tree directions
  | cons outer rest ih =>
    rw [ensureFolders]
    split
    · obtain ⟨hadds, _⟩ := ih outer
      split
      · rename_i after houter
        rw [houter] at hadds
        obtain ⟨hadds', hthere⟩ := ensureFolder_spec after directions
        exact ⟨hadds.trans hadds', hthere⟩
      · rename_i hfailed
        refine ⟨hadds, fun hok => ?_⟩
        exact (hfailed (tree.ensureFolders outer rest).2 (Prod.ext hok rfl)).elim
    · exact ensureFolder_spec tree directions

theorem ensureFolders_of_find {directions : Directions}
    (hfind : tree.find directions = .ok (some .folder)) (around : List Directions) :
    tree.ensureFolders directions around = (.ok (), tree) := by
  cases around with
  | nil => exact ensureFolder_of_find hfind
  | cons outer rest => rw [ensureFolders, ensureFolder_of_find hfind]

/-- A folder that was made is there, and where it is, to make it changes nothing. -/
theorem makeFolders_spec {path : String} (hmake : tree.makeFolders path = (.ok (), after)) :
    tree.AddsFolders after ∧ (∃ place, after.Opens path place) ∧
      ∀ (later : FileTree) (place : Place), later.Opens path place →
        later.makeFolders path = (.ok (), later) := by
  rw [makeFolders] at hmake
  split at hmake
  · rename_i hempty
    cases hmake
    refine ⟨.refl tree, ⟨[], ?_⟩, fun later place _ => by rw [makeFolders, if_pos hempty]⟩
    obtain rfl := String.isEmpty_iff.1 hempty
    rfl
  · rename_i hempty
    cases hdirections : Directions.ofText path with
    | error e =>
      rw [hdirections] at hmake
      cases hmake
    | ok directions =>
      rw [hdirections] at hmake
      dsimp only at hmake
      have hsplit := Directions.eq_split_of_ofText hdirections
      obtain ⟨hadds, hthere⟩ := ensureFolders_spec tree directions directions.ancestors
      rw [hmake] at hadds hthere
      refine ⟨hadds, ?_, fun later place hopens => ?_⟩
      · rw [hsplit] at hthere
        exact find_eq_folder_iff.1 (hthere rfl)
      · rw [makeFolders, if_neg hempty, hdirections]
        refine ensureFolders_of_find (find_eq_folder_iff.2 ⟨place, ?_⟩) _
        rw [hsplit]
        exact hopens

section Names

variable {folder name : String} {place : Place}

theorem Opens.keepsFolders (hopens : tree.Opens folder place) (hkeeps : tree.KeepsFolders other) :
    other.Opens folder place :=
  hkeeps.walk hopens

/-- A name in a folder has its place there, unless there is a folder at it. -/
theorem Opens.placeOf_eq (hopens : tree.Opens folder place) (hname : IsFileName name) :
    (∃ e, Directions.ofText (joinPath folder name) = .error e) ∨
      tree.reach (joinPath folder name) = .ok (tree.node? (place ++ [name])) ∧
      (tree.node? (place ++ [name]) = some .folder ∧
          tree.placeOf (joinPath folder name) = .error .isFolder ∨
        tree.node? (place ++ [name]) ≠ some .folder ∧
          tree.placeOf (joinPath folder name) = .ok (place ++ [name])) := by
  obtain hdirections | hfailed := Directions.ofText_joinPath folder hname.1
  · rw [reach, placeOf, hdirections]
    refine .inr ⟨find_of_walk hname hopens, ?_⟩
    by_cases hnode : tree.node? (place ++ [name]) = some .folder
    · refine .inl ⟨hnode, ?_⟩
      have hlookup : tree.lookup place name = .ok (some .folder) :=
        lookup_eq_ok_iff.2 ⟨hname.2, hnode⟩
      simp only [Except.bind, placeForFile, goal_of_walk hname hopens, bind, hlookup]
      rfl
    · exact .inr ⟨hnode, (placeForFile_ok_iff_of_walk hname hopens).2 ⟨rfl, hnode⟩⟩
  · exact .inl hfailed

/-- In a tree with the same folders, the same is told of the place of a name. -/
theorem Opens.placeOf_eq_of_sameFolders (hopens : tree.Opens folder place)
    (hname : IsFileName name) (hsame : tree.SameFolders other) :
    other.placeOf (joinPath folder name) = tree.placeOf (joinPath folder name) := by
  obtain ⟨e, herror⟩ | ⟨_, hplaces⟩ := hopens.placeOf_eq hname
  · rw [placeOf, placeOf, herror]
    rfl
  · obtain ⟨e, herror⟩ | ⟨_, hplaces'⟩ :=
      (hopens.keepsFolders hsame.keepsFolders).placeOf_eq hname
    · rw [placeOf, placeOf, herror]
      rfl
    · obtain ⟨hnode, hplace⟩ | ⟨hnode, hplace⟩ := hplaces
      · obtain ⟨_, hplace'⟩ | ⟨hnode', _⟩ := hplaces'
        · rw [hplace, hplace']
        · exact absurd ((hsame _).1 hnode) hnode'
      · obtain ⟨hnode', _⟩ | ⟨_, hplace'⟩ := hplaces'
        · exact absurd ((hsame _).2 hnode') hnode
        · rw [hplace, hplace']

/-- To put a file at a place to which a name does not lead makes no difference to the name. -/
theorem Opens.reach_put (hopens : tree.Opens folder place) (hname : IsFileName name)
    {written : Place} (hfree : tree.node? written ≠ some .folder)
    (hapart : tree.placeOf (joinPath folder name) ≠ .ok written) (document : Document) :
    (tree.put written (.file document)).reach (joinPath folder name) =
      tree.reach (joinPath folder name) := by
  have hopens' := hopens.keepsFolders (sameFolders_put hfree document).keepsFolders
  obtain ⟨e, herror⟩ | ⟨hreach, hplaces⟩ := hopens.placeOf_eq hname
  · rw [reach, reach, herror]
    rfl
  · obtain ⟨e, herror⟩ | ⟨hreach', _⟩ := hopens'.placeOf_eq hname
    · rw [reach, reach, herror]
      rfl
    · rw [hreach, hreach', node?_put_of_ne]
      rintro rfl
      obtain ⟨hnode, _⟩ | ⟨_, hplace⟩ := hplaces
      · exact hfree hnode
      · exact hapart hplace

end Names

end FileTree

end AddressIntake

import AddressIntake.Proofs.Cli.Surroundings
import AddressIntake.Proofs.Variables

namespace AddressIntake

namespace Cli.Job

variable {folder input : String} {target : Target} {host after : Host} {kind : AddressKind}
  {result : ValidationResult} (options : CommitOptions) (errors : Option String)

/-- The document of rows between the two steps of an import. -/
def rowsDocument (rows : List Row) : Document :=
  .ofText (Json.indented (Json.ofList Row.toJson rows))

theorem exists_text_rowsDocument (rows : List Row) :
    ∃ cs, (rowsDocument rows).text? = some cs ∧ parseRows cs = .ok rows := by
  have hrows := Json.isLossless_list Row.isLossless
  refine ⟨_, Text.Utf8.decode?_encode _, ?_⟩
  rw [parseRows, Json.indented, Json.decode_print _ Json.isSpaced_indented 0
    (hrows.isPlain rows fun _ _ => trivial), hrows.read_node rows fun _ _ => trivial]

section Import

variable (hpreview : (preview Host.machine folder input target).run host = (.ok result, after))

include hpreview

/-- A file with errors is reported, and nothing is stored. -/
theorem tree_importFile_of_faulty (hhealthy : after.IsHealthy) (hfaulty : result.isClean = false) :
    ((importFile Host.machine folder input target options errors).run host).2.tree =
      reported result.errors errors after.tree := by
  obtain ⟨ending, count, hwrite⟩ := run_writeErrors hhealthy result.errors errors
  have hfailed : (importFile Host.machine folder input target options errors).run host =
      ((do
        writeErrors Host.machine result.errors errors
        throw (.failed s!"{result.errorRows} invalid row(s), nothing imported")) :
          Job (StateM Host) Unit).run after := by
    rw [importFile, run_bind_of_ok hpreview, hfaulty]
    rfl
  rw [hfailed, run_bind, hwrite]
  cases ending <;> rfl

/-- The rows of a file without errors are committed, and the result is reported. -/
theorem tree_importFile_of_clean (hclean : result.isClean = true)
    (hkind : AddressKind.parse target.kind = .ok kind) {written : ImportResult} {last : Host}
    (hcommit : Pipeline.run (StoreFolder.answer Host.answer Host.fresh folder)
      (commitRows target.project kind result.rows options) after = (.ok written, last))
    (hhealthy : last.IsHealthy) :
    ((importFile Host.machine folder input target options errors).run host).2.tree =
      reported written.errors errors last.tree := by
  obtain ⟨ending, count, hfinish⟩ := run_finishCommit hhealthy written errors
  have hresolve := run_resolve target after
  rw [hkind] at hresolve
  have hperform := run_perform folder ImportError.message
    (commitRows target.project kind result.rows options) after
  rw [hcommit] at hperform
  have hdone : (importFile Host.machine folder input target options errors).run host =
      (ending, last.moved (reported written.errors errors last.tree) count) := by
    rw [importFile, run_bind_of_ok hpreview, hclean]
    exact (run_bind_of_ok hresolve).trans ((run_bind_of_ok hperform).trans hfinish)
  rw [hdone, Host.moved_tree]

/-- The rows of a file are written down. -/
theorem run_validate (hhealthy : after.IsHealthy) (rowsPath : String) :
    ∃ ending count, (validate Host.machine folder input target (some rowsPath) none).run host =
      (ending, after.moved
        (FileTree.respond (.write rowsPath (rowsDocument result.rows)) after.tree).2 count) := by
  obtain ⟨ending, count, houtput⟩ := run_writeOutput hhealthy rowsPath
    (Json.indented (Json.ofList Row.toJson result.rows))
  have hnone : (writeErrors Host.machine result.errors none).run after = (.ok (), after) := rfl
  rw [validate, run_bind_of_ok hpreview, run_bind_of_ok hnone, rowsDocument]
  cases ending with
  | error ending => exact ⟨_, count, run_bind_of_error houtput⟩
  | ok done =>
    cases hclean : result.isClean <;> exact ⟨_, count, run_bind_of_ok houtput⟩

/-- A machine that holds what a tree holds, and the rows of a file at a path apart from a store. -/
structure KeepsRows (outside : String → Option String) (folder rowsPath : String) (rows : List Row)
    (tree : FileTree) (host : Host) : Prop where
  healthy : host.IsHealthy
  folders : tree.SameFolders host.tree
  surroundings : variablesIn outside host.tree = variablesIn outside tree
  stored : ∀ file ∈ StoreFolder.paths folder, host.tree.reach file = tree.reach file
  rows : host.tree.reach rowsPath = .ok (some (.file (rowsDocument rows)))

/-- A check leaves nothing behind but the rows. -/
theorem keepsRows_validate (hhealthy : after.IsHealthy) (outside : String → Option String)
    {rowsPath : String} {outer : Place} (hopens : after.tree.Opens folder outer)
    (hfree : StoreFolder.IsFree folder rowsPath after.tree) :
    KeepsRows outside folder rowsPath result.rows after.tree
      ((validate Host.machine folder input target (some rowsPath) none).run host).2 := by
  obtain ⟨hapart, place, hplace, hvacant⟩ := hfree
  obtain ⟨_, count, hvalidate⟩ := run_validate hpreview hhealthy rowsPath
  rw [FileTree.respond_write_eq, hplace] at hvalidate
  rw [hvalidate]
  exact {
    healthy := hhealthy
    folders := FileTree.sameFolders_put (FileTree.not_folder_of_placeOf hplace) _
    surroundings := variablesIn_put hvacant (Variables.ofBytes_list outside Row.toJson result.rows)
    stored := fun _ hfile => hapart.reach_put hopens hplace _ hfile
    rows := FileTree.reach_put_self hplace _ }

end Import

section Commit

variable {rowsPath : String}

/-- What a commit does once it has tried to read the rows. -/
def commitText (folder rowsPath : String) (target : Target) (kind : AddressKind)
    (options : CommitOptions) (errors : Option String) (text : Except String (List Char)) :
    Job (StateM Host) Unit := do
  let text ← ofExcept id text
  let rows ← ofExcept id (parseRows text)
  say Host.machine s!"💾 Committing {rows.length} rows from: {rowsPath}"
  let result ← perform Host.machine folder ImportError.message
    (commitRows target.project kind rows options)
  finishCommit Host.machine result errors

theorem run_commit_of_kind (hkind : AddressKind.parse target.kind = .ok kind) (host : Host) :
    (commit Host.machine folder rowsPath target options errors).run host =
      (commitText folder rowsPath target kind options errors (Host.answer.readText rowsPath host).1).run
        (Host.answer.readText rowsPath host).2 := by
  have hresolve := run_resolve target host
  rw [hkind] at hresolve
  rw [commit, run_bind_of_ok hresolve]
  rfl

/-- Rows are not committed from a file that cannot be read. -/
theorem tree_commit_of_error (hhealthy : host.IsHealthy) {e : FileError}
    (hread : (FileTree.respond (.read rowsPath) host.tree).1 = .error e) :
    ((commit Host.machine folder rowsPath target options errors).run host).2.tree = host.tree := by
  cases hkind : AddressKind.parse target.kind with
  | error e =>
    have hresolve := run_resolve target host
    rw [hkind] at hresolve
    rw [commit, run_bind_of_error hresolve]
  | ok kind =>
    have hanswer : Host.answer (.read rowsPath) host = (.error e, host.moved host.tree 1) := by
      rw [← hread]
      exact Host.respond_of_isHealthy hhealthy _
    have htext : Host.answer.readText rowsPath host = _ := Contents.bind_eq_of_eq hanswer
    rw [run_commit_of_kind options errors hkind, htext]
    have hfailed : (commitText folder rowsPath target kind options errors (.error e.message)).run
        (host.moved host.tree 1) = _ :=
      run_bind_of_error (run_ofExcept id (.error e.message) _)
    exact congrArg (fun done => done.2.tree) hfailed

/-- Rows that were written down are committed as they were, and the result is reported. -/
theorem tree_commit_of_rows (hhealthy : host.IsHealthy)
    (hkind : AddressKind.parse target.kind = .ok kind) {rows : List Row}
    (hrows : host.tree.reach rowsPath = .ok (some (.file (rowsDocument rows))))
    {written : ImportResult} {last : Host}
    (hcommit : Pipeline.run (StoreFolder.answer Host.answer Host.fresh folder)
      (commitRows target.project kind rows options) (host.moved host.tree 1) = (.ok written, last))
    (hlast : last.IsHealthy) :
    ((commit Host.machine folder rowsPath target options errors).run host).2.tree =
      reported written.errors errors last.tree := by
  obtain ⟨cs, htext, hparse⟩ := exists_text_rowsDocument rows
  have hread : Host.answer.readText rowsPath host = (.ok cs, host.moved host.tree 1) := by
    rw [host.readText_eq hrows, hhealthy, Host.textAt, htext]
  obtain ⟨ending, count, hfinish⟩ := run_finishCommit hlast written errors
  have hperform := run_perform folder ImportError.message
    (commitRows target.project kind rows options) (host.moved host.tree 1)
  rw [hcommit] at hperform
  have hparsed : (ofExcept id (parseRows cs) : Job (StateM Host) _).run (host.moved host.tree 1) =
      (.ok rows, host.moved host.tree 1) := (run_ofExcept ..).trans (by rw [hparse]; rfl)
  rw [run_commit_of_kind options errors hkind, hread, commitText,
    run_bind_of_ok (run_ofExcept id (.ok cs) _), run_bind_of_ok hparsed,
    run_bind_of_ok (run_say _ _), run_bind_of_ok hperform, hfinish, Host.moved_tree]

end Commit

section Reported

variable {tree other : FileTree} {outer : Place}

theorem reported_eq (errors : List RowError) (path : String) (tree : FileTree) :
    reported errors (some path) tree = match tree.placeOf path with
      | .ok place => tree.put place (.file (errorReport errors))
      | .error _ => tree := by
  rw [reported, FileTree.respond_write_eq]
  cases tree.placeOf path <;> rfl

/-- The same report leaves the same behind, at its path and in the store. -/
theorem reported_of_holdsAlike (hholds : StoreFolder.HoldsAlike folder tree other)
    (list : List RowError) (path : Option String) :
    StoreFolder.HoldsAlike folder (reported list path tree) (reported list path other) ∧
      ∀ p ∈ path, FileTree.content (reported list path other) p =
        FileTree.content (reported list path tree) p := by
  cases path with
  | none => exact ⟨hholds, fun _ hp => by cases hp⟩
  | some path =>
    rw [reported_eq, reported_eq]
    cases hplace : tree.placeOf path with
    | ok place =>
      have hother := hholds.folders.placeOf hplace
      have hfree := FileTree.not_folder_of_placeOf hplace
      rw [hother]
      refine ⟨hholds.put hfree _, fun p hp => ?_⟩
      obtain rfl := Option.mem_some.1 hp
      rw [FileTree.content_eq_some_iff.2 (FileTree.reach_put_self hplace _),
        FileTree.content_eq_some_iff.2 (FileTree.reach_put_self hother _)]
    | error e =>
      cases hother : other.placeOf path with
      | ok place => cases hplace.symm.trans (hholds.folders.symm.placeOf hother)
      | error e' =>
        refine ⟨hholds, fun p hp => ?_⟩
        obtain rfl := Option.mem_some.1 hp
        rw [FileTree.content_eq_none_of_placeOf hplace, FileTree.content_eq_none_of_placeOf hother]

/-- A report apart from the store makes no difference to it. -/
theorem reach_reported (hopens : tree.Opens folder outer) (list : List RowError)
    {path : Option String} (hapart : ∀ p ∈ path, StoreFolder.IsApart folder p tree) {file : String}
    (hfile : file ∈ StoreFolder.paths folder) :
    (reported list path tree).reach file = tree.reach file := by
  cases path with
  | none => rfl
  | some path =>
    rw [reported_eq]
    cases hplace : tree.placeOf path with
    | error e => rfl
    | ok place => exact (hapart path rfl).reach_put hopens hplace _ hfile

end Reported

/-- Where the rows of a preview were written down in one of two trees that hold the same, an import of
the file and a commit of the rows report the same list, over trees that hold alike. If the list is not
empty already at the preview, nothing else is written. -/
theorem exists_reported {first second : Host} {rowsPath : String} {n : Nat}
    (hholds : StoreFolder.Alike folder first second)
    (hsame : StoreFolder.loaded folder second.tree = StoreFolder.loaded folder first.tree)
    (hpreview : (preview Host.machine folder input target).run first =
      (.ok result, first.moved first.tree n))
    (hrows : second.tree.reach rowsPath = .ok (some (.file (rowsDocument result.rows))))
    (hkind : AddressKind.parse target.kind = .ok kind)
    (hcheck : ChecksTo folder target.project kind result.rows result.errors first.tree) :
    ∃ list last last',
      ((importFile Host.machine folder input target options errors).run first).2.tree =
        reported list errors last ∧
      ((commit Host.machine folder rowsPath target options errors).run second).2.tree =
        reported list errors last' ∧
      StoreFolder.HoldsAlike folder last last' ∧
      (result.isClean = false → last = first.tree ∧ last' = second.tree) := by
  have halike := hholds.moved n 1
  obtain ⟨i, hchecked⟩ := hcheck _ halike.healthy rfl
  obtain ⟨j, hchecked'⟩ := hcheck _ halike.healthy' hsame
  rw [Host.moved_tree, Host.moved_moved] at hchecked hchecked'
  cases hclean : result.isClean with
  | false =>
    -- The import stops at the preview, and the commit finds the same errors at its own check.
    have hne : result.errors ≠ [] := fun hnil => by simp [ValidationResult.isClean, hnil] at hclean
    have hcommit := Pipeline.run_commitRows_of_errors _ result.rows options hne hchecked'
    have himported := tree_importFile_of_faulty options errors hpreview halike.healthy hclean
    have hcommitted :=
      tree_commit_of_rows options errors hholds.healthy' hkind hrows hcommit hholds.healthy'
    exact ⟨_, _, _, himported, hcommitted, hholds.holds, fun _ => ⟨rfl, rfl⟩⟩
  | true =>
    -- Both commit the rows, over folders that hold the same at the start.
    rw [List.isEmpty_iff.1 hclean] at hchecked
    have hcommit := Pipeline.run_commitRows_of_clean _ result.rows options hchecked
    have hlast := halike.run_commitRows target.project kind hsame result.rows options
    cases hcommit' : Pipeline.run (StoreFolder.answer Host.answer Host.fresh folder)
        (commitRows target.project kind result.rows options) (second.moved second.tree 1) with
    | mk written' last' =>
      rw [hcommit, hcommit'] at hlast
      obtain ⟨rfl, hlast⟩ := hlast
      have himported :=
        tree_importFile_of_clean options errors hpreview hclean hkind hcommit hlast.healthy
      have hcommitted :=
        tree_commit_of_rows options errors hholds.healthy' hkind hrows hcommit' hlast.healthy'
      exact ⟨_, _, _, himported, hcommitted, hlast.holds, fun hfaulty => by cases hfaulty⟩

/-- To commit rows that were kept leaves the same behind as to import the file they came from. -/
theorem commit_of_keepsRows {first second : Host} (hfirst : first.IsHealthy) {outer : Place}
    (hopens : first.tree.Opens folder outer) {outside : String → Option String} {rowsPath : String}
    (hkept : KeepsRows outside folder rowsPath result.rows first.tree second) {n : Nat}
    (hpreview : (preview Host.machine folder input target).run first =
      (.ok result, first.moved first.tree n))
    (hkind : AddressKind.parse target.kind = .ok kind)
    (hcheck : ChecksTo folder target.project kind result.rows result.errors first.tree) :
    let imported := ((importFile Host.machine folder input target options errors).run first).2.tree
    let committed := ((commit Host.machine folder rowsPath target options errors).run second).2.tree
    StoreFolder.HoldsAlike folder imported committed ∧
      (result.isClean = false → (∀ path ∈ errors, StoreFolder.IsApart folder path first.tree) →
        ∀ file ∈ StoreFolder.paths folder,
          imported.reach file = first.tree.reach file ∧
            committed.reach file = first.tree.reach file) ∧
      ∀ path ∈ errors, FileTree.content committed path = FileTree.content imported path := by
  have hopens' := hopens.keepsFolders hkept.folders.keepsFolders
  have hholds := StoreFolder.holdsAlike_of_reach hopens hkept.folders hkept.stored
  obtain ⟨list, last, last', himported, hcommitted, hlast, hfaulty⟩ :=
    exists_reported options errors ⟨hfirst, hkept.healthy, hholds⟩
      (StoreFolder.loaded_congr hkept.stored) hpreview hkept.rows hkind hcheck
  rw [himported, hcommitted]
  obtain ⟨hreported, hlists⟩ := reported_of_holdsAlike hlast list errors
  refine ⟨hreported, fun hunclean hreport file hfile => ?_, hlists⟩
  obtain ⟨rfl, rfl⟩ := hfaulty hunclean
  have hreport' := fun path hpath => (hreport path hpath).of_sameFolders hopens hkept.folders
  exact ⟨reach_reported hopens list hreport hfile,
    (reach_reported hopens' list hreport' hfile).trans (hkept.stored file hfile)⟩

end Cli.Job

end AddressIntake

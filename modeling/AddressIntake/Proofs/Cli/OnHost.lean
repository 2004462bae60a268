import AddressIntake.Cli.Program
import AddressIntake.Proofs.Documents
import AddressIntake.Proofs.Import.Lockstep
import AddressIntake.Proofs.Rendering

namespace AddressIntake

/-- The program's machine over a machine with files. It has no network. -/
def Host.machine : Cli.Machine (StateM Host) where
  files := Host.answer
  stamp := Host.fresh
  print _ := pure ()
  report _ := pure ()
  serve _ := pure (.error "no network")

namespace Cli.Job

open Pipeline (OnlyQueries onlyQueries_checkStored onlyQueries_previewUpload)

variable {α β ε : Type} {host : Host} {folder : String}

/-- A command goes on from where its first part leaves the machine, unless that part ends it. -/
theorem run_bind (job : Job (StateM Host) α) (next : α → Job (StateM Host) β) (host : Host) :
    (job >>= next).run host = match job.run host with
      | (.ok value, after) => (next value).run after
      | (.error ending, after) => (.error ending, after) := by
  change (ExceptT.bindCont next (job.run host).1) (job.run host).2 = _
  cases job.run host with
  | mk result after => cases result <;> rfl

theorem run_bind_of_ok {job : Job (StateM Host) α} {next : α → Job (StateM Host) β} {value : α}
    {after : Host} (hjob : job.run host = (.ok value, after)) :
    (job >>= next).run host = (next value).run after := by
  rw [run_bind, hjob]

theorem run_bind_of_error {job : Job (StateM Host) α} {next : α → Job (StateM Host) β}
    {ending : Ending} {after : Host} (hjob : job.run host = (.error ending, after)) :
    (job >>= next).run host = (.error ending, after) := by
  rw [run_bind, hjob]

theorem run_say (line : String) (host : Host) : (say Host.machine line).run host = (.ok (), host) :=
  rfl

theorem run_sayAll (lines : List String) (host : Host) :
    (sayAll Host.machine lines).run host = (.ok (), host) := by
  induction lines with
  | nil => rfl
  | cons line rest ih => exact (run_bind_of_ok (run_say line host)).trans ih

theorem run_ofExcept (wording : ε → String) (result : Except ε α) (host : Host) :
    (ofExcept wording result : Job (StateM Host) α).run host =
      (result.mapError (.failed <| wording ·), host) := by
  cases result <;> rfl

theorem run_perform (folder : String) (wording : ε → String) (script : Pipeline (Except ε α)) (host : Host) :
    let done := Pipeline.run (StoreFolder.answer Host.answer Host.fresh folder) script host
    (perform Host.machine folder wording script).run host =
      (done.1.mapError (.failed <| wording ·), done.2) :=
  run_ofExcept wording _ _

theorem run_writeFile (hhealthy : host.IsHealthy) (path : String) (cs : List Char) :
    let written := FileTree.respond (.write path (.ofText cs)) host.tree
    (writeFile Host.machine path cs).run host =
      (written.1.mapError (.failed <| ·.message), host.moved written.2 1) := by
  intro written
  have hwrite : Host.answer (.write path (.ofText cs)) host = (written.1, host.moved written.2 1) :=
    Host.respond_of_isHealthy hhealthy _
  have hdone : (writeFile Host.machine path cs).run host =
      (ofExcept FileError.message (Host.answer (.write path (.ofText cs)) host).1 :
        Job (StateM Host) Unit).run (Host.answer (.write path (.ofText cs)) host).2 := rfl
  rw [hdone, hwrite]
  exact run_ofExcept ..

theorem run_writeOutput (hhealthy : host.IsHealthy) (path : String) (cs : List Char) :
    ∃ ending count, (writeOutput Host.machine cs (some path)).run host =
      (ending, host.moved (FileTree.respond (.write path (.ofText cs)) host.tree).2 count) := by
  have hwrite := run_writeFile hhealthy path cs
  dsimp only at hwrite
  cases hanswer : (FileTree.respond (.write path (.ofText cs)) host.tree).1 with
  | error e =>
    rw [hanswer] at hwrite
    exact ⟨_, 1, run_bind_of_error hwrite⟩
  | ok done =>
    rw [hanswer] at hwrite
    exact ⟨_, 1, run_bind_of_ok hwrite⟩

section Reports

/-- The document that lists errors. -/
def errorReport (errors : List RowError) : Document :=
  .ofText ((Sheet.ofErrors errors).records.flatMap Delimited.writeRecord)

/-- The files after errors were listed at a path, if there is a path for them. -/
def reported (errors : List RowError) (path : Option String) (tree : FileTree) : FileTree :=
  match path with
  | none => tree
  | some path => (FileTree.respond (.write path (errorReport errors)) tree).2

theorem run_writeErrors (hhealthy : host.IsHealthy) (errors : List RowError) (path : Option String) :
    ∃ ending count, (writeErrors Host.machine errors path).run host =
      (ending, host.moved (reported errors path host.tree) count) := by
  cases path with
  | none => exact ⟨.ok (), 0, rfl⟩
  | some path =>
    have hrender : (ofExcept RenderError.message (Sheet.ofErrors errors).render :
        Job (StateM Host) (List Char)).run host = (.ok _, host) :=
      (run_ofExcept ..).trans (by rw [(Sheet.isRectangular_ofErrors errors).render_eq_ok]; rfl)
    have hwrite := run_writeFile hhealthy path
      ((Sheet.ofErrors errors).records.flatMap Delimited.writeRecord)
    rw [writeErrors, run_bind_of_ok hrender, run_bind, hwrite, reported, errorReport]
    cases (FileTree.respond (.write path (.ofText
      ((Sheet.ofErrors errors).records.flatMap Delimited.writeRecord))) host.tree).1 with
    | error e => exact ⟨_, 1, rfl⟩
    | ok done => exact ⟨_, 1, rfl⟩

theorem run_finishCommit (hhealthy : host.IsHealthy) (result : ImportResult)
    (path : Option String) :
    ∃ ending count, (finishCommit Host.machine result path).run host =
      (ending, host.moved (reported result.errors path host.tree) count) := by
  obtain ⟨ending, count, hwrite⟩ := run_writeErrors hhealthy result.errors path
  rw [finishCommit, run_bind_of_ok (run_say _ host), run_bind_of_ok (run_sayAll _ host)]
  cases ending with
  | error ending => exact ⟨_, count, run_bind_of_error hwrite⟩
  | ok done =>
    rw [run_bind_of_ok hwrite]
    cases result.rolledBack <;> exact ⟨_, count, rfl⟩

end Reports

section Preview

theorem run_resolve (target : Target) (host : Host) :
    (resolve target : Job (StateM Host) _).run host =
      ((AddressKind.parse target.kind).map (target.project, ·) |>.mapError (.failed <| ·.message),
        host) := by
  rw [resolve, run_bind, run_ofExcept]
  cases AddressKind.parse target.kind <;> rfl

variable {input : String} {target : Target} {kind : AddressKind} {fileKind : FileKind}

/-- What a preview does once it has tried to read the file. -/
def previewContent (folder : String) (target : Target) (kind : AddressKind) (fileKind : FileKind)
    (content : Except FileError Document) : Job (StateM Host) ValidationResult := do
  let content ← ofExcept FileError.message content
  let result ← perform Host.machine folder ImportError.message
    (previewUpload content fileKind target.project kind)
  sayAll Host.machine (previewLines result)
  return result

theorem run_preview_of_kinds (hhealthy : host.IsHealthy)
    (hkind : AddressKind.parse target.kind = .ok kind)
    (hfile : FileKind.ofPath input = .ok fileKind) :
    (preview Host.machine folder input target).run host =
      (previewContent folder target kind fileKind (FileTree.respond (.read input) host.tree).1).run
        (host.moved host.tree 1) := by
  have hresolve := run_resolve target host
  rw [hkind] at hresolve
  have hread : Host.answer (.read input) host =
      ((FileTree.respond (.read input) host.tree).1, host.moved host.tree 1) :=
    Host.respond_of_isHealthy hhealthy _
  have hstart : (preview Host.machine folder input target).run host =
      (previewContent folder target kind fileKind (Host.answer (.read input) host).1).run
        (Host.answer (.read input) host).2 := by
    rw [preview, run_bind_of_ok hresolve, run_bind_of_ok (run_say _ host), hfile]
    rfl
  rw [hstart, hread]

theorem run_previewContent {content : Document} {value : Except ImportError ValidationResult}
    {after : Host}
    (hrun : Pipeline.run (StoreFolder.answer Host.answer Host.fresh folder)
      (previewUpload content fileKind target.project kind) host = (value, after)) :
    (previewContent folder target kind fileKind (.ok content)).run host =
      (value.mapError (.failed <| ·.message), after) := by
  have hperform := run_perform folder ImportError.message
    (previewUpload content fileKind target.project kind) host
  rw [hrun] at hperform
  rw [previewContent, run_bind_of_ok (run_ofExcept FileError.message (.ok content) host), run_bind,
    hperform]
  cases value with
  | error e => rfl
  | ok result => exact run_bind_of_ok (run_sayAll _ after)

/-- Without the kinds there is no preview. -/
theorem exists_run_preview_of_no_kinds (folder : String) (hnone : ∀ kind fileKind,
    AddressKind.parse target.kind = .ok kind → FileKind.ofPath input ≠ .ok fileKind) :
    ∃ ending, ∀ host,
      (preview Host.machine folder input target).run host = (.error ending, host) := by
  cases hkind : AddressKind.parse target.kind with
  | error e =>
    refine ⟨.failed e.message, fun host => ?_⟩
    have hresolve := run_resolve target host
    rw [hkind] at hresolve
    exact run_bind_of_error hresolve
  | ok kind =>
    cases hfile : FileKind.ofPath input with
    | error e =>
      refine ⟨.failed e.message, fun host => ?_⟩
      have hresolve := run_resolve target host
      rw [hkind] at hresolve
      rw [preview, run_bind_of_ok hresolve, run_bind_of_ok (run_say _ host), hfile]
      exact run_bind_of_error (run_ofExcept ParseError.message (.error e) host)
    | ok fileKind => exact absurd hfile (hnone kind fileKind hkind)

/-- A check of rows finds the same errors wherever the same is loaded as from a tree, and changes
nothing. -/
def ChecksTo (folder project : String) (kind : AddressKind) (rows : List Row)
    (errors : List RowError) (tree : FileTree) : Prop :=
  ∀ host : Host, host.IsHealthy → StoreFolder.loaded folder host.tree = StoreFolder.loaded folder tree →
    ∃ n, Pipeline.run (StoreFolder.answer Host.answer Host.fresh folder)
      (checkStored project kind rows) host = (.ok errors, host.moved host.tree n)

/-- A preview changes nothing, and how it ends depends on the files alone. The errors of its result
are those that a check of its rows finds. -/
theorem exists_run_preview (hhealthy : host.IsHealthy) (input : String) (target : Target) :
    ∃ ending, (∀ other : Host, other.IsHealthy → other.tree = host.tree → ∃ n,
        (preview Host.machine folder input target).run other = (ending, other.moved other.tree n)) ∧
      ∀ result, ending = .ok result → ∃ kind, AddressKind.parse target.kind = .ok kind ∧
        ChecksTo folder target.project kind result.rows result.errors host.tree := by
  by_cases hkinds : ∃ kind fileKind,
      AddressKind.parse target.kind = .ok kind ∧ FileKind.ofPath input = .ok fileKind
  · obtain ⟨kind, fileKind, hkind, hfile⟩ := hkinds
    cases hcontent : (FileTree.respond (.read input) host.tree).1 with
    | error e =>
      refine ⟨.error (.failed e.message), fun other hother htree => ⟨1, ?_⟩,
        fun result hok => by cases hok⟩
      rw [run_preview_of_kinds hother hkind hfile, htree, hcontent]
      exact run_bind_of_error (run_ofExcept FileError.message (.error e) _)
    | ok content =>
      have hscript := onlyQueries_previewUpload target.project kind content fileKind
      obtain ⟨value, m, _, hrun, _⟩ :=
        StoreFolder.exists_run_of_onlyQueries folder hscript hhealthy hhealthy rfl
      refine ⟨value.mapError (.failed <| ·.message), fun other hother htree => ?_,
        fun result hok => ⟨kind, hkind, fun other hother hsame => ?_⟩⟩
      · have hmoved : (other.moved other.tree 1).IsHealthy := hother
        obtain ⟨value', _, n, hrun', hread⟩ := StoreFolder.exists_run_of_onlyQueries folder hscript
          hhealthy hmoved (by rw [Host.moved_tree, htree])
        obtain rfl : value' = value := congrArg Prod.fst (hrun'.symm.trans hrun)
        refine ⟨1 + n, ?_⟩
        rw [run_preview_of_kinds hother hkind hfile, htree, hcontent, ← htree,
          run_previewContent hread, Host.moved_tree, Host.moved_moved]
      · obtain rfl : value = .ok result := by
          cases value with
          | error e => cases hok
          | ok found =>
            cases hok
            rfl
        have hcheck := Pipeline.run_checkStored_of_previewUpload _ hrun
        obtain ⟨errors, _, n, hcheck', hother'⟩ := StoreFolder.exists_run_of_onlyQueries folder
          (onlyQueries_checkStored target.project kind result.rows) hhealthy hother hsame
        obtain rfl : errors = .ok result.errors := congrArg Prod.fst (hcheck'.symm.trans hcheck)
        exact ⟨n, hother'⟩
  · obtain ⟨ending, hfailed⟩ := exists_run_preview_of_no_kinds folder
      fun kind fileKind hkind hfile => hkinds ⟨kind, fileKind, hkind, hfile⟩
    exact ⟨.error ending, fun other _ _ => ⟨0, hfailed other⟩, fun result hok => by cases hok⟩

end Preview

end Cli.Job

end AddressIntake

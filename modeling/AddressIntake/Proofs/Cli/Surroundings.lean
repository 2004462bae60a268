import AddressIntake.Proofs.Cli.OnHost

namespace AddressIntake.Cli.Job

variable {host : Host} {outside : String → Option String} {tree made : FileTree}

/-- The variables that a file sets, if it can be read. -/
def variablesOf (outside : String → Option String) :
    Except FileError Document → List (String × String)
  | .ok document => Variables.ofBytes outside (document.bytes?.getD [])
  | .error _ => []

/-- The variables that the file of variables sets. -/
def variablesIn (outside : String → Option String) (tree : FileTree) : List (String × String) :=
  variablesOf outside ((Directions.ofText ".env").bind tree.read)

theorem variablesIn_eq (outside : String → Option String) (tree : FileTree) :
    variablesIn outside tree = match tree.node? [".env"] with
      | some (.file document) => Variables.ofBytes outside (document.bytes?.getD [])
      | _ => [] := by
  have hdirections : Directions.ofText ".env" = .ok ⟨false, [] ++ [".env"], false⟩ := by decide
  have hwalk : tree.walk false [] = .ok [] := rfl
  have hfind := FileTree.find_of_walk (by decide : FileTree.IsFileName ".env") hwalk
  rw [variablesIn, hdirections, Except.bind, FileTree.read, hfind, List.nil_append]
  rcases tree.node? [".env"] with _ | ⟨_ | _⟩ <;> rfl

/-- The settings that variables give, in the folder that is named if one is. -/
def settingsOf (outside : String → Option String) (dataDir : Option String)
    (set : List (String × String)) : Except SettingsError Settings :=
  (Settings.ofLookup (Variables.find? outside set)).map fun found =>
    { found with dataDir := dataDir.getD found.dataDir }

theorem run_settings (hhealthy : host.IsHealthy) (dataDir : Option String) :
    (settings Host.machine outside dataDir).run host =
      ((settingsOf outside dataDir (variablesIn outside host.tree)).mapError (.failed <| ·.message),
        host.moved host.tree 1) := by
  have hread : Host.answer (.read ".env") host =
      ((Directions.ofText ".env").bind host.tree.read, host.moved host.tree 1) :=
    Host.respond_of_isHealthy hhealthy _
  have hfinish (set : List (String × String)) (after : Host) : (do
      let found ← ofExcept SettingsError.message (Settings.ofLookup (Variables.find? outside set))
      return { found with dataDir := dataDir.getD found.dataDir } : Job (StateM Host) Settings).run
        after = ((settingsOf outside dataDir set).mapError (.failed <| ·.message), after) := by
    rw [run_bind, run_ofExcept, settingsOf]
    cases Settings.ofLookup (Variables.find? outside set) <;> rfl
  have hstart : (settings Host.machine outside dataDir).run host = (do
      let found ← ofExcept SettingsError.message (Settings.ofLookup (Variables.find? outside
        (variablesOf outside (Host.answer (.read ".env") host).1)))
      return { found with dataDir := dataDir.getD found.dataDir } : Job (StateM Host) Settings).run
        (Host.answer (.read ".env") host).2 := rfl
  rw [hstart, hread]
  exact hfinish (variablesIn outside host.tree) _

/-- Settings differ only where variables do. -/
theorem settings_congr {other : Host} (hhealthy : host.IsHealthy) (hother : other.IsHealthy)
    (hset : variablesIn outside other.tree = variablesIn outside host.tree)
    (dataDir : Option String) :
    ((settings Host.machine outside dataDir).run other).1 =
      ((settings Host.machine outside dataDir).run host).1 := by
  rw [run_settings hhealthy, run_settings hother, hset]

/-- No folder sets variables, so that none that is made makes a difference. -/
theorem variablesIn_of_addsFolders (hadds : tree.AddsFolders made) :
    variablesIn outside made = variablesIn outside tree := by
  rw [variablesIn_eq, variablesIn_eq]
  obtain hsame | ⟨hnone, hfolder⟩ := hadds [".env"]
  · rw [hsame]
  · rw [hnone, hfolder]

/-- A file that sets no variables makes no difference where nothing was. -/
theorem variablesIn_put {place : Place} (hplace : tree.node? place = none) {document : Document}
    (hset : Variables.ofBytes outside (document.bytes?.getD []) = []) :
    variablesIn outside (tree.put place (.file document)) = variablesIn outside tree := by
  rw [variablesIn_eq, variablesIn_eq]
  by_cases hsame : [".env"] = place
  · have hfree : tree.node? place ≠ some .folder := by simp [hplace]
    rw [hsame, hplace, FileTree.node?_put_self (FileTree.isFixed_of_not_folder hfree)]
    exact hset
  · rw [FileTree.node?_put_of_ne hsame]

/-- A command is carried out with the settings that were found, over the folder that was made. -/
theorem run_runInvocation (hhealthy : host.IsHealthy) {dataDir : Option String} {found : Settings}
    (hsettings : ((settings Host.machine outside dataDir).run host).1 = .ok found)
    (hmade : host.tree.makeFolders found.dataDir = (.ok (), made)) (command : Command) :
    (runInvocation Host.machine outside ⟨dataDir, command⟩).run host =
      (runCommand Host.machine found command).run (host.moved made 2) := by
  have hleft : ((settings Host.machine outside dataDir).run host).2 = host.moved host.tree 1 := by
    rw [run_settings hhealthy]
  have hfound : (settings Host.machine outside dataDir).run host =
      (.ok found, host.moved host.tree 1) := Prod.ext hsettings hleft
  have hmoved : (host.moved host.tree 1).IsHealthy := hhealthy
  have hmake : StoreFolder.make Host.answer found.dataDir (host.moved host.tree 1) =
      (.ok (), host.moved made 2) := by
    have hrespond : Host.answer (.makeFolders found.dataDir) (host.moved host.tree 1) =
        (.ok (), host.moved made 2) :=
      (Host.respond_of_isHealthy hmoved _).trans (by
        rw [Host.moved_tree, FileTree.respond, hmade]
        rfl)
    exact Contents.bind_eq_of_eq hrespond
  rw [runInvocation, run_bind_of_ok hfound]
  have hstart : (do
      ofExcept StoreError.message (← (StoreFolder.make Host.answer found.dataDir : StateM Host _))
      runCommand Host.machine found command : Job (StateM Host) Unit).run
        (host.moved host.tree 1) = (do
      ofExcept StoreError.message
        (StoreFolder.make Host.answer found.dataDir (host.moved host.tree 1)).1
      runCommand Host.machine found command : Job (StateM Host) Unit).run
        (StoreFolder.make Host.answer found.dataDir (host.moved host.tree 1)).2 := rfl
  refine hstart.trans ?_
  rw [hmake]
  exact run_bind_of_ok (run_ofExcept StoreError.message (.ok ()) _)

end AddressIntake.Cli.Job

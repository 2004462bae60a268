import AddressIntake.Files.Basic

namespace AddressIntake

variable {φ α β : Type}

/-- The document in the file at a path, if there is one, in a state of the files. -/
abbrev Contents (φ : Type) := φ → String → Option Document

namespace Contents

variable {content : Contents φ} {paths : List String}

/-- An action that leaves the files at some paths as they are. -/
def Keeps (content : Contents φ) (paths : List String) (action : StateM φ α) : Prop :=
  ∀ before : φ, ∀ path ∈ paths, content (action before).2 path = content before path

/-- An action goes on from what its first part answers. -/
theorem bind_eq_of_fst {action : StateM φ α} {next : α → StateM φ β} {before : φ} {value : α}
    (hvalue : (action before).1 = value) :
    (action >>= next) before = next value (action before).2 := by
  rw [← hvalue]
  rfl

theorem bind_eq_of_eq {action : StateM φ α} {next : α → StateM φ β} {before after : φ} {value : α}
    (haction : action before = (value, after)) : (action >>= next) before = next value after := by
  rw [bind_eq_of_fst (congrArg Prod.fst haction), haction]

theorem keeps_pure (value : α) : content.Keeps paths (pure value) :=
  fun _ _ _ => rfl

theorem Keeps.bind {action : StateM φ α} {next : α → StateM φ β} (hfirst : content.Keeps paths action)
    (hnext : ∀ value, content.Keeps paths (next value)) : content.Keeps paths (action >>= next) :=
  fun before path hpath =>
    (hnext (action before).1 (action before).2 path hpath).trans (hfirst before path hpath)

theorem Keeps.mono {some : List String} {action : StateM φ α} (hkeeps : content.Keeps paths action)
    (hsome : some ⊆ paths) : content.Keeps some action :=
  fun before path hpath => hkeeps before path (hsome hpath)

end Contents

/-- Files that do what they tell about some paths, which lead to different files. A file that is not
found is not there, and one that is read holds what is read. To write changes no other file, and one
that was renamed is found whole at its new path, where nothing changes if it could not be. -/
structure Files.IsFaithful (files : Files (StateM φ)) (content : Contents φ) (paths : List String) :
    Prop where
  keeps_present : ∀ path ∈ paths, content.Keeps paths (files (.present path))
  absent : ∀ path ∈ paths, ∀ before : φ, (files (.present path) before).1 = false →
    content before path = none
  keeps_read : ∀ path ∈ paths, content.Keeps paths (files (.read path))
  read_ok : ∀ path ∈ paths, ∀ (before : φ) (document : Document),
    (files (.read path) before).1 = .ok document → content before path = some document
  write_other : ∀ path ∈ paths, ∀ other ∈ paths, other ≠ path →
    ∀ document, content.Keeps [other] (files (.write path document))
  write_ok : ∀ path ∈ paths, ∀ (document : Document) (before : φ),
    (files (.write path document) before).1 = .ok () →
    content (files (.write path document) before).2 path = some document
  rename_other : ∀ source ∈ paths, ∀ target ∈ paths, ∀ other ∈ paths, other ≠ source →
    other ≠ target → content.Keeps [other] (files (.rename source target))
  rename_ok : ∀ source ∈ paths, ∀ target ∈ paths, source ≠ target → ∀ before : φ,
    (files (.rename source target) before).1 = .ok () →
    content (files (.rename source target) before).2 target = content before source
  rename_error : ∀ source ∈ paths, ∀ target ∈ paths, ∀ (before : φ) (e : FileError),
    (files (.rename source target) before).1 = .error e →
    content (files (.rename source target) before).2 target = content before target

namespace Files.IsFaithful

variable {files : Files (StateM φ)} {content : Contents φ} {paths : List String}

theorem keeps_readText (hfiles : files.IsFaithful content paths) {path : String}
    (hpath : path ∈ paths) : content.Keeps paths (files.readText path) := by
  refine (hfiles.keeps_read path hpath).bind fun answer => ?_
  split
  · exact Contents.keeps_pure _
  · split
    · exact Contents.keeps_pure _
    · exact Contents.keeps_pure _

/-- A text that is read is that of the document in the file. -/
theorem readText_ok (hfiles : files.IsFaithful content paths) {path : String} (hpath : path ∈ paths)
    {before : φ} {cs : List Char} (hread : (files.readText path before).1 = .ok cs) :
    ∃ document, content before path = some document ∧ document.text? = some cs := by
  cases hanswer : (files (.read path) before).1 with
  | error e =>
    rw [Files.readText, Contents.bind_eq_of_fst hanswer] at hread
    cases hread
  | ok document =>
    refine ⟨document, hfiles.read_ok path hpath before document hanswer, ?_⟩
    rw [Files.readText, Contents.bind_eq_of_fst hanswer] at hread
    cases htext : document.text? with
    | none =>
      simp only [htext] at hread
      cases hread
    | some found =>
      simp only [htext] at hread
      cases hread
      rfl

end Files.IsFaithful

end AddressIntake

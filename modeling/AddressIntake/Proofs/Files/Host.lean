import AddressIntake.Files.Host
import AddressIntake.Proofs.Files.Tree

namespace AddressIntake.Host

variable (host : Host)

theorem respond_present (path : String) :
    respond (.present path) host = (match host.tree.reach path with
      | .ok (some _) => true
      | _ => false, host.moved host.tree 1) := by
  rw [respond]
  cases host.mishaps host.asked <;> rfl

theorem respond_read (path : String) :
    respond (.read path) host = (match host.mishaps host.asked with
      | none => (FileTree.respond (.read path) host.tree).1
      | some mishap => .error mishap.error, host.moved host.tree 1) := by
  rw [respond]
  cases host.mishaps host.asked <;> rfl

/-- The text that is read where something was found, or the reason why there is none. -/
def textAt : Option Mishap → FileNode → Except String (List Char)
  | some mishap, _ => .error mishap.error.message
  | none, .folder => .error FileError.isFolder.message
  | none, .file document =>
    match document.text? with
    | none => .error invalidText
    | some cs => .ok cs

theorem readText_eq {path : String} {node : FileNode}
    (hreach : host.tree.reach path = .ok (some node)) :
    answer.readText path host = (textAt (host.mishaps host.asked) node, host.moved host.tree 1) := by
  have hread : answer (.read path) host = _ := host.respond_read path
  rw [FileTree.respond_read, hreach] at hread
  rw [Files.readText, Contents.bind_eq_of_eq hread]
  cases host.mishaps host.asked with
  | some mishap => rfl
  | none =>
    cases node with
    | folder => rfl
    | file document =>
      rw [textAt]
      dsimp only [Except.bind]
      cases document.text? <;> rfl

section Folder

variable (folder : String) {names : List String} (hnames : ∀ name ∈ names, FileTree.IsFileName name)

include hnames

/-- A file is written as a whole or not as told; in both cases the other files are as before. -/
theorem reach_write {name : String} (hname : name ∈ names) (document : Document) :
    ∃ after,
      (respond (.write (joinPath folder name) document) host = (.ok (), host.moved after 1) ∧
        after.reach (joinPath folder name) = .ok (some (.file document)) ∨
      ∃ e, respond (.write (joinPath folder name) document) host = (.error e, host.moved after 1)) ∧
      ∀ other ∈ names, other ≠ name →
        after.reach (joinPath folder other) = host.tree.reach (joinPath folder other) := by
  rw [respond]
  cases host.mishaps host.asked with
  | none =>
    obtain ⟨after, hrespond, hwritten, hkept⟩ | ⟨e, hrespond⟩ :=
      FileTree.reach_respond_write folder hnames hname document host.tree
    · exact ⟨after, .inl ⟨by rw [hrespond], hwritten⟩, hkept⟩
    · exact ⟨host.tree, .inr ⟨e, by rw [hrespond]⟩, fun _ _ _ => rfl⟩
  | some mishap =>
    refine ⟨_, .inr ⟨mishap.error, rfl⟩, fun other hother hne => ?_⟩
    cases mishap.left with
    | none => rfl
    | some left =>
      rw [brokenOff]
      obtain ⟨after, hrespond, _, hkept⟩ | ⟨e, hrespond⟩ :=
        FileTree.reach_respond_write folder hnames hname left host.tree
      · rw [hrespond]
        exact hkept other hother hne
      · rw [hrespond]

/-- A file takes the place of another one, or nothing is changed. -/
theorem reach_rename {source target : String} (hsource : source ∈ names) (htarget : target ∈ names) :
    (∃ after document,
      respond (.rename (joinPath folder source) (joinPath folder target)) host =
        (.ok (), host.moved after 1) ∧
      host.tree.reach (joinPath folder source) = .ok (some (.file document)) ∧
      after.reach (joinPath folder target) = .ok (some (.file document)) ∧
      (source ≠ target → after.reach (joinPath folder source) = .ok none) ∧
      ∀ other ∈ names, other ≠ source → other ≠ target →
        after.reach (joinPath folder other) = host.tree.reach (joinPath folder other)) ∨
    ∃ e, respond (.rename (joinPath folder source) (joinPath folder target)) host =
      (.error e, host.moved host.tree 1) := by
  rw [respond]
  cases host.mishaps host.asked with
  | none =>
    obtain ⟨after, document, hrespond, hfiles⟩ | ⟨e, hrespond⟩ :=
      FileTree.reach_respond_rename folder hnames hsource htarget host.tree
    · exact .inl ⟨after, document, by rw [hrespond], hfiles⟩
    · exact .inr ⟨e, by rw [hrespond]⟩
  | some mishap => exact .inr ⟨mishap.error, rfl⟩

variable (hhealthy : ∀ n, host.mishaps n = none)

include hhealthy

/-- Without mishaps a file is written wherever this can be done. -/
theorem respond_write_ok {name : String} (hname : name ∈ names) {node : Option FileNode}
    (hreach : host.tree.reach (joinPath folder name) = .ok node) (hnode : node ≠ some .folder)
    (document : Document) : (respond (.write (joinPath folder name) document) host).1 = .ok () := by
  rw [respond, hhealthy]
  exact FileTree.respond_write_ok folder hnames hname hreach hnode document

/-- Without mishaps a file takes any place where this can be done. -/
theorem respond_rename_ok {source target : String} (hsource : source ∈ names)
    (htarget : target ∈ names) {document : Document} {node : Option FileNode}
    (hfrom : host.tree.reach (joinPath folder source) = .ok (some (.file document)))
    (hto : host.tree.reach (joinPath folder target) = .ok node) (hnode : node ≠ some .folder) :
    (respond (.rename (joinPath folder source) (joinPath folder target)) host).1 = .ok () := by
  rw [respond, hhealthy]
  exact FileTree.respond_rename_ok folder hnames hsource htarget hfrom hto hnode

end Folder

end AddressIntake.Host

import AddressIntake.Proofs.Except
import AddressIntake.Proofs.Http.Service
import AddressIntake.Proofs.Import.Upload

namespace AddressIntake

namespace FileKind

variable {s : String}

theorem parse_of_eq_some {kind : FileKind} (hkind : parse? s = some kind) : parse s = .ok kind := by
  unfold parse
  rw [hkind]

theorem parse_of_eq_none (hnone : parse? s = none) : parse s = .error (.unsupportedKind s) := by
  unfold parse
  rw [hnone]

end FileKind

namespace Http

open Pipeline

namespace Upload

/-- The parts of a form that have a name. -/
def named (name : String) (parts : List Part) : List Part :=
  parts.filter (·.name == some name)

/-- The kind of file that the content of a part says. -/
def statedKind (part : Part) : Option FileKind :=
  FileKind.parse? (String.ofList (partText part))

/-- What all parts together tell about the file. -/
def told (parts : List Part) : Upload where
  content := (named "file" parts).getLast?.map (·.content)
  kind := ((named "kind" parts).getLast?.bind statedKind).or
    ((named "file" parts).findSome? declaredKind)

section Parts

variable {parts : List Part} {part : Part} {upload : Upload}

theorem named_append_of_eq {name : String} (hname : part.name = some name) :
    named name (parts ++ [part]) = named name parts ++ [part] := by
  rw [named, List.filter_append, List.filter_cons_of_pos (by simpa using hname), List.filter_nil,
    named]

theorem named_append_of_ne {name : String} (hname : part.name ≠ some name) :
    named name (parts ++ [part]) = named name parts := by
  rw [named, List.filter_append, List.filter_cons_of_neg (by simpa using hname), List.filter_nil,
    List.append_nil, named]

theorem told_append_of_file (hname : part.name = some "file") :
    told (parts ++ [part]) = ⟨some part.content, (told parts).kind.or (declaredKind part)⟩ := by
  have hkind : part.name ≠ some "kind" := by simp [hname]
  simp [told, named_append_of_eq hname, named_append_of_ne hkind, List.findSome?_append,
    Option.or_assoc]

theorem told_append_of_kind (hname : part.name = some "kind") {kind : FileKind}
    (hstated : statedKind part = some kind) :
    told (parts ++ [part]) = { told parts with kind := some kind } := by
  have hfile : part.name ≠ some "file" := by simp [hname]
  simp [told, named_append_of_eq hname, named_append_of_ne hfile, hstated]

theorem told_append_of_ne (hfile : part.name ≠ some "file") (hkind : part.name ≠ some "kind") :
    told (parts ++ [part]) = told parts := by
  rw [told, named_append_of_ne hfile, named_append_of_ne hkind, told]

/-- One more part is taken unless it is about the kind and says none. -/
theorem add_told_iff :
    add (told parts) part = .ok upload ↔
      (part.name = some "kind" → (statedKind part).isSome = true) ∧
        upload = told (parts ++ [part]) := by
  rw [add]
  split
  · next hname =>
    rw [told_append_of_file hname, Except.ok.injEq, eq_comm, hname]
    exact (and_iff_right fun hkind => absurd hkind (by decide)).symm
  · next hname =>
    cases hstated : statedKind part with
    | none => simp [FileKind.parse_of_eq_none hstated, hname]
    | some kind =>
      simp [FileKind.parse_of_eq_some hstated, told_append_of_kind hname hstated, eq_comm]
  · next hfile hkind =>
    rw [told_append_of_ne hfile hkind, Except.ok.injEq, eq_comm]
    exact (and_iff_right fun hname => absurd hname hkind).symm

theorem forall_mem_named_append {name : String} {p : Part → Prop} :
    (∀ other ∈ named name (parts ++ [part]), p other) ↔
      (∀ other ∈ named name parts, p other) ∧ (part.name = some name → p part) := by
  by_cases hname : part.name = some name
  · rw [named_append_of_eq hname, List.forall_mem_append, List.forall_mem_singleton]
    simp [hname]
  · rw [named_append_of_ne hname]
    simp [hname]

/-- The parts of a form are taken if each part about the kind says one. -/
theorem foldlM_add_iff :
    parts.foldlM add empty = .ok upload ↔
      (∀ statement ∈ named "kind" parts, (statedKind statement).isSome = true) ∧
        upload = told parts := by
  -- What is told before the last part is all that the step for it needs.
  induction parts using List.reverseRecOn generalizing upload with
  | nil =>
    rw [List.foldlM_nil, named, List.filter_nil, and_iff_right (List.forall_mem_nil _)]
    exact (Except.ok.injEq empty upload).to_iff.trans eq_comm
  | append_singleton parts part ih =>
    have hstep : (parts ++ [part]).foldlM add empty = parts.foldlM add empty >>= (add · part) := by
      simp
    rw [hstep, bind_eq_ok_iff, forall_mem_named_append, and_assoc, ← add_told_iff]
    simp only [ih, and_assoc, exists_and_left, exists_eq_left]

end Parts

variable {parts : List Part} {outcome : Multipart.Outcome}

/-- A form is taken if it ends as it should and each part about the kind says one. -/
theorem ofParts_iff {upload : Upload} :
    ofParts parts outcome = .ok upload ↔ outcome = .complete ∧
      (∀ statement ∈ named "kind" parts, (statedKind statement).isSome = true) ∧
        upload = told parts := by
  rw [ofParts, bind_eq_ok_iff]
  simp only [foldlM_add_iff, and_assoc, exists_and_left, exists_eq_left]
  cases outcome with
  | complete =>
    have hdone : (pure (told parts) : Except Failure Upload) = .ok upload ↔ upload = told parts :=
      (Except.ok.injEq (told parts) upload).to_iff.trans eq_comm
    simp [hdone]
  | broken => simp [throw, throwThe, MonadExceptOf.throw]
  | unfinished part => simp [throw, throwThe, MonadExceptOf.throw]

theorem file_iff {upload : Upload} {content : List UInt8} {kind : FileKind} :
    upload.file = .ok (content, kind) ↔
      upload.content = some content ∧ upload.kind = some kind := by
  rw [file]
  split <;> simp [*]

/-- What is read of a form: the last file, as the kind that the last part about the kind says.
Without such a part it is the first kind that any of the files declares. -/
structure Reads (parts : List Part) (file : Part) (kind : FileKind) : Prop where
  last : (named "file" parts).getLast? = some file
  stated : ∀ statement, (named "kind" parts).getLast? = some statement →
    statedKind statement = some kind
  declared : named "kind" parts = [] → (named "file" parts).findSome? declaredKind = some kind

theorem exists_reads_of_file {upload : Upload} {content : List UInt8} {kind : FileKind}
    (hparts : ofParts parts outcome = .ok upload) (hfile : upload.file = .ok (content, kind)) :
    ∃ file, file.content = content ∧ Reads parts file kind := by
  obtain ⟨_, hstated, rfl⟩ := ofParts_iff.1 hparts
  obtain ⟨hcontent, hkind⟩ := file_iff.1 hfile
  obtain ⟨file, hlast, hsame⟩ := Option.map_eq_some_iff.1 hcontent
  refine ⟨file, hsame, hlast, ?_, ?_⟩
  · intro statement hstatement
    obtain ⟨said, hsaid⟩ := Option.isSome_iff_exists.1
      (hstated statement (List.mem_of_getLast? hstatement))
    rw [told, hstatement, Option.bind_some, hsaid, Option.some_or] at hkind
    exact hsaid.trans hkind
  · intro hnone
    rwa [told, hnone, List.getLast?_nil, Option.bind_none, Option.none_or] at hkind

/-- The kind is that of the file that is read if no other file declares another one. -/
theorem Reads.declaredKind_eq {file : Part} {kind : FileKind} (hreads : Reads parts file kind)
    (hnone : named "kind" parts = [])
    (hagree : ∀ other ∈ named "file" parts, ∀ declared, declaredKind other = some declared →
      declaredKind file = some declared) :
    declaredKind file = some kind := by
  obtain ⟨other, hmem, hother⟩ := List.exists_of_findSome?_eq_some (hreads.declared hnone)
  exact hagree other hmem kind hother

end Upload

namespace Service

variable {σ : Type} {store : Store (StateM σ)} {before after : σ} {service : Service} {stamp : Stamp}
  {project kind : String} {parts : List Part} {outcome : Multipart.Outcome} {response : Response}

/-- A preview is sent if the form tells a file and its kind and the file can be read. -/
theorem run_validate_eq_ok_iff :
    run store (service.validate stamp project kind parts outcome).run before =
        (.ok response, after) ↔
      ∃ (addressKind : AddressKind) (upload : Upload) (content : List UInt8) (fileKind : FileKind)
        (result : ValidationResult),
        AddressKind.parse kind = .ok addressKind ∧
        Upload.ofParts parts outcome = .ok upload ∧ upload.file = .ok (content, fileKind) ∧
        run store (previewUpload (service.recognize content) fileKind project addressKind) before =
          (.ok result, after) ∧
        response = .json 200 (Preview.ofResult stamp.id project addressKind result).toJson := by
  simp only [validate, Handler.kindOf, Handler.run_bind_eq_ok_iff, Handler.run_ofExcept_eq_ok_iff,
    Handler.run_ofPipeline_eq_ok_iff, Handler.run_log_eq_ok_iff, Handler.run_pure_eq_ok_iff,
    Prod.exists, and_assoc, exists_and_left, exists_eq_left, exists_const,
    exists_eq_right_right']

/-- A preview is that of the last file in the form, whatever the order of the parts. Its kind is the
one that the last part about the kind says, wherever that part stands. Without such a part it is the
first kind that the name or else the type of any of the files tells, which is the kind of the last
file if no other file tells another one. -/
theorem validate_reads_last_file
    (haccepted : run store (service.validate stamp project kind parts outcome).run before =
      (.ok response, after)) :
    ∃ (addressKind : AddressKind) (file : Part) (fileKind : FileKind) (result : ValidationResult),
      AddressKind.parse kind = .ok addressKind ∧ Upload.Reads parts file fileKind ∧
      (Upload.named "kind" parts = [] →
        (∀ other ∈ Upload.named "file" parts, ∀ declared,
          Upload.declaredKind other = some declared → Upload.declaredKind file = some declared) →
        Upload.declaredKind file = some fileKind) ∧
      run store (previewUpload (service.recognize file.content) fileKind project addressKind)
        before = (.ok result, after) ∧
      response = .json 200 (Preview.ofResult stamp.id project addressKind result).toJson := by
  obtain ⟨addressKind, _, _, fileKind, result, hkind, hparts, hfile, hpreview, hresponse⟩ :=
    run_validate_eq_ok_iff.1 haccepted
  obtain ⟨file, rfl, hreads⟩ := Upload.exists_reads_of_file hparts hfile
  exact ⟨addressKind, file, fileKind, result, hkind, hreads, hreads.declaredKind_eq, hpreview,
    hresponse⟩

/-- The part about the kind stands between the files, and the name of neither counts. -/
theorem validate_reads_last_file_as_stated :
    let store := MemoryStore.empty fun _ => ⟨.zero, .epoch⟩
    let service : Service := ⟨.withChunkSize 100, (.bytes · "ascii")⟩
    let first : Part := ⟨some "file", some "a.xlsx", none, Text.Utf8.encode "PK".toList⟩
    let said : Part := ⟨some "kind", none, none, Text.Utf8.encode "TSV".toList⟩
    let last : Part :=
      ⟨some "file", some "b.csv", none, Text.Utf8.encode "City\tFax\nOslo\t5\n".toList⟩
    let script := service.validate ⟨.zero, .epoch⟩ "p" "ship_to" [first, said, last] .complete
    (∃ response, run MemoryStore.answer script.run store = (.ok response, store)) ∧
      Upload.Reads [first, said, last] last .tsv := by
  intro store service first said last script
  have hsaid : Upload.statedKind said = some .tsv := by decide +kernel
  have hparts : Upload.ofParts [first, said, last] .complete =
      .ok ⟨some last.content, some .tsv⟩ := by
    have hkinds : Upload.named "kind" [first, said, last] = [said] := rfl
    have hfiles : Upload.named "file" [first, said, last] = [first, last] := rfl
    rw [Upload.ofParts_iff, Upload.told, hkinds, hfiles, List.forall_mem_singleton,
      List.getLast?_singleton, Option.bind_some, hsaid]
    exact ⟨rfl, rfl, rfl⟩
  have hparse : Table.parse .tsv (service.recognize last.content) =
      .ok ⟨.tsv, ["City", "Fax"], [["Oslo", "5"]], some "utf-8", some '\t'⟩ := by
    decide +kernel
  obtain ⟨response, hrun⟩ :
      ∃ response, run MemoryStore.answer script.run store = (.ok response, store) :=
    ⟨_, run_validate_eq_ok_iff.2 ⟨.shipTo, _, _, _, _, AddressKind.parse_tag .shipTo, hparts, rfl,
      MemoryStore.run_answer_previewUpload store "p" .shipTo hparse, rfl⟩⟩
  obtain ⟨_, file, fileKind, _, _, hreads, _⟩ := validate_reads_last_file hrun
  have hlast : last = file := Option.some_inj.1 hreads.last
  cases hlast
  cases hsaid.symm.trans (hreads.stated said rfl)
  exact ⟨⟨response, hrun⟩, hreads⟩

/-- Of two files the second is read, as the kind that the name of the first tells. -/
theorem validate_reads_last_file_as_first_kind :
    let store := MemoryStore.empty fun _ => ⟨.zero, .epoch⟩
    let service : Service := ⟨.withChunkSize 100, (.bytes · "ascii")⟩
    let first : Part := ⟨some "file", some "a.tsv", none, Text.Utf8.encode "City\nRome\n".toList⟩
    let last : Part :=
      ⟨some "file", some "b.csv", none, Text.Utf8.encode "City,Fax\nOslo,5\n".toList⟩
    let script := service.validate ⟨.zero, .epoch⟩ "p" "ship_to" [first, last] .complete
    Upload.named "kind" [first, last] = [] ∧ Upload.declaredKind last = some .csv ∧
      ∃ result : ValidationResult,
        run MemoryStore.answer script.run store =
          (.ok (.json 200 (Preview.ofResult .zero "p" .shipTo result).toJson), store) ∧
        result.source.fileKind = "tsv" ∧ result.source.headers = ["City,Fax"] := by
  intro store service first last script
  have hfirst : Upload.declaredKind first = some .tsv := by decide +kernel
  have hparts : Upload.ofParts [first, last] .complete = .ok ⟨some last.content, some .tsv⟩ := by
    have hkinds : Upload.named "kind" [first, last] = [] := rfl
    have hfiles : Upload.named "file" [first, last] = [first, last] := rfl
    rw [Upload.ofParts_iff, Upload.told, hkinds, hfiles, List.getLast?_nil, Option.bind_none,
      Option.none_or, List.findSome?_cons, hfirst]
    exact ⟨rfl, List.forall_mem_nil _, rfl⟩
  have hparse : Table.parse .tsv (service.recognize last.content) =
      .ok ⟨.tsv, ["City,Fax"], [["Oslo,5"]], some "utf-8", some '\t'⟩ := by
    decide +kernel
  exact ⟨rfl, by decide +kernel, _, run_validate_eq_ok_iff.2
    ⟨.shipTo, _, _, _, _, AddressKind.parse_tag .shipTo, hparts, rfl,
      MemoryStore.run_answer_previewUpload store "p" .shipTo hparse, rfl⟩, rfl, rfl⟩

end Service

end Http

end AddressIntake

import AddressIntake.Proofs.Address
import AddressIntake.Proofs.Files.Tree
import AddressIntake.Proofs.Store.Backend
import AddressIntake.Proofs.Text.Utf8
import AddressIntake.Store.OnDisk
import Mathlib.Data.List.Nodup

namespace AddressIntake

namespace StoreFolder

variable {φ α : Type}

/-- The path of the file of addresses. -/
def addressesPath (folder : String) : String :=
  joinPath folder addressesName

/-- The path of the file of policies. -/
def policiesPath (folder : String) : String :=
  joinPath folder policiesName

/-- The names of the files of a store, the unfinished ones among them. -/
def names : List String :=
  [addressesName, policiesName, addressesName ++ unfinishedSuffix, policiesName ++ unfinishedSuffix]

/-- The paths of the files of a store. -/
def paths (folder : String) : List String :=
  [addressesPath folder, policiesPath folder, addressesPath folder ++ unfinishedSuffix,
    policiesPath folder ++ unfinishedSuffix]

theorem paths_eq_map (folder : String) : paths folder = names.map (joinPath folder) := by
  rw [paths, addressesPath, policiesPath, joinPath_append folder (by decide) (by decide),
    joinPath_append folder (by decide) (by decide)]
  rfl

/-- The files of a store are different ones. -/
theorem nodup_paths (folder : String) : (paths folder).Nodup := by
  obtain ⟨lead, _, _, hlead⟩ := exists_joinPath_eq_append folder
  have hunrooted : ∀ name ∈ names, name.toList.head? ≠ some '/' := by decide
  have hpaths : paths folder = names.map (lead ++ ·) := by
    rw [paths_eq_map]
    exact List.map_congr_left fun name hname => hlead name (hunrooted name hname)
  rw [hpaths, List.nodup_map_iff fun first second hsame => by simpa using hsame]
  decide

/-- A tree of files does what it tells about the files of a store. -/
theorem isFaithful_tree (folder : String) :
    FileTree.answer.IsFaithful FileTree.content (paths folder) := by
  rw [paths_eq_map]
  exact FileTree.isFaithful_answer folder (by decide)

/-- The list that a file holds. There is none in a file that cannot be read. -/
def listIn (read : Json.Decoder α) (file : Option Document) : List α :=
  match file.bind Document.text? with
  | none => []
  | some cs =>
    match parseList read cs with
    | .ok items => items
    | .error _ => []

/-- The text of a list that was written holds the list. -/
theorem exists_text_listDocument {read : Json.Decoder α} {write : α → Json}
    (hread : ∀ a, read (write a).node = .ok a) (hplain : ∀ a, (write a).IsPlain) (items : List α) :
    ∃ cs, (listDocument write items).text? = some cs ∧ parseList read cs = .ok items := by
  refine ⟨Json.indented (Json.ofList write items), Text.Utf8.decode?_encode _, ?_⟩
  have hvisible : (Json.indented (Json.ofList write items)).all Text.isBlankChar = false := by
    cases items <;> rfl
  have hdecode : Json.decode (Json.Decoder.list read) (Json.indented (Json.ofList write items)) =
      .ok items := by
    rw [Json.indented, Json.decode_print _ Json.isSpaced_indented 0
      (Json.isPlain_ofList fun a _ => hplain a)]
    exact Json.Decoder.list_ofList fun a _ => hread a
  simp only [parseList, hvisible, Bool.false_eq_true, if_false, hdecode]

/-- A list that was written is read back. -/
theorem listIn_listDocument {read : Json.Decoder α} {write : α → Json}
    (hread : ∀ a, read (write a).node = .ok a) (hplain : ∀ a, (write a).IsPlain) (items : List α) :
    listIn read (some (listDocument write items)) = items := by
  obtain ⟨cs, htext, hparse⟩ := exists_text_listDocument hread hplain items
  simp only [listIn, Option.bind_some, htext, hparse]

variable {files : Files (StateM φ)} {content : Contents φ} {folder : String} {allowed : List String}

theorem keeps_readList (hfiles : files.IsFaithful content allowed) (read : Json.Decoder α)
    {path : String} (hpath : path ∈ allowed) : content.Keeps allowed (readList files read path) := by
  refine (hfiles.keeps_present path hpath).bind fun present => ?_
  cases present with
  | false => exact Contents.keeps_pure _
  | true =>
    refine (hfiles.keeps_readText hpath).bind fun answer => ?_
    cases answer with
    | error reason => exact Contents.keeps_pure _
    | ok cs => exact Contents.keeps_pure _

/-- A list that is read is the one that the file holds. -/
theorem readList_ok (hfiles : files.IsFaithful content allowed) {read : Json.Decoder α}
    {path : String} (hpath : path ∈ allowed) {before : φ} {items : List α}
    (hlist : (readList files read path before).1 = .ok items) :
    listIn read (content before path) = items := by
  cases hpresent : (files (.present path) before).1 with
  | false =>
    have hnone : readList files read path before = (.ok [], (files (.present path) before).2) :=
      Contents.bind_eq_of_fst hpresent
    rw [hnone] at hlist
    cases hlist
    rw [hfiles.absent path hpath before hpresent]
    rfl
  | true =>
    have htext : readList files read path before =
        (files.readText path >>= _) (files (.present path) before).2 :=
      Contents.bind_eq_of_fst hpresent
    cases hanswer : (files.readText path (files (.present path) before).2).1 with
    | error reason =>
      have herror : (readList files read path before).1 = .error (.io reason) := by
        rw [htext, Contents.bind_eq_of_fst hanswer]
        rfl
      rw [herror] at hlist
      cases hlist
    | ok cs =>
      have hparse : (readList files read path before).1 = parseList read cs := by
        rw [htext, Contents.bind_eq_of_fst hanswer]
        rfl
      obtain ⟨document, hdocument, htext⟩ := hfiles.readText_ok hpath hanswer
      rw [hfiles.keeps_present path hpath before path hpath] at hdocument
      simp only [listIn, hdocument, Option.bind_some, htext, ← hparse, hlist]

theorem addressesPath_mem (folder : String) : addressesPath folder ∈ paths folder :=
  List.mem_cons_self

theorem policiesPath_mem (folder : String) : policiesPath folder ∈ paths folder :=
  List.mem_cons_of_mem _ List.mem_cons_self

theorem keeps_load (hfiles : files.IsFaithful content (paths folder)) :
    content.Keeps (paths folder) (load files folder) := by
  refine (keeps_readList hfiles Address.decoder (addressesPath_mem folder)).bind fun addresses => ?_
  cases addresses with
  | error e => exact Contents.keeps_pure _
  | ok addresses =>
    refine (keeps_readList hfiles Policy.decoder (policiesPath_mem folder)).bind fun policies => ?_
    cases policies with
    | error e => exact Contents.keeps_pure _
    | ok policies => exact Contents.keeps_pure _

/-- The addresses that are loaded are those that the file of addresses holds. -/
theorem load_ok (hfiles : files.IsFaithful content (paths folder)) {before : φ}
    {registry : Registry} (hload : (load files folder before).1 = .ok registry) :
    listIn Address.decoder (content before (addressesPath folder)) = registry.addresses := by
  rw [load] at hload
  cases haddresses : (readList files Address.decoder (addressesPath folder) before).1 with
  | error e =>
    rw [← addressesPath, Contents.bind_eq_of_fst haddresses] at hload
    cases hload
  | ok addresses =>
    rw [← addressesPath, Contents.bind_eq_of_fst haddresses] at hload
    rw [readList_ok hfiles (addressesPath_mem folder) haddresses]
    dsimp only at hload
    cases hpolicies : (readList files Policy.decoder (policiesPath folder)
        (readList files Address.decoder (addressesPath folder) before).2).1 with
    | error e =>
      rw [← policiesPath, Contents.bind_eq_of_fst hpolicies] at hload
      cases hload
    | ok policies =>
      rw [← policiesPath, Contents.bind_eq_of_fst hpolicies] at hload
      cases hload
      rfl

/-- To write a list changes only its file and the unfinished one. -/
theorem keeps_writeList (hfiles : files.IsFaithful content allowed) {write : α → Json}
    {path other : String} (hpath : path ∈ allowed) (hunfinished : path ++ unfinishedSuffix ∈ allowed)
    (hother : other ∈ allowed) (hne : other ≠ path) (hne' : other ≠ path ++ unfinishedSuffix)
    (items : List α) : content.Keeps [other] (writeList files write path items) := by
  refine (hfiles.write_other _ hunfinished other hother hne' _).bind fun written => ?_
  cases written with
  | error e => exact Contents.keeps_pure _
  | ok done =>
    refine (hfiles.rename_other _ hunfinished _ hpath other hother hne' hne).bind fun renamed => ?_
    cases renamed with
    | error e => exact Contents.keeps_pure _
    | ok done => exact Contents.keeps_pure _

/-- A list is either written as a whole, or its file stays as it is. -/
theorem content_writeList (hfiles : files.IsFaithful content allowed) (write : α → Json)
    {path : String} (hpath : path ∈ allowed) (hunfinished : path ++ unfinishedSuffix ∈ allowed)
    (hne : path ≠ path ++ unfinishedSuffix) (items : List α) (before : φ) :
    ((writeList files write path items before).1 = .ok () ∧
      content (writeList files write path items before).2 path =
        some (listDocument write items)) ∨
    (∃ e, (writeList files write path items before).1 = .error e) ∧
      content (writeList files write path items before).2 path = content before path := by
  let unfinished := path ++ unfinishedSuffix
  let written := files (.write unfinished (listDocument write items)) before
  have hkept : content written.2 path = content before path :=
    hfiles.write_other _ hunfinished path hpath hne _ before path List.mem_cons_self
  cases hwritten : written.1 with
  | error e =>
    have hfailed : writeList files write path items before =
        (.error (.io e.message), written.2) := Contents.bind_eq_of_fst hwritten
    rw [hfailed]
    exact .inr ⟨⟨_, rfl⟩, hkept⟩
  | ok done =>
    let renamed := files (.rename unfinished path) written.2
    cases hrenamed : renamed.1 with
    | error e =>
      have hfailed : writeList files write path items before =
          (.error (.io e.message), renamed.2) :=
        (Contents.bind_eq_of_fst hwritten).trans (Contents.bind_eq_of_fst hrenamed)
      rw [hfailed]
      exact .inr ⟨⟨_, rfl⟩, (hfiles.rename_error _ hunfinished _ hpath _ e hrenamed).trans hkept⟩
    | ok done =>
      have hdone : writeList files write path items before = (.ok (), renamed.2) :=
        (Contents.bind_eq_of_fst hwritten).trans (Contents.bind_eq_of_fst hrenamed)
      rw [hdone]
      refine .inl ⟨rfl, ?_⟩
      exact (hfiles.rename_ok _ hunfinished _ hpath hne.symm _ hrenamed).trans
        (hfiles.write_ok _ hunfinished _ before hwritten)

/-- To stamp addresses changes no files if stamps do not. -/
theorem keeps_stampAll {fresh : StateM φ Stamp} (hfresh : content.Keeps allowed fresh)
    (created : List NewAddress) : content.Keeps allowed (stampAll fresh created) := by
  induction created with
  | nil => exact Contents.keeps_pure _
  | cons new created ih =>
    exact hfresh.bind fun stamp => ih.bind fun others => Contents.keeps_pure _

theorem map_payload_stampAll (fresh : StateM φ Stamp) (created : List NewAddress) (before : φ) :
    (stampAll fresh created before).1.map Address.payload = created := by
  induction created generalizing before with
  | nil => rfl
  | cons new created ih => exact congrArg (new :: ·) (ih (fresh before).2)

/-- A store in a folder, which holds what is in its file of addresses and refuses nothing. -/
def backend (files : Files (StateM φ)) (fresh : StateM φ Stamp) (folder : String)
    (content : Contents φ) : Backend where
  State := φ
  store := answer files fresh folder
  held state := listIn Address.decoder (content state (addressesPath folder))
  refuses _ _ := none

variable {fresh : StateM φ Stamp}

/-- The file of addresses is neither that of policies nor an unfinished one. -/
theorem addressesPath_ne (folder : String) :
    addressesPath folder ≠ policiesPath folder ∧
      addressesPath folder ≠ addressesPath folder ++ unfinishedSuffix ∧
      addressesPath folder ≠ policiesPath folder ++ unfinishedSuffix := by
  have hnodup := nodup_paths folder
  simp only [paths, List.nodup_cons, List.mem_cons, not_or] at hnodup
  exact ⟨hnodup.1.1, hnodup.1.2.1, hnodup.1.2.2.1⟩

theorem keeps_load_addresses (hfiles : files.IsFaithful content (paths folder)) :
    content.Keeps [addressesPath folder] (load files folder) :=
  (keeps_load hfiles).mono fun path hpath => by
    rw [List.mem_singleton.1 hpath]
    exact addressesPath_mem folder

/-- Requests that are no transactions leave the file of addresses as it is. -/
theorem keeps_answer (hfiles : files.IsFaithful content (paths folder)) {request : StoreRequest}
    (hrequest : ∀ drafts, request ≠ .transact drafts) :
    content.Keeps [addressesPath folder] (answer files fresh folder request) := by
  cases request with
  | transact drafts => exact absurd rfl (hrequest drafts)
  | find | select | policy =>
    refine (keeps_load_addresses hfiles).bind fun registry => ?_
    cases registry with
    | error e => exact Contents.keeps_pure _
    | ok registry => exact Contents.keeps_pure _
  | savePolicy policy =>
    obtain ⟨hne, _, hne'⟩ := addressesPath_ne folder
    refine (keeps_load_addresses hfiles).bind fun registry => ?_
    cases registry with
    | error e => exact Contents.keeps_pure _
    | ok registry =>
      exact keeps_writeList hfiles (policiesPath_mem folder) (by simp [paths])
        (addressesPath_mem folder) hne hne' _

/-- A transaction adds a record for every staged address to those in the file, or it fails as the
staging does or for a reason of the store and leaves the file of addresses as it is. -/
theorem transact_cases (hfiles : files.IsFaithful content (paths folder))
    (hfresh : content.Keeps (paths folder) fresh) (drafts : List Draft) (before : φ) :
    (∃ records after, transact files fresh folder drafts before = (.ok records, after) ∧
      stage (fun _ => none) drafts = .ok (records.map Address.payload) ∧
      listIn Address.decoder (content after (addressesPath folder)) =
        listIn Address.decoder (content before (addressesPath folder)) ++ records) ∨
    ∃ abort after, transact files fresh folder drafts before = (.error abort, after) ∧
      (stage (fun _ => none) drafts = .error abort ∨ ∃ e, abort = .store e) ∧
      content after (addressesPath folder) = content before (addressesPath folder) := by
  have hkept := keeps_load_addresses hfiles before _ List.mem_cons_self
  rw [transact]
  cases hload : (load files folder before).1 with
  | error e =>
    rw [Contents.bind_eq_of_fst hload]
    exact .inr ⟨_, _, rfl, .inr ⟨e, rfl⟩, hkept⟩
  | ok registry =>
    rw [Contents.bind_eq_of_fst hload]
    dsimp only
    cases hstage : stage (fun _ => none) drafts with
    | error abort => exact .inr ⟨_, _, rfl, .inl rfl, hkept⟩
    | ok created =>
      have hpayload := map_payload_stampAll fresh created (load files folder before).2
      have hstamped := keeps_stampAll hfresh created (load files folder before).2 _
        (addressesPath_mem folder)
      cases hstamps : stampAll fresh created (load files folder before).2 with
      | mk records stamped =>
        rw [hstamps] at hpayload hstamped
        dsimp only
        rw [Contents.bind_eq_of_fst (congrArg Prod.fst hstamps), hstamps]
        obtain ⟨_, hne, _⟩ := addressesPath_ne folder
        obtain ⟨hwrite, hcontent⟩ | ⟨⟨e, hwrite⟩, hcontent⟩ :=
          content_writeList hfiles Address.toJson (addressesPath_mem folder) (by simp [paths]) hne
            (registry.append records).addresses stamped
        · refine .inl ⟨records, _, Contents.bind_eq_of_fst hwrite, by rw [hpayload], ?_⟩
          rw [hcontent, listIn_listDocument Address.decoder_toJson Address.isPlain_toJson,
            load_ok hfiles hload, Registry.append]
        · exact .inr ⟨.store e, _, Contents.bind_eq_of_fst hwrite, .inr ⟨e, rfl⟩,
            hcontent.trans (hstamped.trans hkept)⟩

/-- A store in a folder is sound over files that do what they tell. -/
theorem isSound_backend (hfiles : files.IsFaithful content (paths folder))
    (hfresh : content.Keeps (paths folder) fresh) : (backend files fresh folder content).IsSound where
  refuses_eq _ _ := rfl
  held_eq request before hrequest :=
    congrArg (listIn Address.decoder) (keeps_answer hfiles hrequest before _ List.mem_cons_self)
  committed drafts before after records hanswer := by
    obtain ⟨_, _, hrun, hstage, hheld⟩ | ⟨_, _, hrun, _⟩ := transact_cases hfiles hfresh drafts before
    · cases hrun.symm.trans hanswer
      exact ⟨hstage, hheld⟩
    · cases hrun.symm.trans hanswer
  aborted drafts before after abort hanswer := by
    obtain ⟨_, _, hrun, _⟩ | ⟨_, _, hrun, hcause, hcontent⟩ :=
      transact_cases hfiles hfresh drafts before
    · cases hrun.symm.trans hanswer
    · cases hrun.symm.trans hanswer
      exact ⟨hcause, congrArg (listIn Address.decoder) hcontent⟩

end StoreFolder

end AddressIntake

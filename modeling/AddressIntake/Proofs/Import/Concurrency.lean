import AddressIntake.Proofs.Import.Accounting
import AddressIntake.Proofs.Import.References
import AddressIntake.Proofs.Import.Turns

namespace AddressIntake

open Pipeline

section Parts

variable {project : String} {kind : AddressKind} {rows : List Row} {options : CommitOptions}
  {transcript : Transcript}

/-- A commit ends without any transaction, or it attempts every chunk after some questions, by the
last answer to the query for ship-to addresses if its rows need one. -/
theorem Pipeline.Ends.commitRows_cases {result : Except ImportError ImportResult}
    (hends : Ends (commitRows project kind rows options) transcript result) :
    (transcript.blocks = [] ∧ ∀ summary, result = .ok summary →
      summary.imported = 0 ∧ summary.chunks = []) ∨
    ∃ (front : Transcript) (answer : Except StoreError (List Address)) (attempts : List Attempt),
      let job := CommitJob.ofCommit project kind options answer
      front.blocks = [] ∧
      (kind = .installAt → ⟨.select project .shipTo, answer⟩ ∈ front) ∧
      attempts.map (·.chunk) = chunksOf job.chunkSize rows ∧
      transcript = front ++ job.exchanges 0 attempts ∧
      result = .ok (job.summary 0 (.start (Row.filledCount rows)) attempts) := by
  obtain ⟨e, hcheck, rfl⟩ | ⟨errors, _, hcheck, rfl⟩ |
    ⟨first, second, lookup, attempts, hcheck, hlookup, hchunks, rfl, rfl⟩ := ends_commitRows_iff.1 hends
  · exact .inl ⟨Transcript.blocks_eq_nil (not_transact_of_ends_checkStored hcheck),
      fun summary hsummary => by cases hsummary⟩
  · refine .inl ⟨Transcript.blocks_eq_nil (not_transact_of_ends_checkStored hcheck),
      fun summary hsummary => ?_⟩
    cases hsummary
    exact ⟨rfl, rfl⟩
  · have hquiet : Transcript.blocks (first ++ second) = [] := by
      rw [Transcript.blocks_append,
        Transcript.blocks_eq_nil (not_transact_of_ends_checkStored hcheck),
        Transcript.blocks_eq_nil (not_transact_of_ends_neededLookup hlookup),
        List.append_nil]
    by_cases hkind : kind = .installAt
    · subst hkind
      obtain ⟨answer, rfl, rfl⟩ := ends_neededLookup_installAt_iff.1 hlookup
      exact .inr ⟨_, answer, attempts, hquiet, fun _ => by simp, hchunks,
        (List.append_assoc ..).symm, rfl⟩
    · obtain ⟨rfl, rfl⟩ := (ends_neededLookup_iff_of_ne hkind).1 hlookup
      have hjob : (⟨project, kind, max options.chunkSize 1, none⟩ : CommitJob) =
          CommitJob.ofCommit project kind options (.ok []) := by
        rw [CommitJob.ofCommit, ShipToLookup.needed, if_neg hkind]
      rw [hjob] at hchunks ⊢
      exact .inr ⟨_, .ok [], attempts, hquiet, fun hinstall => absurd hinstall hkind, hchunks,
        (List.append_assoc ..).symm, rfl⟩

/-- Only a commit writes. -/
theorem Operation.exists_commit_of_ends {operation : Operation} {result : operation.Result}
    (hends : Ends operation.script transcript result) (hblocks : transcript.blocks ≠ []) :
    ∃ project kind rows options, operation = .commit project kind rows options := by
  cases operation with
  | commit project kind rows options => exact ⟨project, kind, rows, options, rfl⟩
  | preview project kind rows =>
    obtain ⟨_, hcheck, _⟩ | ⟨_, hcheck, _⟩ := ends_previewRows_iff.1 hends
    · exact absurd (Transcript.blocks_eq_nil (not_transact_of_ends_checkStored hcheck)) hblocks
    · exact absurd (Transcript.blocks_eq_nil (not_transact_of_ends_checkStored hcheck)) hblocks
  | savePolicy | list | find =>
    rw [ends_ask_iff.1 hends] at hblocks
    exact absurd rfl hblocks
  | flags project kind =>
    obtain ⟨_, rfl, _⟩ := ends_requiredFlags_iff.1 hends
    exact absurd rfl hblocks
  | lookup project =>
    obtain ⟨_, rfl, _⟩ := ends_shipToLookup_iff.1 hends
    exact absurd rfl hblocks

end Parts

namespace CommitJob

variable {job : CommitJob}

theorem getElem?_exchanges (job : CommitJob) (attempts : List Attempt) (index : Nat) :
    (job.exchanges 0 attempts)[index]? = attempts[index]?.map (job.exchange · index) := by
  simp only [exchanges, List.getElem?_map, List.getElem?_zipIdx, Option.map_map, Nat.zero_add]
  rfl

theorem block?_exchange (attempt : Attempt) (index : Nat) :
    (job.exchange attempt index).block? = attempt.records? := by
  obtain ⟨chunk, outcome⟩ := attempt
  cases outcome <;> rfl

theorem blocks_exchanges (index : Nat) (attempts : List Attempt) :
    (job.exchanges index attempts).blocks = attempts.filterMap Attempt.records? := by
  have hblock : (Exchange.block? ∘ fun entry : Attempt × Nat => job.exchange entry.1 entry.2) =
      Attempt.records? ∘ Prod.fst := by
    funext entry
    exact block?_exchange entry.1 entry.2
  rw [exchanges, Transcript.blocks, List.filterMap_map, hblock, ← List.filterMap_map,
    List.zipIdx_map_fst]

theorem length_flatten_records (attempts : List Attempt) :
    (attempts.filterMap Attempt.records?).flatten.length = (attempts.map Attempt.created).sum := by
  induction attempts with
  | nil => rfl
  | cons attempt attempts ih =>
    rw [List.map_cons, List.sum_cons, ← ih]
    cases houtcome : attempt.outcome with
    | ok records =>
      rw [List.filterMap_cons_some (Attempt.records?_eq_some_iff.2 houtcome), List.flatten_cons,
        List.length_append, Attempt.created, houtcome]
    | error abort =>
      have hnone : attempt.records? = none := by
        rw [Attempt.records?, houtcome]
      rw [List.filterMap_cons_none hnone, Attempt.created, houtcome, Nat.zero_add]

end CommitJob

/-- A transcript that is cut at a block is cut after the part without blocks. -/
theorem Transcript.exists_of_append_eq {front tail before rest : Transcript} {exchange : Exchange}
    {block : List Address} (hquiet : front.blocks = []) (hblock : exchange.block? = some block)
    (hcut : before ++ exchange :: rest = front ++ tail) :
    ∃ between, before = front ++ between ∧ tail = between ++ exchange :: rest := by
  have hfront : exchange ∉ front := fun hmem => by
    rw [List.filterMap_eq_nil_iff.1 hquiet exchange hmem] at hblock
    cases hblock
  exact exists_of_append_eq_append_cons hfront hcut.symm

namespace Trace

variable {trace : Trace} {i : Nat}

/-- The addresses after the exchanges of a trace, if those before are given. -/
def held (initial : List Address) (trace : Trace) : List Address :=
  initial ++ (Transcript.blocks (trace.map (·.2))).flatten

theorem held_append (initial : List Address) (first second : Trace) :
    held initial (first ++ second) =
      first.held initial ++ (Transcript.blocks (second.map (·.2))).flatten := by
  rw [held, held, List.map_append, Transcript.blocks_append, List.flatten_append, List.append_assoc]

theorem mem_of_mem_own {exchange : Exchange} (hmem : exchange ∈ trace.own i) :
    exchange ∈ trace.map (·.2) := by
  obtain ⟨event, hevent, rfl⟩ := List.mem_map.1 hmem
  exact List.mem_map_of_mem (List.mem_filter.1 hevent).1

/-- Where the exchanges of a client are cut, the trace is cut too. -/
theorem exists_of_own_eq {before rest : Transcript} {exchange : Exchange}
    (hown : trace.own i = before ++ exchange :: rest) :
    ∃ earlier later : Trace, trace = earlier ++ (i, exchange) :: later ∧ earlier.own i = before := by
  obtain ⟨first, second, hfilter, rfl, hsecond⟩ := List.map_eq_append_iff.1 hown
  obtain ⟨earlier, others, rfl, rfl, hothers⟩ := List.filter_eq_append_iff.1 hfilter
  obtain ⟨⟨j, exchange⟩, tail, rfl, rfl, _⟩ := List.map_eq_cons_iff.1 hsecond
  obtain ⟨skipped, later, rfl, hskipped, hevent, _⟩ := List.filter_eq_cons_iff.1 hothers
  obtain rfl : j = i := by simpa using hevent
  refine ⟨earlier ++ skipped, later, by simp, ?_⟩
  have hnone : skipped.filter (fun event => event.1 == j) = [] :=
    List.filter_eq_nil_iff.2 hskipped
  rw [own, List.filter_append, hnone, List.append_nil]

end Trace

/-- What an operation writes for the chunk with an index while some addresses are held: one record
for each row of the chunk that is not blank, in row order. Each record holds the values of its row,
and an install-at record refers to the first ship-to address that bears the name in the row. -/
def Operation.Writes (held : List Address) (operation : Operation) (index : Nat)
    (block : List Address) : Prop :=
  ∃ (project : String) (kind : AddressKind) (rows : List Row) (options : CommitOptions)
    (chunk : List Row),
    operation = .commit project kind rows options ∧
    (chunksOf (max options.chunkSize 1) rows)[index]? = some chunk ∧
    List.Forall₂ (fun row address => address.project = project ∧ address.kind = kind ∧
      Registry.Refers ⟨held, []⟩ row address) (chunk.filter (!·.isBlank)) block

namespace Operation

variable {held : List Address} {operation : Operation} {index : Nat} {block : List Address}

theorem Writes.append (hwrites : operation.Writes held index block) (added : List Address) :
    operation.Writes (held ++ added) index block := by
  obtain ⟨project, kind, rows, options, chunk, hoperation, hchunk, hrows⟩ := hwrites
  refine ⟨project, kind, rows, options, chunk, hoperation, hchunk, ?_⟩
  exact hrows.imp fun row address ⟨hproject, hkind, hrefers⟩ =>
    ⟨hproject, hkind, hrefers.append added⟩

/-- Every install-at record that is written refers to a ship-to address of its project. -/
theorem Writes.exists_shipTo (hwrites : operation.Writes held index block) {address : Address}
    (hmem : address ∈ block) (hinstall : address.kind = .installAt) :
    ∃ target ∈ held, target.kind = .shipTo ∧ target.project = address.project ∧
      address.shipTo = some target.id := by
  obtain ⟨_, _, _, _, chunk, _, _, hrows⟩ := hwrites
  obtain ⟨row, _, _, _, _, hreference⟩ := exists_of_forall₂_of_mem hrows hmem
  obtain ⟨name, target, _, hfirst, hshipTo⟩ := hreference hinstall
  obtain ⟨htarget, hproject, hkind⟩ := Registry.mem_of_firstShipTo? hfirst
  exact ⟨target, htarget, hkind, hproject, hshipTo⟩

end Operation

namespace MemoryStore

variable {store between after : MemoryStore} {earlier : Transcript}

/-- A transaction for a chunk succeeds only with a record for every row that is not blank, and only
if all of these rows refer to what the job knows. -/
theorem forall₂_of_respond_drafts {job : CommitJob} {offset : Nat} {chunk : List Row}
    {block : List Address}
    (hanswer : respond (.transact (job.drafts offset chunk)) store = (.ok block, after)) :
    List.Forall₂ (fun row address => job.isDangling row = false ∧
      job.newAddress row = address.payload) (chunk.filter (!·.isBlank)) block := by
  obtain ⟨hstage, _⟩ := isSound_backend.committed _ _ _ _ hanswer
  obtain ⟨hclean, hrecords⟩ := (job.stage_drafts_eq_ok_iff _).1 hstage
  have hpairs : List.Forall₂ (fun row address => job.newAddress row = address.payload)
      (chunk.filter (!·.isBlank)) block := by
    refine List.forall₂_map_left_iff.1 (List.forall₂_map_right_iff.1 ?_)
    rw [List.forall₂_eq_eq_eq]
    exact hrecords
  refine (List.forall₂_and_left ..).2 ⟨fun row hmem => ?_, hpairs⟩
  obtain ⟨hrow, hfilled⟩ := List.mem_filter.1 hmem
  have hgood := List.any_eq_false.1 hclean row hrow
  simp only [CommitJob.isBad, hfilled, Bool.true_and, Bool.or_eq_true, not_or] at hgood
  simpa using hgood.1

/-- The ship-to addresses that were told before are among those that are held now, in front of those
that were added since. -/
theorem exists_select_of_mem (hfollows : Transcript.Follows answer store earlier between)
    {project : String} {kind : AddressKind} {records : List Address}
    (hmem : ⟨.select project kind, .ok records⟩ ∈ earlier) :
    ∃ (registry : Registry) (added : List Address), records = registry.select project kind ∧
      between.registry.addresses = (registry.append added).addresses := by
  obtain ⟨first, second, rfl⟩ := List.append_of_mem hmem
  obtain ⟨told, _, htold, hrest⟩ := Transcript.follows_append_iff.1 hfollows
  obtain ⟨hgrown, _⟩ := isSound_backend.held_eq_append_blocks hrest
  refine ⟨told.registry, (Transcript.blocks second).flatten, ?_, hgrown⟩
  change (if told.readable then Except.ok (told.registry.select project kind) else
    .error unreadable) = Except.ok records at htold
  split at htold
  · exact (Except.ok.inj htold).symm
  · cases htold

/-- A transaction for a chunk of a commit writes this chunk, even if addresses were added since the
commit asked for the ship-to addresses: they stand at the end, so that the first address with a name
is still the one that was looked up. -/
theorem writes_of_respond_drafts (hfollows : Transcript.Follows answer store earlier between)
    {project : String} {kind : AddressKind} {rows : List Row} {options : CommitOptions}
    {told : Except StoreError (List Address)}
    (htold : kind = .installAt → ⟨.select project .shipTo, told⟩ ∈ earlier) {index : Nat}
    {chunk : List Row} {block : List Address}
    (hchunk : (chunksOf (max options.chunkSize 1) rows)[index]? = some chunk) {offset : Nat}
    (hanswer : respond (.transact ((CommitJob.ofCommit project kind options told).drafts offset
      chunk)) between = (.ok block, after)) :
    (Operation.commit project kind rows options).Writes between.registry.addresses index block := by
  refine ⟨project, kind, rows, options, chunk, rfl, hchunk, ?_⟩
  refine (forall₂_of_respond_drafts hanswer).imp fun row address ⟨hknown, hpayload⟩ => ?_
  refine ⟨(congrArg NewAddress.project hpayload).symm, (congrArg NewAddress.kind hpayload).symm, ?_⟩
  by_cases hkind : kind = .installAt
  · cases told with
    | error e =>
      subst hkind
      cases hknown
    | ok records =>
      obtain ⟨registry, added, rfl, hgrown⟩ := exists_select_of_mem hfollows (htold hkind)
      rw [hgrown]
      exact (CommitJob.refers_of_not_isDangling hknown hpayload).append added
  · have hjob (other : Except StoreError (List Address)) :
        CommitJob.ofCommit project kind options told =
          CommitJob.ofCommit project kind options other := by
      rw [CommitJob.ofCommit, CommitJob.ofCommit, ShipToLookup.needed, ShipToLookup.needed,
        if_neg hkind, if_neg hkind]
    rw [hjob (.ok (between.registry.select project .shipTo))] at hknown hpayload
    exact CommitJob.refers_of_not_isDangling hknown hpayload

end MemoryStore

namespace Crew

variable {store : MemoryStore} {operations : List Operation} {trace : Trace}
  {crew : Crew MemoryStore}

theorem Reaches.addresses_eq (hreaches : (start store operations).Reaches MemoryStore.answer trace crew) :
    crew.state.registry.addresses = trace.held store.registry.addresses :=
  (MemoryStore.isSound_backend.held_eq_append_blocks hreaches.follows).1

/-- What a transaction of a client writes where the trace is cut at it. -/
theorem Reaches.writes_of_exchange
    (hreaches : (start store operations).Reaches MemoryStore.answer trace crew)
    {earlier later : Trace} {i index : Nat} {project : String} {kind : AddressKind} {rows : List Row}
    {options : CommitOptions} {told : Except StoreError (List Address)} {attempt : Attempt}
    {block : List Address}
    (htrace : trace = earlier ++ (i, (CommitJob.ofCommit project kind options told).exchange attempt
      index) :: later)
    (htold : kind = .installAt → ⟨.select project .shipTo, told⟩ ∈ earlier.own i)
    (hchunk : (chunksOf (max options.chunkSize 1) rows)[index]? = some attempt.chunk)
    (houtcome : attempt.outcome = .ok block) :
    (Operation.commit project kind rows options).Writes (earlier.held store.registry.addresses)
      index block := by
  have hfollows := hreaches.follows
  rw [htrace, List.map_append, List.map_cons, Transcript.follows_append_iff] at hfollows
  obtain ⟨between, hearlier, hanswer, _⟩ := hfollows
  obtain ⟨hheld, _⟩ := MemoryStore.isSound_backend.held_eq_append_blocks hearlier
  change between.registry.addresses = earlier.held store.registry.addresses at hheld
  rw [← hheld]
  exact MemoryStore.writes_of_respond_drafts hearlier
    (fun hkind => Trace.mem_of_mem_own (htold hkind)) hchunk
    (Prod.ext (hanswer.trans houtcome) rfl)

/-- The own exchanges of a client led its operation to what is left of it. -/
theorem Reaches.leads_of_client
    (hreaches : (start store operations).Reaches MemoryStore.answer trace crew) {i : Nat}
    {client : Client} (hclient : crew.clients[i]? = some client) :
    operations[i]? = some client.operation ∧
      Leads client.operation.script (trace.own i) client.rest := by
  obtain ⟨hbound, _⟩ := List.getElem?_eq_some_iff.1 hclient
  rw [hreaches.length_eq, start, List.length_map] at hbound
  have hoperation := List.getElem?_eq_getElem hbound
  have hstart : (start store operations).clients[i]? = some (.ofOperation operations[i]) := by
    rw [start, List.getElem?_map, hoperation, Option.map_some]
  obtain ⟨rest, hrest, hleads⟩ := hreaches.leads i _ hstart
  rw [hclient, Option.some.injEq] at hrest
  subst hrest
  exact ⟨hoperation, hleads⟩

/-- Every block is what the commit of its client writes for one of its chunks. -/
theorem Reaches.exists_writes
    (hreaches : (start store operations).Reaches MemoryStore.answer trace crew)
    {earlier later : Trace} {i : Nat} {exchange : Exchange} {block : List Address}
    (htrace : trace = earlier ++ (i, exchange) :: later) (hblock : exchange.block? = some block) :
    ∃ (operation : Operation) (index : Nat), operations[i]? = some operation ∧
      operation.Writes (earlier.held store.registry.addresses) index block := by
  have hbound := hreaches.lt_length (i, exchange) (by simp [htrace])
  rw [← hreaches.length_eq] at hbound
  obtain ⟨hoperation, hleads⟩ := hreaches.leads_of_client (List.getElem?_eq_getElem hbound)
  generalize crew.clients[i] = client at hoperation hleads
  -- what is left of the client can be brought to an end, by which its commit is known whole
  obtain ⟨others, hends, _⟩ := exists_transcript_run MemoryStore.answer client.rest crew.state
  have hends := hleads others _ hends
  have hown : trace.own i ++ others = earlier.own i ++ exchange :: (later.own i ++ others) := by
    rw [htrace, Trace.own_append, List.append_assoc]
    simp [Trace.own]
  rw [hown] at hends
  have hsome : Transcript.blocks (earlier.own i ++ exchange :: (later.own i ++ others)) ≠ [] := by
    rw [Transcript.blocks_append, Transcript.blocks, Transcript.blocks,
      List.filterMap_cons_some hblock]
    simp
  obtain ⟨operation, rest⟩ := client
  obtain ⟨project, kind, rows, options, rfl⟩ := Operation.exists_commit_of_ends hends hsome
  obtain ⟨hnone, _⟩ | ⟨front, told, attempts, hquiet, htold, hchunks, hall, _⟩ :=
    Ends.commitRows_cases hends
  · exact absurd hnone hsome
  · obtain ⟨between, hbefore, hexchanges⟩ := Transcript.exists_of_append_eq hquiet hblock hall
    have hat := CommitJob.getElem?_exchanges (.ofCommit project kind options told) attempts
      between.length
    rw [hexchanges, List.getElem?_append_right (Nat.le_refl _), Nat.sub_self,
      List.getElem?_cons_zero, eq_comm, Option.map_eq_some_iff] at hat
    obtain ⟨attempt, hattempt, rfl⟩ := hat
    refine ⟨_, between.length, hoperation, hreaches.writes_of_exchange htrace (fun hkind => ?_) ?_ ?_⟩
    · rw [hbefore]
      exact List.mem_append_left _ (htold hkind)
    · have hchunk := congrArg (·[between.length]?) hchunks
      rw [List.getElem?_map, hattempt] at hchunk
      exact hchunk.symm
    · rwa [CommitJob.block?_exchange, Attempt.records?_eq_some_iff] at hblock

/-- A client that is done with a commit counts the records of its own transactions, each of which is
what the commit writes for a chunk that it reports as committed. -/
theorem Reaches.imported_of_done
    (hreaches : (start store operations).Reaches MemoryStore.answer trace crew) {i : Nat}
    {project : String} {kind : AddressKind} {rows : List Row} {options : CommitOptions}
    {result : ImportResult}
    (hdone : crew.clients[i]? = some ⟨.commit project kind rows options, .done (.ok result)⟩) :
    result.imported = (trace.own i).blocks.flatten.length ∧
      List.Forall₂ (fun report block => (Operation.commit project kind rows options).Writes
        crew.state.registry.addresses report.index block)
        (result.chunks.filter (·.state = .committed)) (trace.own i).blocks := by
  have hends : Ends (commitRows project kind rows options) (trace.own i) (.ok result) := by
    obtain ⟨_, hleads⟩ := hreaches.leads_of_client hdone
    have hended := hleads [] (.ok result) ⟨rfl, rfl⟩
    rwa [List.append_nil] at hended
  obtain ⟨hnone, hresult⟩ | ⟨front, told, attempts, hquiet, htold, hchunks, hall, hresult⟩ :=
    hends.commitRows_cases
  · obtain ⟨himported, hreports⟩ := hresult result rfl
    rw [hnone, himported, hreports]
    exact ⟨rfl, .nil⟩
  · obtain rfl := Except.ok.inj hresult
    have hblocks : (trace.own i).blocks = attempts.filterMap Attempt.records? := by
      rw [hall, Transcript.blocks_append, hquiet, List.nil_append, CommitJob.blocks_exchanges]
    rw [hblocks]
    refine ⟨?_, CommitJob.forall₂_records_summary _ fun index attempt block hattempt houtcome => ?_⟩
    · rw [CommitJob.length_flatten_records, CommitJob.summary, ImportResult.start, Nat.zero_add]
    · have hat := CommitJob.getElem?_exchanges (.ofCommit project kind options told) attempts index
      rw [hattempt, Option.map_some] at hat
      obtain ⟨before, rest, hsplit⟩ := List.append_of_mem (List.mem_of_getElem? hat)
      rw [hsplit, ← List.append_assoc] at hall
      obtain ⟨earlier, later, htrace, hown⟩ := Trace.exists_of_own_eq hall
      have hchunk := congrArg (·[index]?) hchunks
      simp only [List.getElem?_map, hattempt, Option.map_some] at hchunk
      have hwrites := hreaches.writes_of_exchange htrace (fun hkind => by
        rw [hown]
        exact List.mem_append_left _ (htold hkind)) hchunk.symm houtcome
      rw [hreaches.addresses_eq, htrace, Trace.held_append]
      exact hwrites.append _

/-- Nothing is lost and nothing is mixed: the addresses that are held at the end of a trace, the blocks
in them and what the clients count agree. -/
structure IsAccounted (initial : List Address) (operations : List Operation) (trace : Trace)
    (crew : Crew MemoryStore) : Prop where
  /-- The addresses are those from before and then the blocks, in the order of their transactions. -/
  addresses_eq : crew.state.registry.addresses = trace.held initial
  /-- Each block is complete and in row order, and the references in it are to addresses that were
  held when it was written. -/
  blocks : ∀ (earlier later : Trace) (i : Nat) (exchange : Exchange) (block : List Address),
    trace = earlier ++ (i, exchange) :: later → exchange.block? = some block →
    (∃ (operation : Operation) (index : Nat), operations[i]? = some operation ∧
      operation.Writes (earlier.held initial) index block) ∧
    ∀ address ∈ block, address.kind = .installAt →
      ∃ target ∈ earlier.held initial, target.kind = .shipTo ∧
        target.project = address.project ∧ address.shipTo = some target.id
  /-- A client that is done with a commit counts the records of its own blocks, which are those of
  the chunks that it reports as committed. -/
  imported : ∀ (i : Nat) (project : String) (kind : AddressKind) (rows : List Row)
    (options : CommitOptions) (result : ImportResult),
    crew.clients[i]? = some ⟨.commit project kind rows options, .done (.ok result)⟩ →
    result.imported = (trace.own i).blocks.flatten.length ∧
    List.Forall₂ (fun report block => (Operation.commit project kind rows options).Writes
      crew.state.registry.addresses report.index block)
      (result.chunks.filter (·.state = .committed)) (trace.own i).blocks

/-- Whatever the store holds and refuses, whatever the clients do with it, and in whatever order they
have their turns, no commit loses records or mixes them with those of another one. Each client can be
brought to an end from there. -/
theorem concurrent_commits_lose_and_mix_nothing (store : MemoryStore)
    (operations : List Operation) (turns : List Nat) :
    let ran := (start store operations).run MemoryStore.answer turns
    IsAccounted store.registry.addresses operations ran.1 ran.2 ∧
    ∀ (i : Nat) (operation : Operation), operations[i]? = some operation →
      ∃ (count : Nat) (result : operation.Result),
        (ran.2.run MemoryStore.answer (List.replicate count i)).2.clients[i]? =
          some ⟨operation, .done result⟩ := by
  intro ran
  have hreaches := reaches_run MemoryStore.answer turns (start store operations)
  refine ⟨⟨hreaches.addresses_eq, fun earlier later i exchange block htrace hblock => ?_,
    fun i project kind rows options result hdone => hreaches.imported_of_done hdone⟩,
    fun i operation hoperation => ?_⟩
  · obtain ⟨operation, index, hoperation, hwrites⟩ := hreaches.exists_writes htrace hblock
    exact ⟨⟨operation, index, hoperation, hwrites⟩,
      fun address hmem hinstall => hwrites.exists_shipTo hmem hinstall⟩
  · have hstart : (start store operations).clients[i]? = some (.ofOperation operation) := by
      rw [start, List.getElem?_map, hoperation, Option.map_some]
    obtain ⟨rest, hrest, _⟩ := hreaches.leads i _ hstart
    exact exists_turns_done MemoryStore.answer hrest

/-- Two clients that take turns, the one with a ship-to address and the other with a place to install
that refers to it. -/
theorem concurrent_commits_lose_and_mix_nothing_of_two_clients :
    let store : MemoryStore := .empty fun _ => ⟨.zero, .epoch⟩
    let place := [("address_line1", "1 Main Street"), ("city", "Springfield"), ("state", "IL"),
      ("country", "US")]
    let operations : List Operation :=
      [.commit "project" .shipTo [.ofList (("company_name", "Acme") :: place)] .default,
        .commit "project" .installAt [.ofList (("ship_to_name", "Acme") :: place)] .default]
    let ran := (start store operations).run MemoryStore.answer [0, 1, 1, 0, 0, 1]
    operations[1]? = some operations[1] ∧ IsAccounted [] operations ran.1 ran.2 ∧
      ∃ (count : Nat) (result : operations[1].Result),
        (ran.2.run MemoryStore.answer (List.replicate count 1)).2.clients[1]? =
          some ⟨operations[1], .done result⟩ := by
  intro store place operations ran
  obtain ⟨haccounted, hdone⟩ :=
    concurrent_commits_lose_and_mix_nothing store operations [0, 1, 1, 0, 0, 1]
  exact ⟨rfl, haccounted, hdone 1 operations[1] rfl⟩

end Crew

end AddressIntake

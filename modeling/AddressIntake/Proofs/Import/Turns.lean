import AddressIntake.Proofs.Import.Operation

namespace AddressIntake

namespace Pipeline

variable {α σ : Type}

/-- One turn of a script: its next request or message, what is left of it, and the state of the
store. A script that is done does nothing. -/
def step (store : Store (StateM σ)) : Pipeline α → σ → Option Exchange × Pipeline α × σ
  | Script.done value, state => (none, Script.done value, state)
  | Script.ask (Effect.store request) next, state =>
    let (answer, after) := store request state
    (some ⟨request, answer⟩, next answer, after)
  | Script.ask (Effect.log _) next, state => (none, next (), state)

/-- What is left of a script after the exchanges of a transcript: however it goes on and ends, so
does the script. -/
def Leads (script : Pipeline α) (transcript : Transcript) (rest : Pipeline α) : Prop :=
  ∀ (others : Transcript) (result : α), Ends rest others result →
    Ends script (transcript ++ others) result

theorem leads_self (script : Pipeline α) : Leads script [] script :=
  fun _ _ hends => hends

theorem Leads.trans {script rest last : Pipeline α} {first second : Transcript}
    (hfirst : Leads script first rest) (hsecond : Leads rest second last) :
    Leads script (first ++ second) last := by
  intro others result hends
  rw [List.append_assoc]
  exact hfirst _ _ (hsecond _ _ hends)

/-- A turn leads to what it leaves, by an exchange that the store answered. -/
theorem leads_step (store : Store (StateM σ)) (script : Pipeline α) (state : σ) :
    Leads script (script.step store state).1.toList (script.step store state).2.1 ∧
      Transcript.Follows store state (script.step store state).1.toList
        (script.step store state).2.2 := by
  cases script with
  | done value => exact ⟨leads_self _, rfl⟩
  | ask effect next =>
    cases effect with
    | store request => exact ⟨fun others result hends => ⟨_, others, rfl, hends⟩, rfl, rfl⟩
    | log line => exact ⟨fun _ _ hends => hends, rfl⟩

end Pipeline

/-- A client: its operation and what is left of it. -/
structure Client where
  operation : Operation
  rest : Pipeline operation.Result

/-- The client that begins an operation. -/
def Client.ofOperation (operation : Operation) : Client :=
  ⟨operation, operation.script⟩

/-- The exchanges of several clients, each with the index of its client, in the order in which the
store answered them. -/
abbrev Trace := List (Nat × Exchange)

/-- The exchanges of one client. -/
def Trace.own (trace : Trace) (i : Nat) : Transcript :=
  (trace.filter fun event => event.1 == i).map (·.2)

theorem Trace.own_append (first second : Trace) (i : Nat) :
    Trace.own (first ++ second) i = first.own i ++ second.own i := by
  simp [Trace.own]

/-- A store in a state, with the clients that share it. In its turn a client publishes a message or
asks the store for one thing, which the store does before anyone else has a turn. A client that does
several things one after the other is as many clients here, of which a later one has no turn before
an earlier one is done. -/
structure Crew (σ : Type) where
  state : σ
  clients : List Client

namespace Crew

open Pipeline

variable {σ : Type}

/-- The clients of a store before their first turns. -/
def start (state : σ) (operations : List Operation) : Crew σ :=
  ⟨state, operations.map .ofOperation⟩

/-- The turn of a client. Nothing happens if there is no such client. -/
def turn (store : Store (StateM σ)) (crew : Crew σ) (i : Nat) : Trace × Crew σ :=
  match crew.clients[i]? with
  | none => ([], crew)
  | some client =>
    let (exchange, rest, after) := client.rest.step store crew.state
    (exchange.toList.map (i, ·), ⟨after, crew.clients.set i ⟨client.operation, rest⟩⟩)

/-- Turns one after the other, each given by the index of its client. -/
def run (store : Store (StateM σ)) : List Nat → Crew σ → Trace × Crew σ
  | [], crew => ([], crew)
  | i :: turns, crew =>
    let (first, between) := crew.turn store i
    let (second, after) := run store turns between
    (first ++ second, after)

/-- What turns do: the store answers the exchanges of the trace one after the other, and each client
is led on by its own exchanges, whatever the others do. -/
structure Reaches (store : Store (StateM σ)) (before : Crew σ) (trace : Trace) (after : Crew σ) :
    Prop where
  follows : Transcript.Follows store before.state (trace.map (·.2)) after.state
  length_eq : after.clients.length = before.clients.length
  lt_length : ∀ event ∈ trace, event.1 < before.clients.length
  leads : ∀ (i : Nat) (client : Client), before.clients[i]? = some client →
    ∃ rest, after.clients[i]? = some ⟨client.operation, rest⟩ ∧
      Leads client.rest (trace.own i) rest

variable {store : Store (StateM σ)} {before between after : Crew σ} {first second : Trace}

theorem reaches_self (store : Store (StateM σ)) (crew : Crew σ) : crew.Reaches store [] crew where
  follows := rfl
  length_eq := rfl
  lt_length := fun _ hmem => by cases hmem
  leads := fun _ client hclient => ⟨client.rest, hclient, leads_self _⟩

theorem Reaches.trans (hfirst : before.Reaches store first between)
    (hsecond : between.Reaches store second after) :
    before.Reaches store (first ++ second) after where
  follows := by
    rw [List.map_append, Transcript.follows_append_iff]
    exact ⟨between.state, hfirst.follows, hsecond.follows⟩
  length_eq := hsecond.length_eq.trans hfirst.length_eq
  lt_length := by
    intro event hmem
    rcases List.mem_append.1 hmem with hmem | hmem
    · exact hfirst.lt_length event hmem
    · rw [← hfirst.length_eq]
      exact hsecond.lt_length event hmem
  leads := by
    intro i client hclient
    obtain ⟨rest, hrest, hleads⟩ := hfirst.leads i client hclient
    obtain ⟨last, hlast, hothers⟩ := hsecond.leads i _ hrest
    refine ⟨last, hlast, ?_⟩
    rw [Trace.own_append]
    exact hleads.trans hothers

/-- One turn moves its client on and leaves the others alone. -/
theorem reaches_turn (store : Store (StateM σ)) (crew : Crew σ) (i : Nat) :
    crew.Reaches store (crew.turn store i).1 (crew.turn store i).2 := by
  rw [turn]
  cases hclient : crew.clients[i]? with
  | none => exact reaches_self store crew
  | some client =>
    obtain ⟨hleads, hfollows⟩ := leads_step store client.rest crew.state
    obtain ⟨hbound, _⟩ := List.getElem?_eq_some_iff.1 hclient
    refine ⟨?_, List.length_set, ?_, ?_⟩
    · rw [List.map_map]
      exact (List.map_id _).symm ▸ hfollows
    · intro event hmem
      obtain ⟨_, _, rfl⟩ := List.mem_map.1 hmem
      exact hbound
    · intro j other hother
      by_cases hsame : i = j
      · subst hsame
        obtain rfl : client = other := Option.some.inj (hclient.symm.trans hother)
        refine ⟨_, List.getElem?_set_self hbound, ?_⟩
        have hown : Trace.own ((client.rest.step store crew.state).1.toList.map (i, ·)) i =
            (client.rest.step store crew.state).1.toList := by
          simp [Trace.own, List.filter_map, Function.comp_def]
        rw [hown]
        exact hleads
      · refine ⟨other.rest, by rw [List.getElem?_set_ne hsame, hother], ?_⟩
        have hown : Trace.own ((client.rest.step store crew.state).1.toList.map (i, ·)) j = [] := by
          simp [Trace.own, List.filter_map, Function.comp_def, hsame]
        rw [hown]
        exact leads_self _

theorem reaches_run (store : Store (StateM σ)) (turns : List Nat) (crew : Crew σ) :
    crew.Reaches store (crew.run store turns).1 (crew.run store turns).2 := by
  induction turns generalizing crew with
  | nil => exact reaches_self store crew
  | cons i turns ih => exact (reaches_turn store crew i).trans (ih _)

/-- No client waits for another one: with enough turns in a row it is done. -/
theorem exists_turns_done (store : Store (StateM σ)) {crew : Crew σ} {i : Nat} {operation : Operation}
    {rest : Pipeline operation.Result} (hclient : crew.clients[i]? = some ⟨operation, rest⟩) :
    ∃ (count : Nat) (result : operation.Result),
      (crew.run store (List.replicate count i)).2.clients[i]? = some ⟨operation, .done result⟩ := by
  induction rest generalizing crew with
  | done result => exact ⟨0, result, hclient⟩
  | ask effect next ih =>
    obtain ⟨hbound, _⟩ := List.getElem?_eq_some_iff.1 hclient
    have hturn : (crew.turn store i).2.clients[i]? =
        some ⟨operation, (step store (Script.ask effect next) crew.state).2.1⟩ := by
      rw [turn, hclient]
      exact List.getElem?_set_self hbound
    cases effect with
    | store request =>
      obtain ⟨count, result, hdone⟩ := ih _ hturn
      exact ⟨count + 1, result, hdone⟩
    | log line =>
      obtain ⟨count, result, hdone⟩ := ih _ hturn
      exact ⟨count + 1, result, hdone⟩

end Crew

end AddressIntake

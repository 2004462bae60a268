import AddressIntake.Import.Pipeline

namespace AddressIntake

/-- What comes before an element that the front part lacks starts with the front part. -/
theorem exists_of_append_eq_append_cons {α : Type} {a : α} {front back first second : List α}
    (hfront : a ∉ front) (happend : front ++ back = first ++ a :: second) :
    ∃ between, first = front ++ between ∧ back = between ++ a :: second := by
  obtain ⟨between, hfirst, hback⟩ | ⟨between, hsplit, hsecond⟩ := List.append_eq_append_iff.1 happend
  · exact ⟨between, hfirst, hback⟩
  · cases between with
    | nil => exact ⟨[], by simpa using hsplit.symm, hsecond.symm⟩
    | cons b between =>
      obtain ⟨rfl, _⟩ := List.cons_eq_cons.1 hsecond
      exact absurd (hsplit ▸ List.mem_append_cons_self) hfront

/-- A request to a store with the answer to it. -/
structure Exchange where
  request : StoreRequest
  answer : request.Answer

/-- The exchanges of a script with a store, first one first. Messages are published on the side and
leave no trace here. -/
abbrev Transcript := List Exchange

namespace Pipeline

variable {α β σ : Type}

/-- A script ends with a value if it is given the answers of a transcript, and its requests are
those of the transcript. -/
def Ends : Pipeline α → Transcript → α → Prop
  | Script.done value, transcript, result => transcript = [] ∧ value = result
  | Script.ask (Effect.store request) next, transcript, result =>
    ∃ (answer : request.Answer) (rest : Transcript),
      transcript = ⟨request, answer⟩ :: rest ∧ Ends (next answer) rest result
  | Script.ask (Effect.log _) next, transcript, result => Ends (next ()) transcript result

@[simp]
theorem ends_pure_iff {value result : α} {transcript : Transcript} :
    Ends (pure value) transcript result ↔ transcript = [] ∧ value = result :=
  Iff.rfl

@[simp]
theorem ends_ask_iff {request : StoreRequest} {transcript : Transcript}
    {result : request.Answer} :
    Ends (ask request) transcript result ↔ transcript = [⟨request, result⟩] := by
  constructor
  · rintro ⟨answer, rest, rfl, rfl, rfl⟩
    rfl
  · rintro rfl
    exact ⟨result, [], rfl, rfl, rfl⟩

@[simp]
theorem ends_log_iff {line : LogLine} {transcript : Transcript} {result : Unit} :
    Ends (log line) transcript result ↔ transcript = [] :=
  and_iff_left rfl

/-- A script that goes on after another one asks the requests of the first, then those of the
second. -/
theorem ends_bind_iff {script : Pipeline α} {next : α → Pipeline β} {transcript : Transcript}
    {result : β} :
    Ends (script >>= next) transcript result ↔
      ∃ (first : Transcript) (value : α) (second : Transcript),
        transcript = first ++ second ∧ Ends script first value ∧ Ends (next value) second result := by
  induction script generalizing transcript with
  | done value =>
    constructor
    · intro hends
      exact ⟨[], value, transcript, rfl, ⟨rfl, rfl⟩, hends⟩
    · rintro ⟨_, _, second, rfl, ⟨rfl, rfl⟩, hends⟩
      exact hends
  | ask effect rest ih =>
    cases effect with
    | store request =>
      constructor
      · rintro ⟨answer, others, rfl, hends⟩
        obtain ⟨first, value, second, rfl, hfirst, hsecond⟩ := (ih answer).1 hends
        exact ⟨⟨request, answer⟩ :: first, value, second, rfl, ⟨answer, first, rfl, hfirst⟩, hsecond⟩
      · rintro ⟨_, value, second, rfl, ⟨answer, first, rfl, hfirst⟩, hsecond⟩
        exact ⟨answer, first ++ second, rfl, (ih answer).2 ⟨first, value, second, rfl, hfirst, hsecond⟩⟩
    | log line => exact ih ()

/-- The messages that a script publishes are not part of its transcript. -/
theorem ends_logAll_iff {lines : List LogLine} {transcript : Transcript} {result : Unit} :
    Ends (logAll lines) transcript result ↔ transcript = [] := by
  induction lines generalizing transcript with
  | nil => exact and_iff_left rfl
  | cons line rest ih => exact ih

/-- Performs a script over a store that keeps a state. Its messages are not kept. -/
def run (store : Store (StateM σ)) (script : Pipeline α) : StateM σ α :=
  Script.perform (answer store fun _ => pure ()) script

end Pipeline

namespace Store

variable {σ τ : Type}

/-- The answers to requests that are made one after the other. -/
def askAll (store : Store (StateM σ)) : List StoreRequest → StateM σ Transcript
  | [] => pure []
  | request :: rest => do
    let answer ← store request
    let others ← askAll store rest
    return ⟨request, answer⟩ :: others

/-- Two stores give the same answers in states that are related, and are in such states again
afterwards. -/
def AnswerAlike (first : Store (StateM σ)) (second : Store (StateM τ)) (related : σ → τ → Prop) :
    Prop :=
  ∀ (request : StoreRequest) (s : σ) (t : τ), related s t →
    (first request s).1 = (second request t).1 ∧ related (first request s).2 (second request t).2

end Store

namespace Transcript

variable {σ : Type}

/-- A store gives the answers of a transcript, one after the other, and its state changes from the
first given one to the second. -/
def Follows (store : Store (StateM σ)) : σ → Transcript → σ → Prop
  | before, [], after => after = before
  | before, exchange :: rest, after =>
    (store exchange.request before).1 = exchange.answer ∧
      Follows store (store exchange.request before).2 rest after

theorem follows_append_iff {store : Store (StateM σ)} {before after : σ}
    {first second : Transcript} :
    Follows store before (first ++ second) after ↔
      ∃ between, Follows store before first between ∧ Follows store between second after := by
  induction first generalizing before with
  | nil => simp [Follows]
  | cons exchange rest ih => simp [Follows, ih, and_assoc]

theorem follows_singleton_iff {store : Store (StateM σ)} {before after : σ} {request : StoreRequest}
    {answer : request.Answer} :
    Follows store before [⟨request, answer⟩] after ↔
      store request before = (answer, after) := by
  rw [Follows, Follows, Prod.ext_iff]
  exact and_congr_right fun _ => eq_comm

end Transcript

namespace Pipeline

variable {α β σ : Type}

/-- Performing a script over a store is a conversation: the script ends with its value by the
answers of some transcript, and the store gives these answers. -/
theorem run_eq_iff {store : Store (StateM σ)} {script : Pipeline α} {before after : σ}
    {result : α} :
    run store script before = (result, after) ↔
      ∃ transcript, Ends script transcript result ∧ Transcript.Follows store before transcript after := by
  induction script generalizing before with
  | done value =>
    constructor
    · intro hrun
      cases hrun
      exact ⟨[], ⟨rfl, rfl⟩, rfl⟩
    · rintro ⟨_, ⟨rfl, rfl⟩, hfollows⟩
      cases hfollows
      rfl
  | ask effect next ih =>
    cases effect with
    | store request =>
      constructor
      · intro hrun
        obtain ⟨transcript, hends, hfollows⟩ := (ih (store request before).1).1 hrun
        exact ⟨⟨request, (store request before).1⟩ :: transcript, ⟨_, _, rfl, hends⟩, rfl, hfollows⟩
      · rintro ⟨_, ⟨answer, transcript, rfl, hends⟩, hanswer, hfollows⟩
        have hsame : (store request before).1 = answer := hanswer
        subst hsame
        exact (ih (store request before).1).2 ⟨transcript, hends, hfollows⟩
    | log line => exact ih ()

/-- A store in a state leaves a script one conversation. -/
theorem Ends.eq_of_follows {store : Store (StateM σ)} {script : Pipeline α}
    {first second : Transcript} {value result : α} {before after last : σ}
    (hfirst : Ends script first value) (hfollows : Transcript.Follows store before first after)
    (hsecond : Ends script second result) (hothers : Transcript.Follows store before second last) :
    first = second := by
  induction script generalizing first second before with
  | done _ => rw [hfirst.1, hsecond.1]
  | ask effect next ih =>
    cases effect with
    | store request =>
      obtain ⟨answer, rest, rfl, hrest⟩ := hfirst
      obtain ⟨other, others, rfl, hends⟩ := hsecond
      obtain rfl : answer = other := hfollows.1.symm.trans hothers.1
      rw [ih answer hrest hfollows.2 hends hothers.2]
    | log line => exact ih () hfirst hfollows hsecond hothers

/-- A script that goes on after another one starts with its value, where it left the store. -/
theorem run_bind (store : Store (StateM σ)) (script : Pipeline α) (next : α → Pipeline β)
    (before : σ) :
    run store (script >>= next) before =
      run store (next (run store script before).1) (run store script before).2 := by
  induction script generalizing before with
  | done value => rfl
  | ask effect rest ih =>
    cases effect with
    | store request => exact ih (store request before).1 (store request before).2
    | log line => exact ih () before

theorem exists_transcript_run (store : Store (StateM σ)) (script : Pipeline α) (before : σ) :
    ∃ transcript, Ends script transcript (run store script before).1 ∧
      Transcript.Follows store before transcript (run store script before).2 :=
  run_eq_iff.1 rfl

end Pipeline

namespace Store.AnswerAlike

variable {α σ τ : Type} {first : Store (StateM σ)} {second : Store (StateM τ)}
  {related : σ → τ → Prop}

/-- A script cannot tell stores from one another that answer alike. -/
theorem run (halike : first.AnswerAlike second related) (script : Pipeline α) {s : σ} {t : τ}
    (hrelated : related s t) :
    (Pipeline.run first script s).1 = (Pipeline.run second script t).1 ∧
      related (Pipeline.run first script s).2 (Pipeline.run second script t).2 := by
  induction script generalizing s t with
  | done value => exact ⟨rfl, hrelated⟩
  | ask effect next ih =>
    cases effect with
    | store request =>
      obtain ⟨hanswer, hafter⟩ := halike request s t hrelated
      obtain ⟨hresult, hlast⟩ := ih (first request s).1 hafter
      have hsame : Pipeline.run second (next (first request s).1) =
          Pipeline.run second (next (second request t).1) := by rw [hanswer]
      rw [hsame] at hresult hlast
      exact ⟨hresult, hlast⟩
    | log line => exact ih () hrelated

theorem askAll (halike : first.AnswerAlike second related) (requests : List StoreRequest) {s : σ}
    {t : τ} (hrelated : related s t) :
    (first.askAll requests s).1 = (second.askAll requests t).1 ∧
      related (first.askAll requests s).2 (second.askAll requests t).2 := by
  induction requests generalizing s t with
  | nil => exact ⟨rfl, hrelated⟩
  | cons request requests ih =>
    obtain ⟨hanswer, hafter⟩ := halike request s t hrelated
    obtain ⟨hothers, hlast⟩ := ih hafter
    have hexchange : (⟨request, (first request s).1⟩ : Exchange) = ⟨request, (second request t).1⟩ :=
      congrArg (Exchange.mk request) hanswer
    exact ⟨List.cons_eq_cons.2 ⟨hexchange, hothers⟩, hlast⟩

end Store.AnswerAlike

end AddressIntake

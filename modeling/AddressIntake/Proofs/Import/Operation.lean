import AddressIntake.Import.Commit
import AddressIntake.Proofs.Transcript

namespace AddressIntake

/-- Something to be done with a store. -/
inductive Operation where
  /-- To write rows. -/
  | commit (project : String) (kind : AddressKind) (rows : List Row) (options : CommitOptions)
  /-- To check rows. -/
  | preview (project : String) (kind : AddressKind) (rows : List Row)
  /-- To save a policy. -/
  | savePolicy (policy : Policy)
  /-- To list the addresses of one kind in one project. -/
  | list (project : String) (kind : AddressKind)
  /-- To get the address with an identity. -/
  | find (id : RecordId)
  /-- To get the flags of the policy of a project and kind. -/
  | flags (project : String) (kind : AddressKind)
  /-- To get the names of the ship-to addresses of a project. -/
  | lookup (project : String)

namespace Operation

/-- The type of the result of an operation. -/
def Result : Operation → Type
  | commit .. => Except ImportError ImportResult
  | preview .. => Except ImportError ValidationResult
  | savePolicy _ => Except StoreError Unit
  | list .. => Except StoreError (List Address)
  | find _ => Except StoreError (Option Address)
  | flags .. => Except StoreError PolicyFlags
  | lookup _ => ShipToLookup

/-- What an operation asks of the store. -/
def script : (operation : Operation) → Pipeline operation.Result
  | commit project kind rows options => commitRows project kind rows options
  | preview project kind rows => previewRows project kind rows
  | savePolicy policy => Pipeline.ask (.savePolicy policy)
  | list project kind => Pipeline.ask (.select project kind)
  | find id => Pipeline.ask (.find id)
  | flags project kind => requiredFlags project kind
  | lookup project => shipToLookup project

/-- Operations one after the other, each with its result. -/
def runAll {σ : Type} (store : Store (StateM σ)) :
    List Operation → StateM σ (List ((operation : Operation) × operation.Result))
  | [] => pure []
  | operation :: rest => do
    let result ← Pipeline.run store operation.script
    let others ← runAll store rest
    return ⟨operation, result⟩ :: others

/-- Operations cannot tell stores from one another that answer alike. -/
theorem runAll_of_answerAlike {σ τ : Type} {first : Store (StateM σ)} {second : Store (StateM τ)}
    {related : σ → τ → Prop} (halike : first.AnswerAlike second related)
    (operations : List Operation) {s : σ} {t : τ} (hrelated : related s t) :
    (runAll first operations s).1 = (runAll second operations t).1 ∧
      related (runAll first operations s).2 (runAll second operations t).2 := by
  induction operations generalizing s t with
  | nil => exact ⟨rfl, hrelated⟩
  | cons operation operations ih =>
    obtain ⟨hresult, hafter⟩ := halike.run operation.script hrelated
    obtain ⟨hothers, hlast⟩ := ih hafter
    have hown := congrArg (Sigma.mk (β := Result) operation) hresult
    exact ⟨List.cons_eq_cons.2 ⟨hown, hothers⟩, hlast⟩

end Operation

end AddressIntake

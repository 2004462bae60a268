import AddressIntake.Http.Service
import AddressIntake.Proofs.Except
import AddressIntake.Proofs.Transcript

namespace AddressIntake

/-- The tag of a kind names it. -/
theorem AddressKind.parse_tag (kind : AddressKind) : AddressKind.parse kind.tag = .ok kind := by
  cases kind <;> rfl

namespace Http

open Pipeline

variable {σ : Type} {store : Store (StateM σ)} {before after : σ}

namespace Handler

variable {α β ε : Type}

/-- A handler that goes on after another one starts with its outcome, where it left the store. -/
theorem run_bind (script : Handler α) (next : α → Handler β) :
    run store (script >>= next).run before =
      run store (ExceptT.bindCont next (run store script.run before).1)
        (run store script.run before).2 := by
  have hsplit : (script >>= next).run =
      (script.run : Pipeline (Except Failure α)) >>= ExceptT.bindCont next := rfl
  rw [hsplit, Pipeline.run_bind]

/-- A handler that goes on after another one succeeds if both do. -/
theorem run_bind_eq_ok_iff {script : Handler α} {next : α → Handler β} {result : β} :
    run store (script >>= next).run before = (.ok result, after) ↔
      ∃ (value : α) (between : σ), run store script.run before = (.ok value, between) ∧
        run store (next value).run between = (.ok result, after) := by
  rw [run_bind]
  rcases run store script.run before with ⟨outcome, between⟩
  cases outcome with
  | ok value =>
    constructor
    · exact fun hrun => ⟨value, between, rfl, hrun⟩
    · rintro ⟨_, _, hsame, hrun⟩
      cases hsame
      exact hrun
  | error failure =>
    constructor
    · intro hrun
      cases hrun
    · rintro ⟨_, _, hsame, _⟩
      cases hsame

theorem run_pure_eq_ok_iff {value result : α} :
    run store (pure value : Handler α).run before = (.ok result, after) ↔
      result = value ∧ after = before := by
  constructor
  · intro hrun
    cases hrun
    exact ⟨rfl, rfl⟩
  · rintro ⟨rfl, rfl⟩
    rfl

/-- Messages leave the store as it is. -/
theorem run_log_eq_ok_iff {line : LogLine} {value : Unit} :
    run store (liftM (log line) : Handler Unit).run before = (.ok value, after) ↔
      after = before := by
  have hrun : run store (liftM (log line) : Handler Unit).run before =
      run store (pure () : Handler Unit).run before := rfl
  rw [hrun, run_pure_eq_ok_iff, and_iff_right rfl]

variable {failure : ε → Failure}

theorem run_ofExcept_eq_ok_iff {outcome : Except ε α} {value : α} :
    run store (ofExcept failure outcome).run before = (.ok value, after) ↔
      outcome = .ok value ∧ after = before := by
  have hrun : run store (ofExcept failure outcome).run before =
      (outcome.mapError failure, before) := by
    cases outcome <;> rfl
  rw [hrun, Prod.mk.injEq, mapError_eq_ok_iff, @eq_comm _ before]

theorem run_ofPipeline_eq_ok_iff {script : Pipeline (Except ε α)} {value : α} :
    run store (ofPipeline failure script).run before = (.ok value, after) ↔
      run store script before = (.ok value, after) := by
  have hrun : run store (ofPipeline failure script).run before =
      ((run store script before).1.mapError failure, (run store script before).2) := by
    rw [ofPipeline, ExceptT.run_mk, Pipeline.run_bind]
    cases (run store script before).1 <;> rfl
  rw [hrun, Prod.mk.injEq, mapError_eq_ok_iff, Prod.ext_iff]

/-- A handler goes on with the result of the script of an import. -/
theorem run_ofPipeline {script : Pipeline (Except ε α)} {value : α}
    (hscript : run store script before = (.ok value, after)) (next : α → Handler β) :
    run store (ofPipeline failure script >>= next).run before =
      run store (next value).run after := by
  rw [run_bind, run_ofPipeline_eq_ok_iff.2 hscript]
  rfl

end Handler

namespace Service

/-- The response with the template for given flags. -/
def templateResponse (kind : AddressKind) (flags : PolicyFlags) : Except Failure Response :=
  match (Sheet.template kind flags).render with
  | .ok text =>
    .ok (.download Sheet.contentType (s!"{kind.tag}_template" ++ "." ++ Sheet.fileExtension) text)
  | .error e => .error (.intake (.render e))

/-- A template is made for the flags that the store gives for the project and kind. -/
theorem run_template {project : String} {kind : AddressKind} {flags : PolicyFlags}
    (hflags : run store (requiredFlags project kind) before = (.ok flags, after)) :
    run store (template project kind.tag).run before = (templateResponse kind flags, after) := by
  have hkind : Handler.kindOf kind.tag = pure kind := by
    rw [Handler.kindOf, AddressKind.parse_tag, Handler.ofExcept]
  have hstart : (template project kind.tag).run =
      (Handler.ofPipeline .ofStore (requiredFlags project kind) >>= fun flags =>
        Handler.download (.template kind flags) s!"{kind.tag}_template").run := by
    rw [template, hkind]
    rfl
  rw [hstart, Handler.run_ofPipeline hflags, Handler.download, templateResponse]
  cases (Sheet.template kind flags).render <;> rfl

end Service

end Http

end AddressIntake

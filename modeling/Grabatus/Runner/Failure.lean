import Grabatus.Runner.Runs
import Grabatus.Runner.Transcript

/-!
# What a run can raise

Over `runner/steps.py` and `runner/runner.py`. When the ports raise service errors only
(`PortsRaiseService`), every stretch of a run up to the readout gate does too: the URIs of a
contract split, the identity blocks of a contract are valid, and the dictionaries the stretch
reads hold every role it asks for. `publish` reads the backend's result by the contract's roles,
so it does exactly when the result has them (`Covers`).
-/

namespace Grabatus

open Grabatus.Lib Grabatus.Python

variable [UnicodeData] {σ P : Type}

omit [UnicodeData] in
/-- The operation returns, or raises a service error. -/
def RaisesService {α : Type} (op : PyOp σ α) : Prop :=
  ∀ s e, (op s).1 = .error e → e.isServiceError = true

omit [UnicodeData] in
/-- An operation that always returns raises nothing. -/
theorem RaisesService.of_ok {α : Type} {op : PyOp σ α} {f : σ → α}
    (h : ∀ s, (op s).1 = .ok (f s)) : RaisesService op := fun s _ he =>
  absurd ((h s).symm.trans he) nofun

omit [UnicodeData] in
/-- Every port of a runner returns, or raises a service error. -/
structure ServiceRunner.PortsRaiseService (r : ServiceRunner σ P) : Prop where
  decode : ∀ raw, RaisesService (r.message.decode raw)
  authorize : ∀ uri identity, RaisesService (r.authorizer.authorize uri identity)
  resolve : ∀ ref, RaisesService (r.secrets.resolve ref)
  read : ∀ spec credentials, RaisesService (r.storage.read spec credentials)
  write : ∀ spec payload credentials, RaisesService (r.storage.write spec payload credentials)
  now : RaisesService r.clock.now
  run : ∀ inputs parameters context, RaisesService (r.compute.run inputs parameters context)
  notify : ∀ callback payload, RaisesService (r.webhook.notify callback payload)
  dispatch : ∀ job payload rid, RaisesService (r.jobDispatcher.dispatch job payload rid)
  enter : ∀ name attrs, RaisesService (r.observability.enter name attrs)
  exit : ∀ name, RaisesService (r.observability.exit name)
  metric : ∀ name value tags, RaisesService (r.observability.metric name value tags)

/-- A step that returns, or raises a service error. -/
abbrev Contained {α : Type} (m : Step σ P α) : Prop :=
  Traced.FailsWith (fun e => e.isServiceError = true) m

variable [Pydantic]

theorem validate_error {payload : JsonObject} {contractType : ContractType P} {e : PyException}
    (h : Steps.validate payload contractType = .error e) : e.isServiceError = true := by
  unfold Steps.validate at h
  split at h
  · exact Except.error.inj h ▸ rfl
  · split at h
    · exact absurd h nofun
    · exact Except.error.inj h ▸ rfl

omit [Pydantic] in
theorem checkRoleCompatibility_error {r : ServiceRunner σ P} {contract : BaseServiceContract P}
    {e : PyException} (h : r.checkRoleCompatibility contract = .error e) :
    ∃ message, e = serviceError .invalidContractError message := by
  unfold ServiceRunner.checkRoleCompatibility at h
  dsimp only at h
  split at h
  · exact ⟨_, (Except.error.inj h).symm⟩
  · split at h
    · exact ⟨_, (Except.error.inj h).symm⟩
    · split at h
      · exact ⟨_, (Except.error.inj h).symm⟩
      · exact absurd h nofun

end Grabatus

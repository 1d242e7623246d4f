import Grabatus.Lib.InStep
import Grabatus.Runner.Runs

/-!
# Two runs of one runner

Over `runner/runner.py`. A run writes its mode into the tags of its span and of its error metric,
and reads its message through its message port; everything else it does is the same in every mode
that serves. So two runs whose `try` blocks are in step are in step (`execute_inStep`), as soon as
no port answers otherwise for the tags it was given (`TagsUnread`).
-/

namespace Grabatus

open Grabatus.Lib Grabatus.Lib.Traced Grabatus.Python

variable {σ P : Type}

/-! ## What is compared -/

/-- The calls the platform can see, with their arguments and replies. -/
def Event.visible? (e : Event P) : Option (Event P) := e.effect?.map fun _ => e

/-- Two exceptions of one class; their texts may differ. -/
inductive SameKind : PyException → PyException → Prop
  | service {e e' : GrabatusServiceError} (h : e.kind = e'.kind) :
    SameKind (.service e) (.service e')
  | raised (cls : ExceptionClass) (message message' : String) :
    SameKind (.raised cls message) (.raised cls message')

theorem SameKind.refl : ∀ e : PyException, SameKind e e
  | .service _ => .service rfl
  | .raised cls message => .raised cls message message

/-- Two failures of one kind, whatever is known of the request. -/
def SameFailure (failure failure' : Failure) : Prop := SameKind failure.exception failure'.exception

variable [UnicodeData]

/-- What is compared of a result: its status, its receipts and the kind of its error. -/
def ExecutionResult.seen (res : ExecutionResult P) :
    Status × Option WriteReceipts × Option ErrorKind :=
  (res.status, res.receipts, res.error.map GrabatusServiceError.kind)

/-- Two results that are seen alike. -/
def SeenAlike (res res' : ExecutionResult P) : Prop := res.seen = res'.seen

/-- No port tells two worlds apart that are the `same`, and the tags the observability port is
given play no part in that. -/
structure ServiceRunner.TagsUnread (r : ServiceRunner σ P) (same : σ → σ → Prop) : Prop where
  authorize : ∀ uri identity,
    Respects same (r.authorizer.authorize uri identity) (r.authorizer.authorize uri identity)
  resolve : ∀ ref, Respects same (r.secrets.resolve ref) (r.secrets.resolve ref)
  read : ∀ spec c, Respects same (r.storage.read spec c) (r.storage.read spec c)
  write : ∀ spec b c, Respects same (r.storage.write spec b c) (r.storage.write spec b c)
  now : Respects same r.clock.now r.clock.now
  run : ∀ inputs p context,
    Respects same (r.compute.run inputs p context) (r.compute.run inputs p context)
  notify : ∀ callback payload,
    Respects same (r.webhook.notify callback payload) (r.webhook.notify callback payload)
  enter : ∀ span tags tags',
    Respects same (r.observability.enter span tags) (r.observability.enter span tags')
  exit : ∀ span, Respects same (r.observability.exit span) (r.observability.exit span)
  metric : ∀ name value tags tags',
    Respects same (r.observability.metric name value tags) (r.observability.metric name value tags')

namespace ServiceRunner

/-- The runner in another mode, behind another message port. -/
def deployed (r : ServiceRunner σ P) (mode : RuntimeMode) (message : MessagePort σ) :
    ServiceRunner σ P :=
  { r with mode, message }

variable {r : ServiceRunner σ P} {same : σ → σ → Prop}

/-! ## The stretches -/

theorem check_inStep (h : r.TagsUnread same) (contract : BaseServiceContract P) :
    InStep same Event.visible? Eq Eq (r.check contract) (r.check contract) := by
  unfold check
  rw [Steps.authorize_eq_each]
  refine (InStep.lift (Alike.refl _)).seq fun _ => InStep.each (fun uri => ?_) _
  exact (InStep.lift (Alike.refl _)).seq fun _ => InStep.call (h.authorize uri _) fun _ => rfl

theorem resolveCredentials_inStep (h : r.TagsUnread same) (contract : BaseServiceContract P) :
    InStep same Event.visible? Eq Eq
      (Steps.resolveCredentials contract r.secrets : Step σ P CredentialBundle)
      (Steps.resolveCredentials contract r.secrets) := by
  have hresolve : ∀ ref, InStep same Event.visible? Eq Eq
      (Steps.resolveRef r.secrets ref : Step σ P Credentials) (Steps.resolveRef r.secrets ref)
    | none => InStep.pure rfl
    | some ref => InStep.call (h.resolve ref) fun _ => rfl
  exact (InStep.collect (fun _ => hresolve _) _).seq fun _ =>
    (InStep.collect (fun _ => hresolve _) _).seq fun _ => InStep.pure rfl

theorem prepare_inStep (h : r.TagsUnread same) (contract : BaseServiceContract P) :
    InStep same Event.visible? Eq Eq (r.prepare contract) (r.prepare contract) := by
  refine (resolveCredentials_inStep h contract).seq fun credentials => ?_
  have hload : ∀ spec, InStep same Event.visible? Eq Eq
      (Steps.loadInput credentials r.storage spec : Step σ P Bytes)
      (Steps.loadInput credentials r.storage spec) := fun spec =>
    (InStep.lift (Alike.refl _)).seq fun _ => InStep.call (h.read spec _) fun _ => rfl
  refine InStep.seq ((InStep.collect hload _).seq fun _ => InStep.pure rfl) fun _ => ?_
  exact ((InStep.call h.now fun _ => rfl).seq fun _ => InStep.pure rfl).seq fun _ =>
    InStep.pure rfl

theorem publish_inStep (h : r.TagsUnread same) (contract : BaseServiceContract P)
    (produced : Produced) :
    InStep same Event.visible? Eq Eq (r.publish contract produced)
      (r.publish contract produced) := by
  have hsave : ∀ spec, InStep same Event.visible? Eq Eq
      (Steps.saveOutput produced.credentials produced.result r.storage spec : Step σ P WriteReceipt)
      (Steps.saveOutput produced.credentials produced.result r.storage spec) := fun spec =>
    (InStep.lift (Alike.refl _)).seq fun _ => (InStep.lift (Alike.refl _)).seq fun _ =>
      InStep.call (h.write spec _ _) fun _ => rfl
  refine InStep.seq ((InStep.collect hsave _).seq fun _ => InStep.pure rfl) fun _ => ?_
  exact (InStep.call (h.notify _ _) fun _ => rfl).seq fun _ => InStep.pure rfl

variable [Pydantic]

theorem produce_inStep (h : r.TagsUnread same) (contract : BaseServiceContract P) :
    InStep same Event.visible? Eq Eq (r.produce contract) (r.produce contract) :=
  (prepare_inStep h contract).seq fun _ => (InStep.call (h.run _ _ _) fun _ => rfl).seq fun _ =>
    (InStep.lift (Alike.refl _)).seq fun _ => InStep.pure rfl

/-- **Serving one contract twice.** -/
theorem serve_inStep (h : r.TagsUnread same) (contract : BaseServiceContract P) :
    InStep same Event.visible? Eq Eq (r.serve contract) (r.serve contract) :=
  (check_inStep h contract).seq fun _ => (produce_inStep h contract).seq fun _ =>
    publish_inStep h contract _

/-! ## The clause and the span -/

variable {mode mode' : RuntimeMode} {message message' : MessagePort σ}

omit [Pydantic] in
/-- The clause, on failures of one kind. -/
theorem exceptServiceError_inStep (h : r.TagsUnread same) {failure failure' : Failure}
    (hkind : SameFailure failure failure') :
    InStep same Event.visible? SameKind SeenAlike
      ((r.deployed mode message).exceptServiceError failure)
      ((r.deployed mode' message').exceptServiceError failure') := by
  rcases failure with ⟨rid, exception⟩
  rcases failure' with ⟨rid', exception'⟩
  change SameKind exception exception' at hkind
  cases hkind with
  | service hkind =>
    refine InStep.seq ((InStep.call (h.metric _ _ _ _) fun _ => by rfl).mono ?_ fun _ _ => id)
      fun _ => InStep.pure ?_
    · rintro e _ rfl
      exact SameKind.refl e
    · show (Status.error, none, some _) = (Status.error, none, some _)
      rw [hkind]
  | raised cls text text' => exact InStep.raise (.raised cls text text')

variable [JsonText]

/-- **Two runs in modes that serve are in step** as soon as their `try` blocks are. -/
theorem execute_inStep (h : r.TagsUnread same) (hmode : mode ≠ .receiver)
    (hmode' : mode' ≠ .receiver) {raw raw' : RawMessage}
    (hblock : InStep same Event.visible? SameFailure SeenAlike
      ((r.deployed mode message).tryBlock raw (r.deployed mode message).serve)
      ((r.deployed mode' message').tryBlock raw' (r.deployed mode' message').serve)) :
    InStep same Event.visible? SameKind SeenAlike ((r.deployed mode message).execute raw)
      ((r.deployed mode' message').execute raw') := by
  have hkind : ∀ e e' : PyException, e = e' → SameKind e e' := by
    rintro e _ rfl
    exact SameKind.refl e
  refine InStep.within ((InStep.call (h.enter _ _ _) fun _ => by rfl).mono hkind fun _ _ => id)
    ((InStep.call (h.exit _) fun _ => rfl).mono hkind fun _ _ => id) ?_
  have hbranch : ∀ {mode message} (raw : RawMessage), mode ≠ .receiver →
      (r.deployed mode message).branch raw = handle ((r.deployed mode message).tryBlock raw
        (r.deployed mode message).serve) (r.deployed mode message).exceptServiceError :=
    fun _ hmode => if_neg hmode
  rw [hbranch raw hmode, hbranch raw' hmode']
  exact hblock.handle fun _ _ => exceptServiceError_inStep h

end ServiceRunner

end Grabatus

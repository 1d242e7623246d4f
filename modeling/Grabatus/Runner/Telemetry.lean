import Grabatus.Adapters.ObservabilityOtel
import Grabatus.Lib.Unwinding
import Grabatus.Receiver.Confined

/-!
# The telemetry of a process

Over `adapters/observability_otel.py`, `runner/runner.py` and `receiver/runner.py`. Both runners
run a `try` block under `except GrabatusServiceError` inside a span, and report a service error by
a metric (`Spanned`). Under `OpenTelemetryObservability` **what a process tells the SDK is read
off the results of its runs** (`spanned_tells`): a span per message, and in it one measurement
exactly when the result carries an error. No failed run is missed or counted twice; an exception
that is no service error is not counted. The instrument of the errors is created by the first
failing run, and once in the life of the process.

Results, one for each runner, over any messages in any order:

* `ServiceRunner.telemetry_of_results`
* `SharedReceiverRunner.telemetry_of_results`
-/

namespace Grabatus

open Grabatus.Lib Grabatus.Lib.Traced Grabatus.Python

/-- A process: the result of a run, and the world after it. -/
def process {σ P α : Type} (run : RawMessage → Step σ P α) :
    Machine σ RawMessage (Except PyException α) :=
  fun raw s => ((run raw s).result, (run raw s).world)

/-! ## A block in a span -/

/-- What a runner puts around its `try` block. -/
structure Spanned (α : Type) where
  span : String
  attrs : List (String × String)
  errors : String
  tags : GrabatusServiceError → List (String × String)
  failed : Option UUID → GrabatusServiceError → α
  error? : α → Option GrabatusServiceError

namespace Spanned

variable {σ P α ω I : Type}

/-- `except GrabatusServiceError as exc`. -/
def clause (w : Spanned α) (observability : ObservabilityPort σ) (failure : Failure) :
    Step σ P α :=
  match failure.exception with
  | .service error => do
    call (observability.metric w.errors (.finite 1) (w.tags error))
      (.metric w.errors (.finite 1) (w.tags error))
    return w.failed failure.requestId error
  | .raised cls message => raise (.raised cls message)

/-- The block in its span. -/
def run (w : Spanned α) (observability : ObservabilityPort σ)
    (block : Traced (Event P) σ Failure α) : Step σ P α :=
  within (call (observability.enter w.span w.attrs) (.enter w.span w.attrs))
    (call (observability.exit w.span) (.exit w.span))
    (handle block (w.clause observability))

/-- The error a result carries. -/
def failure? (w : Spanned α) : Except PyException α → Option GrabatusServiceError
  | .ok a => w.error? a
  | .error _ => none

/-- What a run reports. -/
def reports (w : Spanned α) (result : Except PyException α) : List Signal :=
  .started w.span w.attrs :: ((w.failure? result).toList.map fun error =>
    .measured (kindOf w.errors) w.errors (.finite 1) (w.tags error)) ++ [.ended w.span]

/-- What a run leaves of what was told before it. -/
def tells (w : Spanned α) (result : Except PyException α) (told : List Signal) : List Signal :=
  (w.failure? result).elim (told ++ [.started w.span w.attrs])
    (fun error => withMeasurement w.errors (.finite 1) (w.tags error)
      (told ++ [.started w.span w.attrs])) ++ [.ended w.span]

/-- A run adds what it reports, and creations. -/
theorem filter_tells (w : Spanned α) (result : Except PyException α) (told : List Signal) :
    (w.tells result told).filter Signal.isReport =
      told.filter Signal.isReport ++ w.reports result := by
  unfold tells reports
  rcases w.failure? result with - | error
  · simp [Signal.isReport]
  · rw [Option.elim_some, List.filter_append, filter_withMeasurement, List.filter_append,
      List.append_assoc, List.append_assoc]
    rfl

theorem wellFormed_tells (w : Spanned α) (result : Except PyException α) {told : List Signal}
    (h : WellFormed told) : WellFormed (w.tells result told) := by
  have hentered : WellFormed (told ++ [.started w.span w.attrs]) := h.snoc rfl nofun
  unfold tells
  rcases w.failure? result with - | error
  · exact hentered.snoc rfl nofun
  · exact (hentered.withMeasurement _ _ _).snoc rfl nofun

/-- A block that leaves the adapter and the SDK alone, and returns no error. -/
structure Quiet (w : Spanned α) (told : ω → List Signal)
    (block : Traced (Event P) (Instrumented ω I) Failure α) : Prop where
  keeps : ∀ s, (block s).world.view told = s.view told
  returned : ∀ s a, (block s).result = .ok a → w.error? a = none

variable {o : OpenTelemetryObservability ω I} {names : I → InstrumentKind × String}
  {told : ω → List Signal} {s : Instrumented ω I}

/-- **What a run tells the SDK is read off its result.** -/
theorem run_tells {w : Spanned α}
    (hfailed : ∀ rid error, w.error? (w.failed rid error) = some error)
    (ho : o.Takes names told) {block : Traced (Event P) (Instrumented ω I) Failure α}
    (hblock : w.Quiet told block) (hs : s.Synced names told) :
    (w.run o.port block s).world.Synced names told ∧
      told (w.run o.port block s).world.sdk =
        w.tells (w.run o.port block s).result (told s.sdk) := by
  obtain ⟨s₁, henter, hs₁, htold₁⟩ := OpenTelemetryObservability.enter_refines ho hs w.span w.attrs
  have hin : call (o.port.enter w.span w.attrs) (Event.enter (P := P) w.span w.attrs) s =
      ⟨.ok (), s₁, [Event.enter w.span w.attrs (.ok ())]⟩ := by simp [call, henter]
  -- what the block leaves is left from here on by the clause, then by the exit
  have hclose : ∀ {result : Except PyException α} {s₂ : Instrumented ω I} {t : List (Event P)},
      handle block (w.clause o.port) s₁ = ⟨result, s₂, t⟩ → s₂.Synced names told →
        told s₂.sdk ++ [.ended w.span] = w.tells result (told s.sdk) →
          (w.run o.port block s).world.Synced names told ∧
            told (w.run o.port block s).world.sdk =
              w.tells (w.run o.port block s).result (told s.sdk) := by
    intro result s₂ t hhandled hs₂ htold₂
    obtain ⟨s₃, hexit, hs₃, htold₃⟩ := OpenTelemetryObservability.exit_refines ho hs₂ w.span
    have hout : call (o.port.exit w.span) (Event.exit (P := P) w.span)
        (handle block (w.clause o.port) s₁).world = ⟨.ok (), s₃, [Event.exit w.span (.ok ())]⟩ := by
      simp [call, hhandled, hexit]
    rw [show w.run o.port block s = _ from run_within_ok hin hout, hhandled]
    exact ⟨hs₃, htold₃.trans htold₂⟩
  have hkeep := hblock.keeps s₁
  rcases hrun : block s₁ with ⟨⟨rid, error | ⟨cls, message⟩⟩ | a, s₂, t⟩
  · rw [hrun] at hkeep
    have hs₂ := Instrumented.Synced.of_view hkeep hs₁
    obtain ⟨s₃, hmetric, hs₃, htold₃⟩ :=
      OpenTelemetryObservability.metric_refines ho hs₂ w.errors (.finite 1) (w.tags error)
    have hreport : w.clause (P := P) o.port ⟨rid, .service error⟩ s₂ =
        ⟨.ok (w.failed rid error), s₃, _⟩ := run_bind_ok _ (show call _ _ s₂ =
          ⟨.ok (), s₃, [.metric w.errors (.finite 1) (w.tags error) (.ok ())]⟩ by
            simp [call, hmetric])
    refine hclose (run_handle_error hrun) (by rw [hreport]; exact hs₃) ?_
    rw [hreport, htold₃, Instrumented.told_of_view hkeep, htold₁]
    simp [tells, failure?, hfailed]
  · rw [hrun] at hkeep
    refine hclose (run_handle_error hrun) (Instrumented.Synced.of_view hkeep hs₁) ?_
    show told s₂.sdk ++ _ = _
    rw [Instrumented.told_of_view hkeep, htold₁]
    rfl
  · rw [hrun] at hkeep
    refine hclose (run_handle_ok hrun) (Instrumented.Synced.of_view hkeep hs₁) ?_
    rw [Instrumented.told_of_view hkeep, htold₁]
    simp [tells, failure?, hblock.returned s₁ a (by rw [hrun])]

/-- **What a process tells the SDK is read off the results of its runs.** -/
theorem spanned_tells {w : Spanned α}
    (hfailed : ∀ rid error, w.error? (w.failed rid error) = some error)
    (ho : o.Takes names told) {run : RawMessage → Step (Instrumented ω I) P α}
    {block : RawMessage → Traced (Event P) (Instrumented ω I) Failure α}
    (hrun : ∀ raw, run raw = w.run o.port (block raw)) (hblock : ∀ raw, w.Quiet told (block raw))
    (raws : List RawMessage) (hs : s.Synced names told) (hwell : WellFormed (told s.sdk)) :
    (told ((process run).after raws s).sdk).filter Signal.isReport =
        (told s.sdk).filter Signal.isReport ++
          ((process run).log raws s).flatMap (fun answer => w.reports answer.2) ∧
      WellFormed (told ((process run).after raws s).sdk) := by
  induction raws generalizing s with
  | nil => exact ⟨(List.append_nil _).symm, hwell⟩
  | cons raw raws ih =>
    obtain ⟨hsynced, htold⟩ := run_tells hfailed ho (hblock raw) hs
    rw [← hrun raw] at hsynced htold
    have hwell' : WellFormed (told (run raw s).world.sdk) := htold ▸ w.wellFormed_tells _ hwell
    obtain ⟨hreports, hrest⟩ := ih hsynced hwell'
    refine ⟨?_, hrest⟩
    show (told ((process run).after raws (run raw s).world).sdk).filter _ = _
    rw [hreports, htold, filter_tells, List.append_assoc]
    rfl

end Spanned

section

variable [UnicodeData] {σ P ω I : Type}

/-! ## `ServiceRunner` -/

namespace ServiceRunner

/-- What the runner puts around its block. -/
def spanned (r : ServiceRunner σ P) : Spanned (ExecutionResult P) where
  span := "service_runner.execute"
  attrs := [("mode", r.mode.value)]
  errors := "service_runner.errors"
  tags := r.errorTags
  failed := errorResult
  error? := ExecutionResult.error

/-- The adapter is the runner's observability, and no other port touches its caches or tells the
SDK anything. -/
structure Telemetered (r : ServiceRunner (Instrumented ω I) P) (o : OpenTelemetryObservability ω I)
    (told : ω → List Signal) : Prop where
  observability : r.observability = o.port
  block : r.BlockKeeps (Instrumented.view told)
  read : ∀ spec c, Op.Keeps (Instrumented.view told) (r.storage.read spec c)
  write : ∀ spec payload c, Op.Keeps (Instrumented.view told) (r.storage.write spec payload c)

variable [Pydantic] [JsonText]

theorem execute_eq_spanned (r : ServiceRunner σ P) (raw : RawMessage) :
    r.execute raw = r.spanned.run r.observability (r.tryBlock raw r.rest) := by
  unfold execute
  rw [branch_eq_handle]
  rfl

/-- What a block returns carries no error. -/
theorem rest_returned {r : ServiceRunner σ P} {contract : BaseServiceContract P} {s : σ}
    {res : ExecutionResult P} (h : (r.rest contract s).result = .ok res) : res.error = none := by
  unfold rest at h
  split at h
  · obtain ⟨⟨⟩, s₁, t, -, hdispatch, -⟩ := Traced.bind_ok h
    obtain ⟨job, s₂, t₂, -, hdump, -⟩ := Traced.bind_ok hdispatch
    obtain ⟨payload, s₃, t₃, -, hcall, -⟩ := Traced.bind_ok hdump
    obtain ⟨dispatched, s₄, t₄, -, hreturn, -⟩ := Traced.bind_ok hcall
    exact Except.ok.inj hreturn ▸ rfl
  · obtain ⟨s₁, t₁, produced, s₂, t₂, -, -, hpublish, -⟩ := serve_ok h
    obtain ⟨receipts, s₃, t₃, -, hnotify, -⟩ := Traced.bind_ok hpublish
    obtain ⟨ack, s₄, t₄, -, hreturn, -⟩ := Traced.bind_ok hnotify
    exact Except.ok.inj hreturn ▸ rfl

theorem Telemetered.quiet {r : ServiceRunner (Instrumented ω I) P}
    {o : OpenTelemetryObservability ω I} {told : ω → List Signal} (h : r.Telemetered o told)
    (raw : RawMessage) : r.spanned.Quiet told (r.tryBlock raw r.rest) where
  keeps := tryBlock_keeps h.block fun _ _ _ _ =>
    ⟨fun spec _ c => h.read spec c, fun spec _ payload c => h.write spec payload c⟩
  returned s res hres := by
    obtain ⟨contract, s₁, t, -, hrest, -⟩ := Traced.bind_ok hres
    exact rest_returned (Traced.ok_of_mapError hrest)

/-- **What a service tells the SDK is read off the results of its runs**, over any messages: a span
each, and in it one measurement where the result carries an error; and every instrument is created
once, before it measures. -/
theorem telemetry_of_results {r : ServiceRunner (Instrumented ω I) P}
    {o : OpenTelemetryObservability ω I} {names : I → InstrumentKind × String}
    {told : ω → List Signal} (ho : o.Takes names told) (h : r.Telemetered o told)
    (raws : List RawMessage) {s : Instrumented ω I} (hs : s.Synced names told)
    (hwell : WellFormed (told s.sdk)) :
    (told ((process r.execute).after raws s).sdk).filter Signal.isReport =
        (told s.sdk).filter Signal.isReport ++
          ((process r.execute).log raws s).flatMap (fun answer => r.spanned.reports answer.2) ∧
      WellFormed (told ((process r.execute).after raws s).sdk) :=
  Spanned.spanned_tells (fun _ _ => rfl) ho
    (fun raw => h.observability ▸ r.execute_eq_spanned raw) h.quiet raws hs hwell

end ServiceRunner

/-! ## `SharedReceiverRunner` -/

namespace SharedReceiverRunner

/-- What the runner puts around its block. -/
def spanned : Spanned ReceiverExecutionResult where
  span := "shared_receiver.execute"
  attrs := []
  errors := "shared_receiver.errors"
  tags error := [("error_code", error.errorCode)]
  failed := errorResult
  error? := ReceiverExecutionResult.error

/-- The adapter is the runner's observability, and no other port touches its caches or tells the
SDK anything. -/
structure Telemetered (r : SharedReceiverRunner (Instrumented ω I))
    (o : OpenTelemetryObservability ω I) (told : ω → List Signal) : Prop where
  observability : r.observability = o.port
  decode : ∀ raw, Op.Keeps (Instrumented.view told) (r.message.decode raw)
  authorize : ∀ uri identity,
    Op.Keeps (Instrumented.view told) (r.authorizer.authorize uri identity)
  dispatch : ∀ job payload requestId,
    Op.Keeps (Instrumented.view told) (r.jobDispatcher.dispatch job payload requestId)

variable [Pydantic] [JsonText]

/-- What a block returns carries no error. -/
theorem route_returned {r : SharedReceiverRunner σ} {contract : OpaqueServiceContract} {s : σ}
    {res : ReceiverExecutionResult} (h : (r.route contract s).result = .ok res) :
    res.error = none := by
  obtain ⟨⟨⟩, s₁, t₁, -, hrest, -⟩ := Traced.bind_ok h
  obtain ⟨job, s₂, t₂, -, hdump, -⟩ := Traced.bind_ok hrest
  obtain ⟨payload, s₃, t₃, -, hcall, -⟩ := Traced.bind_ok hdump
  obtain ⟨dispatched, s₄, t₄, -, hreturn, -⟩ := Traced.bind_ok hcall
  exact Except.ok.inj hreturn ▸ rfl

theorem Telemetered.quiet {r : SharedReceiverRunner (Instrumented ω I)}
    {o : OpenTelemetryObservability ω I} {told : ω → List Signal} (h : r.Telemetered o told)
    (raw : RawMessage) : spanned.Quiet told (r.tryBlock raw) where
  keeps s := tryBlock_keeps ⟨h.decode, h.authorize, h.dispatch⟩ raw s
  returned s res hres := by
    obtain ⟨contract, s₁, t, -, hroute, -⟩ := Traced.bind_ok hres
    exact route_returned (Traced.ok_of_mapError hroute)

/-- **The same of the shared receiver.** -/
theorem receiver_telemetry_of_results {r : SharedReceiverRunner (Instrumented ω I)}
    {o : OpenTelemetryObservability ω I} {names : I → InstrumentKind × String}
    {told : ω → List Signal} (ho : o.Takes names told) (h : r.Telemetered o told)
    (raws : List RawMessage) {s : Instrumented ω I} (hs : s.Synced names told)
    (hwell : WellFormed (told s.sdk)) :
    (told ((process r.execute).after raws s).sdk).filter Signal.isReport =
        (told s.sdk).filter Signal.isReport ++
          ((process r.execute).log raws s).flatMap (fun answer => spanned.reports answer.2) ∧
      WellFormed (told ((process r.execute).after raws s).sdk) :=
  Spanned.spanned_tells (fun _ _ => rfl) ho (fun _ => h.observability ▸ rfl) h.quiet raws hs hwell

end SharedReceiverRunner

end

/-! ## A service that reads nothing -/

namespace Sample

/-- An SDK that keeps what it is told. -/
def otel : OpenTelemetryObservability (List Signal) (InstrumentKind × String) where
  tracer := {
    startSpan := fun span attrs told => (.ok (), told ++ [.started span attrs])
    endSpan := fun span told => (.ok (), told ++ [.ended span]) }
  meter := {
    createCounter := fun name told => (.ok (.counter, name), told ++ [.created .counter name])
    createHistogram := fun name told => (.ok (.histogram, name), told ++ [.created .histogram name])
    add := fun instrument value tags told =>
      (.ok (), told ++ [.measured .counter instrument.2 value tags])
    record := fun instrument value tags told =>
      (.ok (), told ++ [.measured .histogram instrument.2 value tags]) }

theorem otel_takes : otel.Takes id id where
  create kind name told := by cases kind <;> exact ⟨_, _, rfl, rfl, rfl⟩
  measure instrument value tags told := by
    rcases instrument with ⟨⟨⟩, name⟩ <;> exact ⟨_, rfl, rfl⟩
  startSpan _ _ _ := ⟨_, rfl, rfl⟩
  endSpan _ _ := ⟨_, rfl, rfl⟩

/-- The world of the service. -/
abbrev Told : Type := Instrumented (List Signal) (InstrumentKind × String)

/-- A service that takes an empty body for a malformed message, and fails with a `KeyError` on any
other. -/
def deafService [UnicodeData] : ServiceRunner Told OpaqueParameters where
  contractType := ContractType.opaqueService
  storage := ⟨fun _ _ => pure ByteArray.empty,
    fun spec _ _ => pure ⟨spec.destinationUri.text, 0, ""⟩⟩
  message := ⟨fun raw => if raw.payload.size = 0 then
    Op.fail (serviceError .malformedMessageError "empty body")
    else Op.fail (.raised .keyError "data")⟩
  webhook := ⟨fun _ _ => pure ⟨200, ""⟩⟩
  compute := ⟨∅, ∅, ∅, fun _ _ _ => pure ⟨Dict.empty, Dict.empty⟩⟩
  secrets := ⟨fun _ => pure ⟨ByteArray.empty, "bearer"⟩⟩
  authorizer := allowAllPolicy _
  observability := otel.port
  clock := frozenClock _ now
  jobDispatcher := ⟨fun _ _ requestId => pure ⟨"job", requestId⟩⟩
  schemeAllowlist := ⟨{"gs"}⟩
  mode := .monolith
  workerJobName := none

theorem deafService_telemetered [UnicodeData] : deafService.Telemetered otel id where
  observability := rfl
  block :=
    { decode := fun raw _ => by
        dsimp only [deafService]
        split <;> rfl
      authorize := fun _ _ _ => rfl
      resolve := fun _ _ => rfl
      now := fun _ => rfl
      run := fun _ _ _ _ => rfl
      notify := fun _ _ _ => rfl
      dispatch := fun _ _ _ _ => rfl }
  read _ _ _ := rfl
  write _ _ _ _ := rfl

/-- A process that starts. -/
def told : Told := ⟨Dict.empty, Dict.empty, []⟩

/-- The span of a run, and what is reported in it. -/
def spanOf (reported : List Signal) : List Signal :=
  .started "service_runner.execute" [("mode", "monolith")] :: reported ++
    [.ended "service_runner.execute"]

/-- The measurement of a malformed message. -/
def malformed : Signal :=
  .measured .histogram "service_runner.errors" (.finite 1)
    [("error_code", "malformed_message"), ("mode", "monolith")]

end Sample

section

attribute [local instance] UnicodeData.ascii Sample.pydantic Sample.jsonText

/-- Two malformed messages, and one that fails with a `KeyError` between them. -/
theorem telemetry_of_results_sample :
    (id ((process Sample.deafService.execute).after
        [⟨ByteArray.empty⟩, Sample.raw, ⟨ByteArray.empty⟩] Sample.told).sdk).filter
          Signal.isReport =
      Sample.spanOf [Sample.malformed] ++ Sample.spanOf [] ++ Sample.spanOf [Sample.malformed] := by
  have hreports := ServiceRunner.telemetry_of_results Sample.otel_takes
    Sample.deafService_telemetered [⟨ByteArray.empty⟩, Sample.raw, ⟨ByteArray.empty⟩]
    (OpenTelemetryObservability.synced_fresh rfl : Sample.told.Synced id id) WellFormed.nil
  exact hreports.1.trans rfl

end

end Grabatus

import Grabatus.Runner.Runner

/-!
# Taking a run apart

Over `runner/runner.py`. `execute` is a branch inside a span, and a branch is a `try` block under
`except GrabatusServiceError`. What the wrappers can do is said once: `execute_cases` for the
span, `BranchRun` for the block and `Closes` for the clause; and each stretch of the block makes
the calls of its own stage only (`receive_stage` and its siblings).
-/

namespace Grabatus

open Grabatus.Lib Grabatus.Python

variable [UnicodeData] {σ P : Type}

namespace ServiceRunner

/-- The call that enters the span of a run. -/
def entered (r : ServiceRunner σ P) (reply : Except PyException Unit) : Event P :=
  .enter "service_runner.execute" [("mode", r.mode.value)] reply

/-- The call that leaves it. -/
def exited (reply : Except PyException Unit) : Event P := .exit "service_runner.execute" reply

/-- The metric of a failed run. -/
def reported (r : ServiceRunner σ P) (error : GrabatusServiceError)
    (reply : Except PyException Unit) : Event P :=
  .metric "service_runner.errors" (.finite 1) (r.errorTags error) reply

/-- **What the clause makes of a `try` block**, whose result and calls come first: a block that
returned is left alone; a service error is reported and becomes a result, unless the report
raises; any other exception comes out. -/
inductive Closes (r : ServiceRunner σ P) (rid : Option UUID) :
    Except PyException (ExecutionResult P) → List (Event P) →
      Except PyException (ExecutionResult P) → List (Event P) → Prop
  | returned (res : ExecutionResult P) (t : List (Event P)) : Closes r rid (.ok res) t (.ok res) t
  | reported (error : GrabatusServiceError) (t : List (Event P)) (reply : Except PyException Unit) :
    Closes r rid (.error (.service error)) t (reply.map fun _ => errorResult rid error)
      (t ++ [r.reported error reply])
  | raised (cls : ExceptionClass) (message : String) (t : List (Event P)) :
    Closes r rid (.error (.raised cls message)) t (.error (.raised cls message)) t

/-- A branch returned: its block did, or its failure was reported. -/
theorem Closes.of_ok {r : ServiceRunner σ P} {rid : Option UUID}
    {result result' : Except PyException (ExecutionResult P)} {res : ExecutionResult P}
    {t t' : List (Event P)} (h : Closes r rid result t result' t') (hres : result' = .ok res) :
    (result = .ok res ∧ t' = t) ∨ ∃ error, result = .error (.service error) ∧
      res = errorResult rid error ∧ t' = t ++ [r.reported error (.ok ())] := by
  cases h with
  | returned res' => exact .inl ⟨hres, rfl⟩
  | reported error _ reply =>
    rcases reply with e | ⟨⟩
    · exact absurd hres nofun
    · exact .inr ⟨error, rfl, (Except.ok.inj hres).symm, rfl⟩
  | raised cls message => exact absurd hres nofun

/-- The clause adds a metric at most. -/
theorem Closes.trace_eq {r : ServiceRunner σ P} {rid : Option UUID}
    {result result' : Except PyException (ExecutionResult P)} {t t' : List (Event P)}
    (h : Closes r rid result t result' t') :
    ∃ after, t' = t ++ after ∧ ∀ e ∈ after, e.stage = .observe := by
  cases h with
  | returned res => exact ⟨[], (List.append_nil t).symm, by simp⟩
  | reported error _ reply => exact ⟨[_], rfl, by simp [ServiceRunner.reported, Event.stage]⟩
  | raised cls message => exact ⟨[], (List.append_nil t).symm, by simp⟩

/-- The clause, on a block whose failures carry one `request_id`. -/
theorem handle_closes (r : ServiceRunner σ P) (rid : Option UUID)
    (result : Except PyException (ExecutionResult P))
    {m : Traced (Event P) σ Failure (ExecutionResult P)} {s s' : σ} {t : List (Event P)}
    (h : m s = ⟨result.mapError (Failure.mk rid), s', t⟩) :
    Closes r rid result t (Traced.handle m r.exceptServiceError s).result
      (Traced.handle m r.exceptServiceError s).trace := by
  rcases result with (error | ⟨cls, message⟩) | res
  · have hmetric := Traced.call_bind_pure
      (r.observability.metric "service_runner.errors" (.finite 1) (r.errorTags error))
      (r.reported error) (fun _ => errorResult (P := P) rid error) s'
    rw [Traced.run_handle_error h]
    show Closes r rid _ _ (r.makeErrorResult rid error s').result
      (t ++ (r.makeErrorResult rid error s').trace)
    unfold makeErrorResult
    exact hmetric ▸ Closes.reported error t _
  · rw [Traced.run_handle_error h]
    show Closes r rid _ _ (.error (.raised cls message)) (t ++ [])
    rw [List.append_nil]
    exact .raised cls message t
  · rw [Traced.run_handle_ok h]
    exact .returned res t

variable [Pydantic]

/-! ## The stage of a stretch's calls -/

theorem receive_stage (r : ServiceRunner σ P) (raw : RawMessage) :
    Traced.Emits (fun e => e.stage = .receive) (r.receive raw) := by
  refine Traced.Emits.bind ?_ fun _ => Traced.Emits.lift _ _
  exact Traced.Emits.call fun _ => rfl

omit [Pydantic] in
theorem check_stage (r : ServiceRunner σ P) (contract : BaseServiceContract P) :
    Traced.Emits (fun e => e.stage = .check) (r.check contract) := by
  have huri : ∀ uri, Traced.Emits (fun e : Event P => e.stage = .check)
      (Steps.authorizeUri r.authorizer r.schemeAllowlist contract.identity uri) := fun _ =>
    (Traced.Emits.lift _ _).bind fun _ => Traced.Emits.call fun _ => rfl
  exact (Traced.Emits.lift _ _).bind fun _ =>
    (Traced.Emits.each (fun _ => huri _) _).bind fun _ => Traced.Emits.each (fun _ => huri _) _

omit [Pydantic] in
theorem prepare_stage (r : ServiceRunner σ P) (contract : BaseServiceContract P) :
    Traced.Emits (fun e => e.stage = .prepare) (r.prepare contract) := by
  have hresolve : ∀ ref, Traced.Emits (fun e : Event P => e.stage = .prepare)
      (Steps.resolveRef r.secrets ref)
    | none => Traced.Emits.pure _ _
    | some _ => Traced.Emits.call fun _ => rfl
  have hload : ∀ b spec, Traced.Emits (fun e : Event P => e.stage = .prepare)
      (Steps.loadInput b r.storage spec) := fun _ _ =>
    (Traced.Emits.lift _ _).bind fun _ => Traced.Emits.call fun _ => rfl
  refine Traced.Emits.bind ?_ fun _ => Traced.Emits.bind ?_ fun _ => Traced.Emits.bind ?_ fun _ =>
    Traced.Emits.pure _ _
  · exact (Traced.Emits.collect (fun _ => hresolve _) _).bind fun _ =>
      (Traced.Emits.collect (fun _ => hresolve _) _).bind fun _ => Traced.Emits.pure _ _
  · exact (Traced.Emits.collect (hload _) _).bind fun _ => Traced.Emits.pure _ _
  · refine Traced.Emits.bind ?_ fun _ => Traced.Emits.pure _ _
    exact Traced.Emits.call fun _ => rfl

theorem produce_stage (r : ServiceRunner σ P) (contract : BaseServiceContract P) :
    Traced.Emits (fun e => e.stage = .prepare ∨ e.stage = .compute) (r.produce contract) := by
  refine ((r.prepare_stage contract).mono fun _ => Or.inl).bind fun _ =>
    Traced.Emits.bind ?_ fun _ => (Traced.Emits.lift _ _).bind fun _ => Traced.Emits.pure _ _
  exact Traced.Emits.call fun _ => .inr rfl

omit [Pydantic] in
theorem publish_stage (r : ServiceRunner σ P) (contract : BaseServiceContract P)
    (produced : Produced) :
    Traced.Emits (fun e => e.stage = .publish) (r.publish contract produced) := by
  have hsave : ∀ spec, Traced.Emits (fun e : Event P => e.stage = .publish)
      (Steps.saveOutput produced.credentials produced.result r.storage spec) := fun _ =>
    (Traced.Emits.lift _ _).bind fun _ => (Traced.Emits.lift _ _).bind fun _ =>
      Traced.Emits.call fun _ => rfl
  refine Traced.Emits.bind ?_ fun _ => Traced.Emits.bind ?_ fun _ => Traced.Emits.pure _ _
  · exact (Traced.Emits.collect hsave _).bind fun _ => Traced.Emits.pure _ _
  · exact Traced.Emits.call fun _ => rfl

theorem serve_stage (r : ServiceRunner σ P) (contract : BaseServiceContract P) :
    Traced.Emits (fun e => e.stage ≠ .receive ∧ e.stage ≠ .observe) (r.serve contract) := by
  refine ((r.check_stage contract).mono fun e he => by simp [he]).bind fun _ =>
    Traced.Emits.bind ?_ fun produced => ?_
  · exact (r.produce_stage contract).mono fun e he => by rcases he with he | he <;> simp [he]
  · exact (r.publish_stage contract produced).mono fun e he => by simp [he]

/-! ## The `try` block -/

/-- A run of `serve` that returned went through its three stretches. -/
theorem serve_ok {r : ServiceRunner σ P} {contract : BaseServiceContract P} {s : σ}
    {res : ExecutionResult P} (h : (r.serve contract s).result = .ok res) :
    ∃ s₁ t₁ produced s₂ t₂, r.check contract s = ⟨.ok (), s₁, t₁⟩ ∧
      r.produce contract s₁ = ⟨.ok produced, s₂, t₂⟩ ∧
        (r.publish contract produced s₂).result = .ok res ∧
          (r.serve contract s).trace = t₁ ++ (t₂ ++ (r.publish contract produced s₂).trace) ∧
            (r.serve contract s).world = (r.publish contract produced s₂).world := by
  obtain ⟨⟨⟩, s₁, t₁, hcheck, hrest, htr, hworld⟩ := Traced.bind_ok h
  obtain ⟨produced, s₂, t₂, hproduce, hpublish, htr', hworld'⟩ := Traced.bind_ok hrest
  refine ⟨s₁, t₁, produced, s₂, t₂, hcheck, hproduce, hpublish, ?_, hworld.trans hworld'⟩
  rw [← htr']
  exact htr

/-- A run whose message decoded. -/
theorem receive_of_decoded {r : ServiceRunner σ P} {raw : RawMessage}
    {document : JsonObject} {s s' : σ} (h : r.message.decode raw s = (.ok document, s')) :
    r.receive raw s =
      ⟨Steps.validate document r.contractType, s', [.decode raw (.ok document)]⟩ := by
  have hdecode : (Steps.decode raw r.message s : Outcome (Event P) σ _ _) =
      ⟨.ok document, s', [.decode raw (.ok document)]⟩ := by
    simp [Steps.decode, Traced.call, h]
  exact Traced.run_bind_ok _ hdecode

omit [Pydantic] in
/-- Roles that fit and URIs that pass. -/
theorem check_of_pass {r : ServiceRunner σ P} {contract : BaseServiceContract P}
    {s s' : σ} (hroles : r.checkRoleCompatibility contract = .ok ())
    (huris : Steps.UrisPass r.authorizer r.schemeAllowlist contract.identity
      (Steps.contractUris contract.toContractFields) s s') :
    ∃ t, r.check contract s = ⟨.ok (), s', t⟩ := by
  unfold check
  rw [hroles, Steps.authorize_eq_each, Traced.run_bind_ok _ (Traced.run_lift _ _)]
  rcases Steps.authorizeUris_cases (P := P) r.authorizer r.schemeAllowlist contract.identity
    (Steps.contractUris contract.toContractFields) s with
    ⟨s'', t, hpass, hrun⟩ | ⟨e, s'', t, hfail, -⟩
  · obtain rfl := huris.unique.1 s'' hpass
    rw [hrun]
    exact ⟨_, rfl⟩
  · exact absurd hfail (huris.unique.2 e)

variable [JsonText]

theorem dispatch_stage (r : ServiceRunner σ P) (contract : BaseServiceContract P) :
    Traced.Emits (fun e => e.stage = .dispatch) (r.dispatch contract) := by
  refine (Traced.Emits.lift _ _).bind fun _ => (Traced.Emits.lift _ _).bind fun _ =>
    Traced.Emits.bind ?_ fun _ => Traced.Emits.pure _ _
  exact Traced.Emits.call fun _ => rfl

/-! ## A branch, and the span around it -/

/-- What the branch of a mode does once the `request_id` is known. -/
def rest (r : ServiceRunner σ P) : BaseServiceContract P → Step σ P (ExecutionResult P) :=
  if r.mode = .receiver then r.handOver else r.serve

theorem rest_eq_serve {r : ServiceRunner σ P} (hmode : r.mode = .monolith ∨ r.mode = .worker) :
    r.rest = r.serve := by
  refine if_neg fun hr => ?_
  rcases hmode with hm | hm <;> exact absurd (hr.symm.trans hm) nofun

theorem rest_stage (r : ServiceRunner σ P) (contract : BaseServiceContract P) :
    Traced.Emits (fun e => e.stage ≠ .receive ∧ e.stage ≠ .observe ∧
      (r.mode = .receiver → e.stage = .check ∨ e.stage = .dispatch)) (r.rest contract) := by
  unfold rest
  split
  · exact ((r.check_stage contract).mono fun e he => by simp [he]).bind fun _ =>
      (r.dispatch_stage contract).mono fun e he => by simp [he]
  · rename_i hmode
    exact (r.serve_stage contract).mono fun e he => ⟨he.1, he.2, fun h => absurd h hmode⟩

/-- **A branch fails before the contract validated, or goes on with it.** -/
inductive BranchRun (r : ServiceRunner σ P) (raw : RawMessage) (s : σ) :
    Except PyException (ExecutionResult P) → List (Event P) → Prop
  | unread {e : PyException} {s₁ : σ} {t t' : List (Event P)}
      {result : Except PyException (ExecutionResult P)}
      (hreceive : r.receive raw s = ⟨.error e, s₁, t⟩)
      (hcloses : Closes r none (.error e) t result t') : BranchRun r raw s result t'
  | read {contract : BaseServiceContract P} {s₁ : σ} {t t' : List (Event P)}
      {result : Except PyException (ExecutionResult P)}
      (hreceive : r.receive raw s = ⟨.ok contract, s₁, t⟩)
      (hcloses : Closes r (some contract.envelope.requestId) (r.rest contract s₁).result
        (t ++ (r.rest contract s₁).trace) result t') : BranchRun r raw s result t'

theorem branch_run (r : ServiceRunner σ P) (raw : RawMessage) (s : σ) :
    BranchRun r raw s (r.branch raw s).result (r.branch raw s).trace := by
  have hbranch : r.branch raw = Traced.handle (r.tryBlock raw r.rest) r.exceptServiceError := by
    unfold branch rest runReceiver runFullPipeline
    split <;> rfl
  rw [hbranch]
  rcases hreceive : r.receive raw s with ⟨e | contract, s₁, t⟩
  · exact .unread hreceive (handle_closes r none (.error e)
      (Traced.run_bind_error _ (Traced.mapError_error.mpr ⟨e, rfl, hreceive⟩)))
  · exact .read hreceive (handle_closes r (some contract.envelope.requestId) _
      (Traced.run_bind_ok _ (Traced.mapError_ok.mpr hreceive)))

/-- A run inside its span. -/
theorem execute_entered {r : ServiceRunner σ P} (raw : RawMessage) {s s₀ : σ}
    (hin : r.observability.enter "service_runner.execute" [("mode", r.mode.value)] s =
      (.ok (), s₀)) :
    ∃ s' reply, r.execute raw s = ⟨reply.bind fun _ => (r.branch raw s₀).result, s',
      r.entered (.ok ()) :: ((r.branch raw s₀).trace ++ [exited reply])⟩ := by
  have henter : Traced.call
      (r.observability.enter "service_runner.execute" [("mode", r.mode.value)])
      r.entered s = ⟨.ok (), s₀, [r.entered (.ok ())]⟩ := by
    simp [Traced.call, hin]
  rcases hout : r.observability.exit "service_runner.execute" (r.branch raw s₀).world with
    ⟨e | ⟨⟩, s'⟩
  · exact ⟨s', .error e, Traced.run_within_exit_error henter
      (by simp [Traced.call, hout, exited])⟩
  · exact ⟨s', .ok (), Traced.run_within_ok henter (by simp [Traced.call, hout, exited])⟩

/-- A run whose span cannot be entered. -/
theorem execute_unentered {r : ServiceRunner σ P} (raw : RawMessage) {s s' : σ} {e : PyException}
    (hin : r.observability.enter "service_runner.execute" [("mode", r.mode.value)] s =
      (.error e, s')) : r.execute raw s = ⟨.error e, s', [r.entered (.error e)]⟩ :=
  Traced.run_within_error (by simp [Traced.call, hin, entered])

/-- **What the span does**: nothing runs when it cannot be entered; otherwise the branch runs, and
its result stands unless leaving the span raises. -/
theorem execute_cases (r : ServiceRunner σ P) (raw : RawMessage) (s : σ) :
    (∃ e s', r.execute raw s = ⟨.error e, s', [r.entered (.error e)]⟩) ∨
    ∃ s₀ s' reply, r.execute raw s = ⟨reply.bind fun _ => (r.branch raw s₀).result, s',
      r.entered (.ok ()) :: ((r.branch raw s₀).trace ++ [exited reply])⟩ := by
  rcases hin : r.observability.enter "service_runner.execute" [("mode", r.mode.value)] s with
    ⟨e | ⟨⟩, s₀⟩
  · exact .inl ⟨e, s₀, execute_unentered raw hin⟩
  · exact .inr ⟨s₀, execute_entered raw hin⟩

omit [JsonText] in
/-- The block over a contract that was read. -/
theorem tryBlock_read {r : ServiceRunner σ P} {raw : RawMessage} {s₀ s₁ : σ}
    {contract : BaseServiceContract P} {t : List (Event P)}
    (rest : BaseServiceContract P → Step σ P (ExecutionResult P))
    (hreceive : r.receive raw s₀ = ⟨.ok contract, s₁, t⟩) :
    r.tryBlock raw rest s₀ =
      ⟨(rest contract s₁).result.mapError (Failure.mk (some contract.envelope.requestId)),
        (rest contract s₁).world, t ++ (rest contract s₁).trace⟩ :=
  Traced.run_bind_ok _ (Traced.mapError_ok.mpr hreceive)

omit [JsonText] in
/-- A branch that ended with `ok` ran its block to the end: a failure ends with `error`. -/
theorem handle_status_ok {r : ServiceRunner σ P} {raw : RawMessage} {s₀ : σ}
    {rest : BaseServiceContract P → Step σ P (ExecutionResult P)} {res : ExecutionResult P}
    (h : (Traced.handle (r.tryBlock raw rest) r.exceptServiceError s₀).result = .ok res)
    (hstatus : res.status = .ok) :
    ∃ contract s₁ t, r.receive raw s₀ = ⟨.ok contract, s₁, t⟩ ∧
      (rest contract s₁).result = .ok res ∧
      Traced.handle (r.tryBlock raw rest) r.exceptServiceError s₀ =
        ⟨.ok res, (rest contract s₁).world, t ++ (rest contract s₁).trace⟩ := by
  have hfailed : ∀ {rid : Option UUID} {s₁ : σ} {e : PyException} {t : List (Event P)},
      r.tryBlock raw rest s₀ ≠ ⟨.error ⟨rid, e⟩, s₁, t⟩ := by
    intro rid s₁ e t hm
    rcases (handle_closes r rid (.error e) hm).of_ok h with ⟨hres, -⟩ | ⟨_, -, rfl, -⟩
    · exact absurd hres nofun
    · exact absurd hstatus nofun
  rcases hreceive : r.receive raw s₀ with ⟨e | contract, s₁, t⟩
  · exact absurd (Traced.run_bind_error _ (Traced.mapError_error.mpr ⟨e, rfl, hreceive⟩)) hfailed
  · have hblock := tryBlock_read rest hreceive
    rcases hrest : (rest contract s₁).result with e | res'
    · rw [hrest] at hblock
      exact absurd hblock hfailed
    · rw [hrest] at hblock
      rw [Traced.run_handle_ok hblock] at h ⊢
      obtain rfl := Except.ok.inj h
      exact ⟨contract, s₁, t, rfl, hrest, rfl⟩

/-- **A run of the pipeline that ends with `ok`** received a contract and served it, and nothing
but leaving the span comes after. -/
theorem served_of_ok {r : ServiceRunner σ P} {raw : RawMessage} {s : σ}
    {res : ExecutionResult P} (hmode : r.mode ≠ .receiver)
    (h : (r.execute raw s).result = .ok res) (hstatus : res.status = .ok) :
    ∃ s₀ contract s₁ t, r.receive raw s₀ = ⟨.ok contract, s₁, t⟩ ∧
      (r.serve contract s₁).result = .ok res ∧
      (r.execute raw s).trace =
        r.entered (.ok ()) :: ((t ++ (r.serve contract s₁).trace) ++ [exited (.ok ())]) ∧
      (r.execute raw s).world =
        (r.observability.exit "service_runner.execute" (r.serve contract s₁).world).2 := by
  have hbranch : r.branch raw = Traced.handle (r.tryBlock raw r.serve) r.exceptServiceError :=
    if_neg hmode
  rcases Traced.run_within_cases
    (Traced.call (r.observability.enter "service_runner.execute" [("mode", r.mode.value)])
      r.entered) (Traced.call (r.observability.exit "service_runner.execute") exited)
    (r.branch raw) s with ⟨e, s', t, -, hrun⟩ | ⟨s₀, t₀, e | ⟨⟩, s', t', hin, hout, hrun⟩
  · exact absurd (h.symm.trans (congrArg Outcome.result hrun)) nofun
  · exact absurd (h.symm.trans (congrArg Outcome.result hrun)) nofun
  · have hrun : r.execute raw s = _ := hrun
    rw [hrun] at h ⊢
    rw [hbranch] at h hout ⊢
    obtain ⟨contract, s₁, t, hreceive, hserve, hblock⟩ := handle_status_ok h hstatus
    rw [hblock] at hout ⊢
    obtain rfl := Traced.trace_of_call hin
    obtain rfl := Traced.trace_of_call hout
    exact ⟨s₀, contract, s₁, t, hreceive, hserve, rfl, (congrArg Outcome.world hout).symm⟩

/-- The events of `serve` are events of the run. -/
theorem mem_execute_of_serve {r : ServiceRunner σ P} {raw : RawMessage}
    {s s₀ s₁ : σ} {contract : BaseServiceContract P} {t : List (Event P)} {x : Event P}
    (hmode : r.mode ≠ .receiver)
    (hin : r.observability.enter "service_runner.execute" [("mode", r.mode.value)] s = (.ok (), s₀))
    (hreceive : r.receive raw s₀ = ⟨.ok contract, s₁, t⟩) (hx : x ∈ (r.serve contract s₁).trace) :
    x ∈ (r.execute raw s).trace := by
  obtain ⟨s', reply, hrun⟩ := execute_entered raw hin
  rw [hrun]
  refine List.mem_cons_of_mem _ (List.mem_append_left _ ?_)
  cases r.branch_run raw s₀ with
  | unread hreceive' _ =>
    rw [hreceive] at hreceive'
    exact nomatch (Outcome.mk.inj hreceive').1
  | read hreceive' hcloses =>
    rw [hreceive] at hreceive'
    obtain ⟨hcontract, rfl, rfl⟩ := Outcome.mk.inj hreceive'
    obtain rfl := Except.ok.inj hcontract
    obtain ⟨after, htrace, -⟩ := hcloses.trace_eq
    rw [htrace, show r.rest = r.serve from if_neg hmode]
    exact List.mem_append_left _ (List.mem_append_right _ hx)

end ServiceRunner

end Grabatus

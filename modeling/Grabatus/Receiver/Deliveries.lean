import Grabatus.Adapters.TypedErrors
import Grabatus.Receiver.Runner
import Mathlib.Logic.Relation

/-!
# Executions over a sequence of deliveries

Over `receiver/runner.py` and `adapters/job_dispatcher_cloud_run.py`. The broker delivers push
bodies to the shared receiver, any of them any number of times, and every delivery that is
accepted asks Cloud Run for an execution, up to three times while it fails in a retriable way.
`started` is the executions Cloud Run has started so far.

* **What one delivery starts** (`started_execute`): nothing, or what the dispatcher does once the
  envelope is accepted.
* **So a `request_id` has at most one execution in every state reached by deliveries that are
  `Fresh`** (`at_most_one_execution`): no execution of it has been started before, and no call that
  started one is reported as failed and repeated. Nothing in the receiver looks for either: a
  redelivery starts a second execution (`redelivery_starts_again`).

Out of scope: two deliveries at the same time; deliveries come one after the other here, with
anything in between that starts no execution.
-/

namespace Grabatus

open Grabatus.Lib Grabatus.Python

variable {σ : Type}

/-- The executions of a `request_id` among some. -/
def executions (requestId : UUID) (requests : List RunJobRequest) : Nat :=
  requests.countP fun request => ("GBT_JOB_REQUEST_ID", requestId.str) ∈ request.env

theorem executions_append {requestId : UUID} {requests : List RunJobRequest}
    {request : RunJobRequest} :
    executions requestId (requests ++ [request]) = executions requestId requests +
      if ("GBT_JOB_REQUEST_ID", requestId.str) ∈ request.env then 1 else 0 := by
  unfold executions
  rw [List.countP_append, List.countP_singleton]
  simp only [decide_eq_true_eq]

namespace CloudRunJobsDispatcher

variable {d : CloudRunJobsDispatcher σ} {jobName payload : String} {requestId : UUID}

/-- A request is one execution of its own `request_id`. -/
theorem mem_env_request {requestId' : UUID} :
    ("GBT_JOB_REQUEST_ID", requestId'.str) ∈ (d.request jobName payload requestId).env ↔
      requestId'.str = requestId.str := by
  simp [request]

/-- Cloud Run starts one execution for a call, or none. -/
structure Starts (d : CloudRunJobsDispatcher σ) (started : σ → List RunJobRequest) : Prop where
  connect : ∀ s, started (d.client.connect s).2 = started s
  runJob : ∀ request s, started (d.client.runJob request s).2 = started s ∨
    started (d.client.runJob request s).2 = started s ++ [request]

/-- From world `s` on, neither of the first two calls starts an execution and fails in a retriable
way. -/
def ResponsesArrive (d : CloudRunJobsDispatcher σ) (started : σ → List RunJobRequest)
    (request : RunJobRequest) (s : σ) : Prop :=
  ∀ i < 2, (∀ j ≤ i, Op.Retried (PyException.isA retriableGoogleErrors)
      (Op.outcome (d.runJob request) j s)) →
    started (Op.after (d.runJob request) (i + 1) s) = started (Op.after (d.runJob request) i s)

variable {started : σ → List RunJobRequest}

theorem Starts.started_runJob (h : d.Starts started) (request : RunJobRequest) (s : σ) :
    started (d.runJob request s).2 = started s ∨
      started (d.runJob request s).2 = started s ++ [request] := by
  unfold CloudRunJobsDispatcher.runJob
  rw [Op.run_bind]
  have hconnect := h.connect s
  rcases hc : d.client.connect s with ⟨e | ⟨⟩, s'⟩
  · rw [hc] at hconnect
    exact .inl hconnect
  · rw [hc] at hconnect
    have hstarted : started s' = started s := hconnect
    rw [← hstarted]
    exact h.runJob request s'

variable [UnicodeData]

/-- An attempt on a payload that is text is one call, judged. -/
theorem attempt_of_text (d : CloudRunJobsDispatcher σ) (jobName text : String) (requestId : UUID)
    (s : σ) : d.attempt jobName (encodeUtf8 text) requestId s =
      (judge (runJobError (d.fullJobName jobName)) (fun jobId => .ok ⟨jobId, requestId⟩)
        (d.runJob (d.request jobName text requestId) s).1,
      (d.runJob (d.request jobName text requestId) s).2) := by
  have hdecode : decodeStrict (encodeUtf8 text) = .ok text := by
    unfold decodeStrict
    rw [decodeUtf8_encodeUtf8]
  unfold attempt
  rw [hdecode, Op.ofExcept_ok_bind]
  exact translated_attempt _ _ _ s

/-- **What a dispatch starts**: one execution at most, where no response is lost. -/
theorem Starts.started_dispatch (h : d.Starts started) {jobName text : String} {requestId : UUID}
    {s : σ} (harrive : d.ResponsesArrive started (d.request jobName text requestId) s) :
    started (d.dispatch jobName (encodeUtf8 text) requestId s).2 = started s ∨
      started (d.dispatch jobName (encodeUtf8 text) requestId s).2 =
        started s ++ [d.request jobName text requestId] := by
  have hattempt : ∀ s, d.attempt jobName (encodeUtf8 text) requestId s = _ :=
    d.attempt_of_text jobName text requestId
  have hworld : ∀ s, (d.attempt jobName (encodeUtf8 text) requestId s).2 =
      (d.runJob (d.request jobName text requestId) s).2 := fun s => congrArg Prod.snd (hattempt s)
  obtain ⟨k, hk, hretried, hlast⟩ : ∃ k ≤ 2, (∀ i < k,
      Op.Retried (PyException.isA retriableGoogleErrors)
        (Op.outcome (d.attempt jobName (encodeUtf8 text) requestId) i s)) ∧
      d.dispatch jobName (encodeUtf8 text) requestId s = _ := Op.retry_eq_last 2 s
  have hcalls : ∀ i < k, Op.Retried (PyException.isA retriableGoogleErrors)
      (Op.outcome (d.runJob (d.request jobName text requestId)) i s) := by
    intro i hi
    have hi := hretried i hi
    rw [Op.outcome_of_judged hattempt] at hi
    rcases ((translates_runJobError _).retried_judge _ _).mp hi with hi | ⟨_, -, _, he, -⟩
    · exact hi
    · exact absurd he nofun
  -- the attempts before the last one started nothing
  have hbefore : started (Op.after (d.runJob (d.request jobName text requestId)) k s) =
      started s := by
    refine Op.after_keeps fun i hi => harrive i (Nat.lt_of_lt_of_le hi hk) fun j hj => ?_
    exact hcalls j (Nat.lt_of_le_of_lt hj hi)
  have hdispatch : (d.dispatch jobName (encodeUtf8 text) requestId s).2 =
      (d.runJob (d.request jobName text requestId)
        (Op.after (d.runJob (d.request jobName text requestId)) k s)).2 := by
    refine (congrArg Prod.snd hlast).trans ?_
    rw [hworld, Op.after_congr hworld]
  rw [hdispatch, ← hbefore]
  exact h.started_runJob _ _

end CloudRunJobsDispatcher

/-! ## One delivery -/

namespace SharedReceiverRunner

variable [UnicodeData]

/-- The ports the receiver calls around the dispatcher start nothing. -/
structure KeepsStarted (r : SharedReceiverRunner σ) (started : σ → List RunJobRequest) : Prop where
  decode : ∀ raw s, started (r.message.decode raw s).2 = started s
  authorize : ∀ uri identity s, started (r.authorizer.authorize uri identity s).2 = started s
  enter : ∀ name attrs s, started (r.observability.enter name attrs s).2 = started s
  exit : ∀ name s, started (r.observability.exit name s).2 = started s
  metric : ∀ name value tags s, started (r.observability.metric name value tags s).2 = started s

variable [Pydantic] [JsonText] {r : SharedReceiverRunner σ} {started : σ → List RunJobRequest}
  {raw : RawMessage} {s : σ}

omit [Pydantic] [JsonText] in
theorem KeepsStarted.of_urisPass (h : r.KeepsStarted started) {identity : Identity}
    {uris : List String} {s s' : σ}
    (hpass : Steps.UrisPass r.authorizer r.schemeAllowlist identity uris s s') :
    started s' = started s := by
  induction hpass with
  | nil s => rfl
  | @cons uri uris s s' s'' hcheck hauth hrest ih =>
    have hkeep := h.authorize uri identity s
    rw [hauth] at hkeep
    exact ih.trans hkeep

omit [JsonText] in
/-- Nothing is started before the dispatcher is called. -/
theorem KeepsStarted.of_accepted (h : r.KeepsStarted started) {contract : OpaqueServiceContract}
    {job : String} {s₁ : σ} (haccepted : r.Accepted raw s contract job s₁) :
    started s₁ = started s := by
  obtain ⟨s₂, ⟨payload, hdecode, -⟩, hpass, -⟩ := haccepted
  have hkeep := h.decode raw s
  rw [hdecode] at hkeep
  exact (h.of_urisPass hpass).trans hkeep

/-- The block starts nothing where it does not call the dispatcher. -/
theorem KeepsStarted.frames_tryBlock (h : r.KeepsStarted started) :
    Traced.Frames (fun e : Event OpaqueParameters => e.stage = .dispatch) started
      (r.tryBlock raw) := by
  have huri : ∀ identity uri, Traced.Frames (fun e : Event OpaqueParameters => e.stage = .dispatch)
      started (Steps.authorizeUri r.authorizer r.schemeAllowlist identity uri) := fun _ _ =>
    (Traced.Frames.lift _ _ _).bind fun _ => Traced.Frames.call fun _ _ => h.authorize _ _ _
  refine Traced.Frames.bind ?_ fun contract => ?_
  · exact Traced.Frames.mapError ((Traced.Frames.call fun _ _ => h.decode _ _).bind fun _ =>
      Traced.Frames.lift _ _ _) _
  · refine Traced.Frames.mapError (Traced.Frames.bind ?_ fun _ => ?_) _
    · exact (Traced.Frames.each (fun _ => huri _ _) _).bind fun _ =>
        Traced.Frames.each (fun _ => huri _ _) _
    · refine (Traced.Frames.lift _ _ _).bind fun _ => (Traced.Frames.lift _ _ _).bind fun _ =>
        Traced.Frames.bind ?_ fun _ => Traced.Frames.pure _ _ _
      exact Traced.Frames.call fun _ hloud => absurd rfl hloud

omit [UnicodeData] [Pydantic] [JsonText] in
theorem dispatchCall?_ne_none {e : Event OpaqueParameters} (h : e.stage = .dispatch) :
    dispatchCall? e ≠ none := by
  cases e with
  | dispatch => simp [dispatchCall?]
  | _ => simp [Event.stage] at h

omit [UnicodeData] [Pydantic] [JsonText] in
/-- The `except` clause starts nothing. -/
theorem KeepsStarted.started_clause (h : r.KeepsStarted started) (failure : Failure) (s : σ) :
    started (r.exceptServiceError failure s).world = started s := by
  rcases failure with ⟨rid, error | ⟨cls, message⟩⟩
  · have hframe : Traced.Frames (fun _ => False) started
        (r.exceptServiceError ⟨rid, .service error⟩) :=
      (Traced.Frames.call fun s _ => h.metric _ _ _ s).bind fun _ => Traced.Frames.pure _ _ _
    exact hframe s fun _ _ => id
  · rfl

/-- **What the block and its clause start**: what the dispatcher starts, where an accepted contract
dumps, else nothing. -/
theorem KeepsStarted.started_block (h : r.KeepsStarted started) (raw : RawMessage) (s : σ) :
    ((∀ contract job s₁ payload, r.Accepted raw s contract job s₁ →
        contractBytes contract ≠ .ok payload) ∧
      started (Traced.handle (r.tryBlock raw) r.exceptServiceError s).world = started s) ∨
    ∃ contract job s₁ payload, r.Accepted raw s contract job s₁ ∧
      contractBytes contract = .ok payload ∧
      started (Traced.handle (r.tryBlock raw) r.exceptServiceError s).world =
        started (r.jobDispatcher.dispatch job payload contract.envelope.requestId s₁).2 := by
  have hframe : _ → started (r.tryBlock raw s).world = started s := h.frames_tryBlock s
  rcases r.tryBlock_cases raw s with ⟨rid, e, s', t, hquiet, hrun, -, hnot⟩ |
    ⟨contract, job, s₁, payload, e | d, s', t, -, hrun, haccepted, hdump, hdispatch⟩
  · rw [hrun] at hframe
    refine .inl ⟨hnot, ?_⟩
    rw [Traced.run_handle_error hrun]
    refine (h.started_clause _ s').trans (hframe fun e he hloud => ?_)
    exact dispatchCall?_ne_none hloud (List.filterMap_eq_nil_iff.mp hquiet e he)
  · refine .inr ⟨contract, job, s₁, payload, haccepted, hdump, ?_⟩
    rw [Traced.run_handle_error hrun, hdispatch]
    exact h.started_clause _ s'
  · refine .inr ⟨contract, job, s₁, payload, haccepted, hdump, ?_⟩
    rw [Traced.run_handle_ok hrun, hdispatch]

/-- **What one delivery starts**: the same, inside the span. -/
theorem KeepsStarted.started_execute (h : r.KeepsStarted started) (raw : RawMessage) (s : σ) :
    ((∀ s₀ contract job s₁ payload, r.Enters s s₀ → r.Accepted raw s₀ contract job s₁ →
        contractBytes contract ≠ .ok payload) ∧
      started (r.execute raw s).world = started s) ∨
    ∃ s₀ contract job s₁ payload, r.Enters s s₀ ∧ r.Accepted raw s₀ contract job s₁ ∧
      contractBytes contract = .ok payload ∧ started s₁ = started s ∧
      started (r.execute raw s).world =
        started (r.jobDispatcher.dispatch job payload contract.envelope.requestId s₁).2 := by
  rcases Traced.run_within_cases
    (Traced.call (r.observability.enter "shared_receiver.execute" []) entered)
    (Traced.call (r.observability.exit "shared_receiver.execute") exited)
    (Traced.handle (r.tryBlock raw) r.exceptServiceError) s with
    ⟨e, s', t, hin, hrun⟩ | ⟨s₀, t₀, reply, s', t', hin, hout, hrun⟩
  · have hworld : (r.execute raw s).world = s' := congrArg Outcome.world hrun
    have hleft : r.observability.enter "shared_receiver.execute" [] s = (.error e, s') :=
      Prod.ext (congrArg Outcome.result hin) (congrArg Outcome.world hin)
    refine .inl ⟨fun s₀ _ _ _ _ henter => ?_, ?_⟩
    · exact absurd (Prod.mk.inj (hleft.symm.trans henter)).1 nofun
    · rw [hworld, show s' = (r.observability.enter "shared_receiver.execute" [] s).2 from
        (congrArg Prod.snd hleft).symm]
      exact h.enter _ _ s
  · have hworld : (r.execute raw s).world = s' := congrArg Outcome.world hrun
    have henter : r.Enters s s₀ :=
      Prod.ext (congrArg Outcome.result hin) (congrArg Outcome.world hin)
    have hexit : (r.observability.exit "shared_receiver.execute"
        (Traced.handle (r.tryBlock raw) r.exceptServiceError s₀).world).2 = s' :=
      congrArg Outcome.world hout
    have hentered : started s₀ = started s := by
      rw [← h.enter "shared_receiver.execute" [] s]
      exact congrArg started (congrArg Prod.snd henter).symm
    rw [hworld, ← hexit, h.exit]
    rcases h.started_block raw s₀ with ⟨hnot, hblock⟩ |
      ⟨contract, job, s₁, payload, haccepted, hdump, hblock⟩
    · refine .inl ⟨fun s₂ contract job s₁ payload henter' => ?_, hblock.trans hentered⟩
      obtain ⟨-, rfl⟩ := Prod.mk.inj (henter.symm.trans henter')
      exact hnot contract job s₁ payload
    · exact .inr ⟨s₀, contract, job, s₁, payload, henter, haccepted, hdump,
        (h.of_accepted haccepted).trans hentered, hblock⟩

/-- An accepted envelope that dumps starts what the dispatcher starts. -/
theorem KeepsStarted.started_of_accepted (h : r.KeepsStarted started) {s₀ s₁ : σ}
    {contract : OpaqueServiceContract} {job : String} {payload : Bytes} (henter : r.Enters s s₀)
    (haccepted : r.Accepted raw s₀ contract job s₁) (hdump : contractBytes contract = .ok payload) :
    started (r.execute raw s).world =
      started (r.jobDispatcher.dispatch job payload contract.envelope.requestId s₁).2 := by
  rcases h.started_execute raw s with ⟨hnot, -⟩ |
    ⟨s₀', contract', job', s₁', payload', henter', haccepted', hdump', -, hstarted⟩
  · exact absurd hdump (hnot s₀ contract job s₁ payload henter haccepted)
  · obtain ⟨-, rfl⟩ := Prod.mk.inj (henter.symm.trans henter')
    obtain ⟨rfl, rfl, rfl⟩ := haccepted.unique haccepted'
    obtain rfl := Except.ok.inj (hdump.symm.trans hdump')
    exact hstarted

/-! ## Any number of deliveries -/

/-- From world `s`, an accepted body whose contract can be written is the first of its `request_id`
to be run, and the responses of the Jobs API to it arrive. -/
def Fresh (r : SharedReceiverRunner σ) (d : CloudRunJobsDispatcher σ)
    (started : σ → List RunJobRequest) (raw : RawMessage) (s : σ) : Prop :=
  ∀ s₀ contract job s₁ text, r.Enters s s₀ → r.Accepted raw s₀ contract job s₁ →
    JsonText.dumps (.obj contract.dumpObject) = .ok text →
      executions contract.envelope.requestId (started s) = 0 ∧
        d.ResponsesArrive started (d.request job text contract.envelope.requestId) s₁

/-- What happens in a deployment: a push body is delivered to the receiver, or something else goes
on and starts no execution. -/
inductive Happens (r : SharedReceiverRunner σ) (started : σ → List RunJobRequest)
    (ok : RawMessage → σ → Prop) : σ → σ → Prop
  | delivered (raw : RawMessage) {s : σ} (hok : ok raw s) :
    Happens r started ok s (r.execute raw s).world
  | elsewhere {s s' : σ} (hkeep : started s' = started s) : Happens r started ok s s'

variable {d : CloudRunJobsDispatcher σ}

/-- A fresh delivery keeps every `request_id` at one execution. -/
theorem executions_of_happens (hdispatcher : r.jobDispatcher = d.port)
    (hkeeps : r.KeepsStarted started) (hstarts : d.Starts started) {s' : σ}
    (hstep : r.Happens started (r.Fresh d started) s s')
    (hs : ∀ requestId, executions requestId (started s) ≤ 1) (requestId : UUID) :
    executions requestId (started s') ≤ 1 := by
  cases hstep with
  | elsewhere hkeep => exact hkeep ▸ hs requestId
  | delivered raw hok =>
    rcases hkeeps.started_execute raw s with ⟨-, hnone⟩ |
      ⟨s₀, contract, job, s₁, payload, henter, haccepted, hdump, hbefore, hstarted⟩
    · exact hnone ▸ hs requestId
    · obtain ⟨-, text, htext, rfl⟩ := contractBytes_eq_ok.mp hdump
      obtain ⟨hfirst, harrive⟩ := hok s₀ contract job s₁ text henter haccepted htext
      rw [hstarted, hdispatcher]
      rcases hstarts.started_dispatch harrive with hnone | hone
      · exact (congrArg (executions requestId) (hnone.trans hbefore)) ▸ hs requestId
      · refine (congrArg (executions requestId) (hone.trans (by rw [hbefore]))).trans_le ?_
        rw [executions_append]
        by_cases hid : requestId.str = contract.envelope.requestId.str
        · rw [if_pos (CloudRunJobsDispatcher.mem_env_request.mpr hid)]
          have hsame : executions requestId (started s) = 0 := by
            unfold executions at hfirst ⊢
            rw [hid]
            exact hfirst
          omega
        · rw [if_neg fun hmem => hid (CloudRunJobsDispatcher.mem_env_request.mp hmem)]
          exact hs requestId

/-- **At most one execution is started for a `request_id`**, in every state reached by fresh
deliveries. -/
theorem at_most_one_execution (hdispatcher : r.jobDispatcher = d.port)
    (hkeeps : r.KeepsStarted started) (hstarts : d.Starts started) {s s' : σ}
    (hinit : started s = [])
    (hrun : Relation.ReflTransGen (r.Happens started (r.Fresh d started)) s s')
    (requestId : UUID) : executions requestId (started s') ≤ 1 := by
  revert requestId
  induction hrun with
  | refl =>
    intro requestId
    rw [hinit]
    exact Nat.zero_le 1
  | tail _ hstep ih => exact executions_of_happens hdispatcher hkeeps hstarts hstep ih

end SharedReceiverRunner

/-! ## Messages of the sample -/

namespace Sample

/-- The Jobs API over the executions it has started: the first `lost` calls start one and answer
503. -/
def jobsClient (lost : Nat) : JobsClient (List RunJobRequest) where
  connect := pure ()
  runJob request started :=
    if started.length < lost then
      (.error (.raised .googleServiceUnavailable "503"), started ++ [request])
    else (.ok "executions/1", started ++ [request])

/-- A dispatcher on that API. -/
def cloudRun (lost : Nat) : CloudRunJobsDispatcher (List RunJobRequest) where
  projectId := "p"
  region := "r"
  client := jobsClient lost

/-- The contract of the factories under another `request_id`. -/
def otherContract : JsonObject :=
  contract.map fun e => if e.1 = "envelope" then
    (e.1, .obj [("protocol_version", .str "1.0"),
      ("request_id", .str "00000000-0000-0000-0000-000000000007"),
      ("created_at", .str "2026-04-25T12:00:00Z"), ("origin", .str "web")]) else e

/-- The body of that contract. -/
def otherRaw : RawMessage := ⟨encodeUtf8 "{}{}"⟩

/-- A body that holds no message. -/
def refusedRaw : RawMessage := ⟨encodeUtf8 "no envelope"⟩

/-- The two bodies are read as the two contracts, and no other is read. -/
def readBody (body : RawMessage) : Except PyException JsonObject :=
  if body = raw then .ok contract
  else if body = otherRaw then .ok otherContract
  else .error (serviceError .malformedMessageError "PubSub envelope is not valid UTF-8 JSON")

theorem readBody_raw : readBody raw = .ok contract := if_pos rfl

theorem readBody_otherRaw : readBody otherRaw = .ok otherContract :=
  (if_neg (by decide +kernel)).trans (if_pos rfl)

theorem readBody_refusedRaw : readBody refusedRaw =
    .error (serviceError .malformedMessageError "PubSub envelope is not valid UTF-8 JSON") :=
  (if_neg (by decide +kernel)).trans (if_neg (by decide +kernel))

/-- A shared receiver on that dispatcher. -/
def cloudReceiver [UnicodeData] (lost : Nat) : SharedReceiverRunner (List RunJobRequest) where
  message := ⟨fun body => Op.ofExcept (readBody body)⟩
  authorizer := allowAllPolicy _
  jobDispatcher := (cloudRun lost).port
  observability := nullObservability _
  clock := frozenClock _ now
  schemeAllowlist := ⟨{"gs"}⟩
  registry := ⟨Dict.empty.set "sample" "sample-worker"⟩
  mode := .sharedReceiver

/-- The `request_id` of the contract. -/
def requestId : UUID :=
  ⟨[10, 3, 15, 9, 12, 2, 1, 14, 11, 15, 3, 8, 4, 14, 7, 5, 9, 10, 2, 15, 12, 8, 9, 11, 6, 12, 3, 15,
    2, 13, 1, 2], rfl⟩

/-- The other `request_id`. -/
def otherRequestId : UUID := ⟨List.replicate 31 0 ++ [7], rfl⟩

end Sample

attribute [local instance] UnicodeData.ascii Sample.pydantic Sample.jsonText

theorem Sample.keepsStarted (lost : Nat) : (Sample.cloudReceiver lost).KeepsStarted fun s => s where
  decode _ _ := rfl
  authorize _ _ _ := rfl
  enter _ _ _ := rfl
  exit _ _ := rfl
  metric _ _ _ _ := rfl

theorem Sample.starts (lost : Nat) : (Sample.cloudRun lost).Starts fun s => s where
  connect _ := rfl
  runJob request s := by
    right
    show (if s.length < lost then _ else _ : Except PyException String × _).2 = _
    split <;> rfl

/-- A body that is read as a contract of this `request_id`, whose service is registered and whose
URIs have an allowed scheme. -/
structure Sample.Holds (body : RawMessage) (requestId : UUID) : Prop where
  accepted : ∀ lost s, ∃ contract : OpaqueServiceContract,
    contract.envelope.requestId = requestId ∧
      (Sample.cloudReceiver lost).Accepted body s contract "sample-worker" s

/-- What the receiver looks at in a contract. -/
def Sample.looked (document : JsonObject) : Option (UUID × String × Bool) :=
  (Steps.validate document ContractType.opaqueService).toOption.map fun contract =>
    (contract.envelope.requestId, contract.service.name.val,
      (Steps.contractUris contract.toContractFields).all fun uri =>
        (SchemeAllowlist.check ⟨{"gs"}⟩ uri).toOption == some ())

theorem Sample.holds_of_looked {body : RawMessage} {document : JsonObject} {requestId : UUID}
    (hread : Sample.readBody body = .ok document)
    (hlooked : Sample.looked document = some (requestId, "sample", true)) :
    Sample.Holds body requestId := by
  refine ⟨fun lost s => ?_⟩
  obtain ⟨contract, hvalid, hfields⟩ := Option.map_eq_some_iff.mp hlooked
  obtain ⟨hid, hname, huris⟩ : _ ∧ _ ∧ _ := by simpa only [Prod.mk.injEq] using hfields
  refine ⟨contract, hid, s, ⟨document, congrArg (·, s) hread, ?_⟩, ?_, ?_⟩
  · rcases hresult : Steps.validate document ContractType.opaqueService with e | c
    · rw [hresult] at hvalid
      exact absurd hvalid nofun
    · rw [hresult] at hvalid
      exact congrArg Except.ok (Option.some.inj hvalid)
  · refine urisPass_allowAll (fun uri huri => ?_) s
    have hcheck := eq_of_beq (List.all_eq_true.mp huris uri huri)
    show SchemeAllowlist.check ⟨{"gs"}⟩ uri = .ok ()
    rcases hresult : SchemeAllowlist.check ⟨{"gs"}⟩ uri with e | ⟨⟩
    · rw [hresult] at hcheck
      exact absurd hcheck nofun
    · rfl
  · rw [hname]
    rfl

theorem Sample.holds_raw : Sample.Holds Sample.raw Sample.requestId :=
  Sample.holds_of_looked Sample.readBody_raw (by decide +kernel)

theorem Sample.holds_otherRaw : Sample.Holds Sample.otherRaw Sample.otherRequestId :=
  Sample.holds_of_looked Sample.readBody_otherRaw (by decide +kernel)

/-- A body that holds no message is not accepted. -/
theorem Sample.not_accepted {lost : Nat} {s s₁ : List RunJobRequest}
    {contract : OpaqueServiceContract} {job : String} :
    ¬ (Sample.cloudReceiver lost).Accepted Sample.refusedRaw s contract job s₁ := by
  rintro ⟨_, ⟨payload, hdecode, -⟩, -⟩
  have hread : Sample.readBody Sample.refusedRaw = .ok payload := (Prod.mk.inj hdecode).1
  rw [Sample.readBody_refusedRaw] at hread
  exact absurd hread nofun

/-- What a body of the sample starts where no response is lost: one execution at each delivery. -/
theorem Sample.started_execute {body : RawMessage} {requestId : UUID}
    (hholds : Sample.Holds body requestId) (s : List RunJobRequest) :
    ∃ payload, ((Sample.cloudReceiver 0).execute body s).world =
      s ++ [(Sample.cloudRun 0).request "sample-worker" payload requestId] := by
  obtain ⟨contract, hid, haccepted⟩ := hholds.accepted 0 s
  have hdump : SharedReceiverRunner.contractBytes contract = .ok _ :=
    SharedReceiverRunner.contractBytes_eq_ok.mpr ⟨rfl, _, rfl, rfl⟩
  refine ⟨String.ofList (Leaves.render (.obj contract.dumpObject)), ?_⟩
  rw [(Sample.keepsStarted 0).started_of_accepted rfl haccepted hdump, hid]
  show (Op.retry _ 2 ((Sample.cloudRun 0).attempt "sample-worker" (encodeUtf8 _) _) s).2 = _
  rw [Op.retry_done 2]
  · rw [CloudRunJobsDispatcher.attempt_of_text]
    rfl
  · rw [CloudRunJobsDispatcher.attempt_of_text]
    exact fun ⟨_, he, _⟩ => absurd he nofun

/-- A body that holds no message starts nothing. -/
theorem Sample.refused_execute (s : List RunJobRequest) :
    ((Sample.cloudReceiver 0).execute Sample.refusedRaw s).world = s := by
  rcases (Sample.keepsStarted 0).started_execute Sample.refusedRaw s with
    ⟨-, hnone⟩ | ⟨_, _, _, _, _, -, haccepted, -⟩
  · exact hnone
  · exact absurd haccepted Sample.not_accepted

/-- With no response lost, a delivery is fresh where nothing of its `request_id` was started. -/
theorem Sample.fresh {body : RawMessage} {s : List RunJobRequest}
    (hfirst : ∀ contract job s₁, (Sample.cloudReceiver 0).Accepted body s contract job s₁ →
      executions contract.envelope.requestId s = 0) :
    (Sample.cloudReceiver 0).Fresh (Sample.cloudRun 0) (fun s => s) body s := by
  intro s₀ contract job s₁ text henters haccepted _
  obtain rfl : s = s₀ := (Prod.mk.inj henters).2
  refine ⟨hfirst contract job s₁ haccepted, fun i _ hretried => ?_⟩
  obtain ⟨e, he, -⟩ := hretried i (Nat.le_refl i)
  exact absurd he nofun

/-- The first delivery of a body of the sample is fresh. -/
theorem Sample.fresh_of_holds {body : RawMessage} {requestId : UUID} {s : List RunJobRequest}
    (hholds : Sample.Holds body requestId) (hfirst : executions requestId s = 0) :
    (Sample.cloudReceiver 0).Fresh (Sample.cloudRun 0) (fun s => s) body s :=
  Sample.fresh fun contract job s₁ haccepted => by
    obtain ⟨contract', hid, haccepted'⟩ := hholds.accepted 0 s
    obtain ⟨rfl, -⟩ := haccepted.unique haccepted'
    rw [hid]
    exact hfirst

/-- Two envelopes, and a body that is refused between them. -/
theorem at_most_one_execution_sample :
    ∃ s s' : List RunJobRequest, s = ((Sample.cloudReceiver 0).execute Sample.raw []).world ∧
      s' = ((Sample.cloudReceiver 0).execute Sample.otherRaw
        ((Sample.cloudReceiver 0).execute Sample.refusedRaw s).world).world ∧
      s'.length = 2 ∧ ∀ requestId, executions requestId s' ≤ 1 := by
  obtain ⟨payload, hfirst⟩ := Sample.started_execute Sample.holds_raw []
  obtain ⟨payload', hsecond⟩ := Sample.started_execute Sample.holds_otherRaw
    ((Sample.cloudReceiver 0).execute Sample.refusedRaw
      ((Sample.cloudReceiver 0).execute Sample.raw []).world).world
  refine ⟨_, _, rfl, rfl, ?_, ?_⟩
  · rw [hsecond, Sample.refused_execute, hfirst]
    rfl
  · refine SharedReceiverRunner.at_most_one_execution rfl (Sample.keepsStarted 0) (Sample.starts 0)
      (s := []) rfl (.tail (.tail (.single (.delivered Sample.raw ?_))
        (.delivered Sample.refusedRaw ?_)) (.delivered Sample.otherRaw ?_))
    · exact Sample.fresh_of_holds Sample.holds_raw rfl
    · exact Sample.fresh fun _ _ _ haccepted => absurd haccepted Sample.not_accepted
    · refine Sample.fresh_of_holds Sample.holds_otherRaw ?_
      rw [Sample.refused_execute, hfirst, executions_append, if_neg ?_]
      · rfl
      · rw [CloudRunJobsDispatcher.mem_env_request]
        exact fun h => absurd (UUID.str_inj h) (by decide)

/-- Where the first response is lost, the first delivery starts two. -/
theorem Sample.started_lost :
    ∃ payload, ((Sample.cloudReceiver 1).execute Sample.raw []).world =
      [(Sample.cloudRun 1).request "sample-worker" payload Sample.requestId,
        (Sample.cloudRun 1).request "sample-worker" payload Sample.requestId] := by
  obtain ⟨contract, hid, haccepted⟩ := Sample.holds_raw.accepted 1 []
  have hdump : SharedReceiverRunner.contractBytes contract = .ok _ :=
    SharedReceiverRunner.contractBytes_eq_ok.mpr ⟨rfl, _, rfl, rfl⟩
  refine ⟨String.ofList (Leaves.render (.obj contract.dumpObject)), ?_⟩
  rw [(Sample.keepsStarted 1).started_of_accepted rfl haccepted hdump, hid]
  show (Op.retry _ 2 ((Sample.cloudRun 1).attempt "sample-worker" (encodeUtf8 _) _) []).2 = _
  rw [Op.retry_again 1 (CloudRunJobsDispatcher.attempt_of_text _ _ _ _ _) rfl, Op.retry_done 1]
  · rw [CloudRunJobsDispatcher.attempt_of_text]
    rfl
  · rw [CloudRunJobsDispatcher.attempt_of_text]
    exact fun ⟨_, he, _⟩ => absurd he nofun

/-- **A message delivered twice starts two executions**, and so does one whose first response is
lost. -/
theorem redelivery_starts_again :
    (∃ s, Relation.ReflTransGen ((Sample.cloudReceiver 0).Happens (fun s => s) fun _ _ => True)
        [] s ∧ executions Sample.requestId s = 2) ∧
    ∃ s, Relation.ReflTransGen ((Sample.cloudReceiver 1).Happens (fun s => s) fun _ _ => True)
        [] s ∧ executions Sample.requestId s = 2 := by
  constructor
  · refine ⟨_, .tail (.single (.delivered Sample.raw trivial)) (.delivered Sample.raw trivial), ?_⟩
    obtain ⟨payload, hfirst⟩ := Sample.started_execute Sample.holds_raw []
    obtain ⟨payload', hsecond⟩ := Sample.started_execute Sample.holds_raw
      ((Sample.cloudReceiver 0).execute Sample.raw []).world
    rw [hsecond, hfirst, executions_append, List.nil_append,
      if_pos (CloudRunJobsDispatcher.mem_env_request.mpr rfl)]
    simp [executions, CloudRunJobsDispatcher.mem_env_request]
  · refine ⟨_, .single (.delivered Sample.raw trivial), ?_⟩
    obtain ⟨payload, hboth⟩ := Sample.started_lost
    rw [hboth]
    simp [executions, CloudRunJobsDispatcher.mem_env_request]

end Grabatus

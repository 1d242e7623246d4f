import Grabatus.Runner.Order
import Grabatus.Testing.Fakes

/-!
# A run that ends with `ok`

Over `runner/runner.py`. A `Complete` run is the record of what was loaded, computed and stored.
**A run whose status is `ok` is described by one** (`complete_of_status_ok`): its effectful calls
are exactly the record's, so the backend and the webhook were called once and each output was
written once, and every value reached the role it belongs to.
-/

namespace Grabatus

open Grabatus.Lib Grabatus.Python

variable [UnicodeData] {σ P : Type}

/-- One input: its spec, the credentials its reference resolved to, and the bytes read. -/
structure Loaded where
  spec : InputSpec
  credentials : Credentials
  bytes : Bytes

/-- One output: its spec, the credentials its reference resolved to, the payload written and the
receipt. -/
structure Stored where
  spec : OutputSpec
  credentials : Credentials
  payload : Bytes
  receipt : WriteReceipt

/-- The record of a complete run. -/
structure Complete (P : Type) where
  contract : BaseServiceContract P
  loaded : List Loaded
  stored : List Stored
  inputs : LoadedInputs
  now : Datetime
  result : ComputeResult
  ack : WebhookAck

namespace Complete

/-- What the webhook is told: of each output its role and the fields of its receipt. -/
def payload (c : Complete P) : JsonObject :=
  [("request_id", .str c.contract.envelope.requestId.str), ("status", .str "ok"),
    ("outputs", .arr (c.stored.map fun w => .obj
      [("role", .str w.spec.role.val), ("uri", .str w.receipt.uri),
        ("bytes_written", .int w.receipt.bytesWritten),
        ("request_id_tag", .str w.receipt.requestIdTag)])),
    ("metadata", .obj c.result.metadata.entries)]

/-- The effectful calls, with their replies. -/
def effects (c : Complete P) : List (Event P) :=
  c.loaded.flatMap (fun l => resolveEvents P l.spec.credentialRef l.credentials) ++
    c.stored.flatMap (fun w => resolveEvents P w.spec.credentialRef w.credentials) ++
    c.loaded.map (fun l => .read l.spec l.credentials (.ok l.bytes)) ++
    [.run c.inputs c.contract.parameters
      (ComputeContext.ofContract c.contract.toContractFields c.now) (.ok c.result)] ++
    c.stored.map (fun w => .write w.spec w.payload w.credentials (.ok w.receipt)) ++
    [.notify c.contract.callback c.payload (.ok c.ack)]

/-- The record describes a run of `r` on `raw` with this trace and result. -/
structure Describes [Pydantic] (c : Complete P) (r : ServiceRunner σ P) (raw : RawMessage)
    (trace : List (Event P)) (res : ExecutionResult P) : Prop where
  admitted : Admitted r raw trace c.contract
  inputs_declared : c.loaded.map Loaded.spec = c.contract.inputs.toList
  outputs_declared : c.stored.map Stored.spec = c.contract.outputs.toList
  inputs_by_role : c.inputs.byRole.entries = c.loaded.map fun l => (l.spec.role.val, l.bytes)
  input_credentials : ∀ l ∈ c.loaded, l.spec.credentialRef = none →
    l.credentials = nullCredentials
  output_credentials : ∀ w ∈ c.stored, w.spec.credentialRef = none →
    w.credentials = nullCredentials
  payloads : ∀ w ∈ c.stored, c.result.byRole.get? w.spec.role.val = some w.payload
  readout : ∃ payload, c.result.byRole.get? readoutOutputRole = some payload ∧
    Explains payload c.contract.toContractFields ∧
      ∀ w ∈ c.stored, w.spec.role.val = readoutOutputRole → w.payload = payload
  effects_eq : trace.filter (·.effect?.isSome) = c.effects
  receipts : ∃ receipts, res.receipts = some receipts ∧
    receipts.byRole.entries = c.stored.map (fun w => (w.spec.role.val, w.receipt)) ∧
      receipts.byRole.keys = c.contract.outputRoles
  request_id : res.requestId = c.contract.envelope.requestId
  ack_eq : res.webhookAck = some c.ack

end Complete

section

variable [Pydantic]

omit [Pydantic] in
/-- **What a returning `publish` did.** -/
theorem publish_ok {r : ServiceRunner σ P} {contract : BaseServiceContract P} {s : σ}
    {produced : ServiceRunner.Produced} {res : ExecutionResult P}
    (h : (r.publish contract produced s).result = .ok res) :
    ∃ (saves : List (OutputSpec × WriteReceipt)) (receipts : WriteReceipts) (ack : WebhookAck),
      saves.map Prod.fst = contract.outputs.toList ∧
      receipts.byRole.entries = saves.map (fun p => (p.1.role.val, p.2)) ∧
      (∀ p ∈ saves, produced.result.byRole.get? p.1.role.val =
        some (payloadOf produced.result p.1.role.val)) ∧
      (r.publish contract produced s).trace =
        saves.map (fun p => .write p.1 (payloadOf produced.result p.1.role.val)
          (credentialsOf produced.credentials.outputs p.1.role.val) (.ok p.2)) ++
        [.notify contract.callback (ServiceRunner.buildSuccessPayload contract.envelope.requestId
          receipts produced.result.metadata) (.ok ack)] ∧
      res = {
        requestId := contract.envelope.requestId
        status := .ok
        contract := some contract
        receipts := some receipts
        error := none
        metadata := produced.result.metadata
        webhookAck := some ack } := by
  obtain ⟨receipts, s₁, t₁, hsave, h₁, htr₁, -⟩ := Traced.bind_ok h
  obtain ⟨ack, s₂, t₂, hnotify, hret, htr₂, -⟩ := Traced.bind_ok h₁
  obtain ⟨saves, hsaves, hentries, rfl, hall⟩ := saveOutputs_ok hsave
  obtain rfl : t₂ = [_] := Traced.trace_of_call hnotify
  refine ⟨saves, receipts, ack, hsaves, hentries, hall, ?_, (Except.ok.inj hret).symm⟩
  refine htr₁.trans ?_
  rw [htr₂, Traced.run_pure, List.append_nil]

omit [UnicodeData] [Pydantic] in
theorem resolveEvents_effectful (ref : Option SecretRef) (c : Credentials) :
    (resolveEvents P ref c).filter (·.effect?.isSome) = resolveEvents P ref c := by
  cases ref <;> rfl

omit [UnicodeData] [Pydantic] in
theorem map_effectful {ι : Type} {f : ι → Event P} (h : ∀ x, (f x).effect?.isSome = true)
    (xs : List ι) : (xs.map f).filter (·.effect?.isSome) = xs.map f :=
  List.filter_eq_self.mpr fun e he => by
    obtain ⟨x, -, rfl⟩ := List.mem_map.mp he
    exact h x

/-- The record of a run, from its two stretches. -/
theorem describes_of_stretches {r : ServiceRunner σ P} {raw : RawMessage}
    {contract : BaseServiceContract P} {produced : ServiceRunner.Produced} {s : σ}
    {t trace : List (Event P)} {res : ExecutionResult P} (hadmitted : Admitted r raw trace contract)
    (hproduced : ProducedBy contract produced t)
    (hpublish : (r.publish contract produced s).result = .ok res)
    (htrace : trace.filter (·.effect?.isSome) =
      (t ++ (r.publish contract produced s).trace).filter (·.effect?.isSome)) :
    ∃ c : Complete P, c.Describes r raw trace res := by
  obtain ⟨⟨payload, hpayload, hexplains⟩, ⟨credentials, inputs, context⟩, -, -, t', hprepared, rfl,
    -, -, rfl⟩ := hproduced
  obtain ⟨hinCred, houtCred, loads, now, hloads, hinputs, rfl, rfl⟩ := hprepared
  obtain ⟨saves, receipts, ack, hsaves, hreceipts, hall, hpubtrace, rfl⟩ := publish_ok hpublish
  refine ⟨{
    contract, inputs, now, ack
    loaded := loads.map fun p =>
      ⟨p.1, credentialsOf produced.credentials.inputs p.1.role.val, p.2⟩
    stored := saves.map fun p =>
      ⟨p.1, credentialsOf produced.credentials.outputs p.1.role.val,
        payloadOf produced.result p.1.role.val, p.2⟩
    result := produced.result }, ?_⟩
  have hloaded : ∀ p ∈ loads, p.1 ∈ contract.inputs.toList := fun p hp =>
    hloads ▸ List.mem_map_of_mem hp
  have hstored : ∀ p ∈ saves, p.1 ∈ contract.outputs.toList := fun p hp =>
    hsaves ▸ List.mem_map_of_mem hp
  refine {
    admitted := hadmitted
    inputs_declared := by rw [List.map_map]; exact hloads
    outputs_declared := by rw [List.map_map]; exact hsaves
    inputs_by_role := by rw [List.map_map]; exact hinputs
    input_credentials := ?_
    output_credentials := ?_
    payloads := ?_
    readout := ⟨payload, hpayload, hexplains, ?_⟩
    effects_eq := ?_
    receipts := ⟨receipts, rfl, by rw [List.map_map]; exact hreceipts, ?_⟩
    request_id := rfl
    ack_eq := rfl }
  · intro l hl
    obtain ⟨p, hp, rfl⟩ := List.mem_map.mp hl
    exact hinCred p.1 (hloaded p hp)
  · intro w hw
    obtain ⟨p, hp, rfl⟩ := List.mem_map.mp hw
    exact (houtCred p.1 (hstored p hp)).2
  · intro w hw
    obtain ⟨p, hp, rfl⟩ := List.mem_map.mp hw
    exact hall p hp
  · intro w hw hrole
    obtain ⟨p, hp, rfl⟩ := List.mem_map.mp hw
    have hp := hall p hp
    rw [show p.1.role.val = readoutOutputRole from hrole, hpayload] at hp
    exact (Option.some.inj hp).symm ▸ by rw [show p.1.role.val = readoutOutputRole from hrole]
  · rw [htrace, hpubtrace, ← hloads, ← hsaves]
    have hpayload : ServiceRunner.buildSuccessPayload contract.envelope.requestId receipts
        produced.result.metadata = [("request_id", .str contract.envelope.requestId.str),
          ("status", .str "ok"), ("outputs", .arr (saves.map fun p => .obj
            [("role", .str p.1.role.val), ("uri", .str p.2.uri),
              ("bytes_written", .int p.2.bytesWritten),
              ("request_id_tag", .str p.2.requestIdTag)])),
          ("metadata", .obj produced.result.metadata.entries)] := by
      unfold ServiceRunner.buildSuccessPayload
      rw [hreceipts, List.map_map]
      rfl
    unfold Complete.effects Complete.payload
    simp only [List.filter_append, List.filter_flatMap, resolveEvents_effectful, List.flatMap_map,
      List.map_map]
    rw [map_effectful (fun _ => rfl), map_effectful (fun _ => rfl), hpayload]
    simp only [List.append_assoc]
    rfl
  · unfold Dict.keys ContractFields.outputRoles
    rw [hreceipts, ← hsaves, List.map_map, List.map_map]
    rfl

/-- The record of a run that returned from `serve`. -/
theorem describes_of_serve {r : ServiceRunner σ P} {raw : RawMessage} {s s₁ : σ}
    {contract : BaseServiceContract P} {res : ExecutionResult P} {t trace : List (Event P)}
    (hreceive : r.receive raw s = ⟨.ok contract, s₁, t⟩)
    (hserve : (r.serve contract s₁).result = .ok res) {reply : Except PyException Unit}
    (htrace : trace = r.entered (.ok ()) ::
      ((t ++ (r.serve contract s₁).trace) ++ [ServiceRunner.exited reply])) :
    ∃ c : Complete P, c.Describes r raw trace res := by
  obtain ⟨s₂, t₂, produced, s₃, t₃, hcheck, hproduce, hpublish, htr, -⟩ :=
    ServiceRunner.serve_ok hserve
  have hsilent : (t ++ t₂).filter (·.effect?.isSome) = [] := by
    have hreceived := receive_silent r raw s
    have hchecked := check_silent r contract s₁
    rw [hreceive] at hreceived
    rw [hcheck] at hchecked
    refine List.filter_eq_nil_iff.mpr fun e he => ?_
    rcases List.mem_append.mp he with he | he
    · simp [List.filterMap_eq_nil_iff.mp hreceived e he]
    · simp [List.filterMap_eq_nil_iff.mp hchecked e he]
  rw [htr, ← List.append_assoc] at htrace
  refine describes_of_stretches ((admitted_of_check hreceive hcheck).mono fun e he => ?_)
    (produce_ok hproduce) hpublish ?_
  · rw [htrace]
    exact List.mem_cons_of_mem _ (List.mem_append_left _ (List.mem_append_left _ he))
  · rw [htrace, List.filter_cons_of_neg (by simp [ServiceRunner.entered, Event.effect?]),
      List.filter_append, List.filter_append, hsilent]
    exact List.append_nil _

variable [JsonText]

/-- **A run that ends with `ok` is complete**: one record describes it. -/
theorem complete_of_status_ok {r : ServiceRunner σ P} {raw : RawMessage} {s : σ}
    {res : ExecutionResult P} (hmode : r.mode = .monolith ∨ r.mode = .worker)
    (h : (r.execute raw s).result = .ok res) (hstatus : res.status = .ok) :
    ∃ c : Complete P, c.Describes r raw (r.execute raw s).trace res := by
  rcases r.execute_cases raw s with ⟨e, s', hx⟩ | ⟨s₀, s', reply, hx⟩
  · rw [hx] at h
    exact absurd h nofun
  · rw [hx] at h ⊢
    rcases reply with e | ⟨⟩
    · exact absurd h nofun
    · cases r.branch_run raw s₀ with
      | unread hreceive hcloses =>
        rcases hcloses.of_ok h with ⟨hres, -⟩ | ⟨error, -, rfl, -⟩
        · exact absurd hres nofun
        · exact absurd hstatus nofun
      | read hreceive hcloses =>
        rw [ServiceRunner.rest_eq_serve hmode] at hcloses
        rcases hcloses.of_ok h with ⟨hserve, htrace⟩ | ⟨error, -, rfl, -⟩
        · exact describes_of_serve hreceive hserve (by rw [htrace])
        · exact absurd hstatus nofun

end

end Grabatus

/-! ## The sample runs -/

namespace Grabatus

open Grabatus.Lib Grabatus.Python

attribute [local instance] UnicodeData.ascii

section

attribute [local instance] Sample.pydantic Sample.jsonText

/-- The sample runner, on its message. -/
abbrev Sample.run : Outcome (Event OpaqueParameters) FakeWorld PyException
    (ExecutionResult OpaqueParameters) :=
  (Sample.runner (allowAllPolicy _) Sample.outputs true .monolith).execute Sample.raw Sample.world

/-- The sample run ends with `ok`; the roles of its outputs. -/
theorem sample_run : (statusOf? Sample.run.result,
    Sample.run.result.toOption.bind fun res => res.contract.map fun c => c.outputRoles) =
      (some .ok, some ["result_json"]) := by decide +kernel

end

/-- The URI of a call to the authorizer. -/
def Event.authorized? {P : Type} : Event P → Option String
  | .authorize uri _ _ => some uri
  | _ => none

/-- The URI of the reference a call resolves. -/
def Event.resolved? {P : Type} : Event P → Option String
  | .resolve ref _ => some ref.toUri
  | _ => none

/-- The URL a call posts to. -/
def Event.posted? {P : Type} : Event P → Option String
  | .notify callback _ _ => some callback.url.text
  | _ => none

/-- The role of the input or the output a call to storage is for. -/
def Event.role? {P : Type} : Event P → Option String
  | .read spec _ _ => some spec.role.val
  | .write spec _ _ _ => some spec.role.val
  | _ => none

/-- The files of a contract: the role and the URI of each output, the role of each input. -/
def ContractFields.files {P : Type} (c : ContractFields P) : List (String × String) × List String :=
  (c.outputs.toList.map fun spec => (spec.role.val, spec.destinationUri.text),
    c.inputs.toList.map fun spec => spec.role.val)

/-- The files of the contract a result carries. -/
def filesOf? {P : Type} (result : Except PyException (ExecutionResult P)) :
    Option (List (String × String) × List String) :=
  result.toOption.bind fun res => res.contract.map fun contract => contract.toContractFields.files

attribute [local instance] Sample.widePydantic Sample.jsonText

/-- The run over several inputs and outputs. -/
abbrev Sample.wideRun : Outcome (Event OpaqueParameters) FakeWorld PyException
    (ExecutionResult OpaqueParameters) :=
  Sample.wideRunner.execute Sample.raw Sample.wideWorld

/-- It ends with `ok`; it reads two inputs and writes three outputs; and what it authorizes,
resolves and posts to. -/
theorem wide_run :
    (statusOf? Sample.wideRun.result, filesOf? Sample.wideRun.result,
      Sample.wideRun.trace.filterMap Event.role?) =
    (some .ok, some ([("result_json", "gs://gbt-storage-grabatus/user_999/out.json"),
        ("rules_json", "gs://gbt-storage-grabatus/user_999/rules.json"),
        (readoutOutputRole, "gs://gbt-storage-grabatus/user_999/readout.json")],
        ["timeseries", "rules_json"]),
      ["timeseries", "rules_json", "result_json", "rules_json", readoutOutputRole]) ∧
    (Sample.wideRun.trace.filterMap Event.authorized?,
      Sample.wideRun.trace.filterMap Event.resolved?,
      Sample.wideRun.trace.filterMap Event.posted?) =
    (["gs://gbt-storage-grabatus/user_999/in.xlsx",
        "gs://gbt-storage-grabatus/user_999/rules.xlsx",
        "gs://gbt-storage-grabatus/user_999/out.json",
        "gs://gbt-storage-grabatus/user_999/rules.json",
        "gs://gbt-storage-grabatus/user_999/readout.json"],
      ["secret://gsm/key"], ["https://grabatus.com/webhook"]) := by
  decide +kernel

/-- It ends with `ok`. -/
theorem wide_status : statusOf? Sample.wideRun.result = some .ok := (Prod.mk.inj wide_run.1).1

/-- The files of its contract. -/
theorem wide_files : filesOf? Sample.wideRun.result =
    some ([("result_json", "gs://gbt-storage-grabatus/user_999/out.json"),
      ("rules_json", "gs://gbt-storage-grabatus/user_999/rules.json"),
      (readoutOutputRole, "gs://gbt-storage-grabatus/user_999/readout.json")],
      ["timeseries", "rules_json"]) := (Prod.mk.inj (Prod.mk.inj wide_run.1).2).1

theorem complete_of_status_ok_sample :
    ∃ res, Sample.wideRun.result = .ok res ∧ res.status = .ok ∧
      Sample.wideRun.trace.filterMap Event.role? =
        ["timeseries", "rules_json", "result_json", "rules_json", readoutOutputRole] ∧
      ∃ c : Complete OpaqueParameters,
        c.Describes Sample.wideRunner Sample.raw Sample.wideRun.trace res := by
  obtain ⟨res, hres, hok⟩ := statusOf?_eq_some.mp wide_status
  obtain ⟨-, hseen⟩ := Prod.mk.inj wide_run.1
  obtain ⟨-, hroles⟩ := Prod.mk.inj hseen
  exact ⟨res, hres, hok, hroles, complete_of_status_ok (.inl rfl) hres hok⟩

end Grabatus

import Grabatus.Adapters.MessagePubsub
import Grabatus.Runner.Runner
import Grabatus.Testing.Leaves

/-!
# The test fakes

Model of the ports and of the factories of `testing/`. The in-memory ports a service tests its
pipeline with, over one world (`FakeWorld`), and the documents of the factories. What storage was
told it reads back (`InMemoryStorage.read_write`).

Out of scope: `FrozenClock.advance`, and the builders of compute contexts and readouts.
-/

namespace Grabatus

open Grabatus.Lib Grabatus.Python

/-- What the in-memory ports hold: the objects of the storage, the calls of the webhook and the
dispatched jobs. -/
structure FakeWorld where
  objects : Dict String Bytes
  calls : List (Callback × JsonObject)
  dispatched : List (String × Bytes × UUID)

section

variable [UnicodeData]

/-! ## Security and secrets -/

/-- `AllowAllPolicy`. -/
def allowAllPolicy (σ : Type) : UriAuthorizationPort σ where
  authorize _ _ := pure ()

/-- `RejectAllPolicy`. -/
def rejectAllPolicy (σ : Type) : UriAuthorizationPort σ where
  authorize uri _ := Op.fail (serviceError .unauthorizedUriError
    ("RejectAllPolicy denies uri=" ++ pyRepr uri))

/-- `InMemorySecretsAdapter`. -/
def inMemorySecretsAdapter (σ : Type) (seed : Dict String Credentials) : SecretsPort σ where
  resolve ref :=
    match seed.get? ref.toUri with
    | some credentials => pure credentials
    | none => Op.fail (serviceError .credentialResolutionError
        ("in-memory secrets adapter has no entry for secret_ref=" ++ pyRepr ref.toUri))

/-! ## Storage -/

/-- `_DEFAULT_SUPPORTED_SCHEMES`. -/
def defaultSupportedSchemes : Finset String := {"gs", "s3", "file", "inline", "http", "https"}

namespace InMemoryStorage

/-- `_check_scheme`. -/
def checkScheme (supported : Finset String) (uri : String) : Except PyException Unit :=
  let scheme := lower (String.ofList
    ((Text.cutAt "://".toList uri.toList).elim uri.toList Prod.fst))
  if scheme ∈ supported then .ok ()
  else .error (serviceError .unsupportedSchemeError
    ("InMemoryStorage does not support scheme=" ++ pyRepr scheme ++ "; supported=" ++
      pyReprList (sorted supported) ++ "; uri=" ++ pyRepr uri))

/-- The object under a URI. -/
def readObject (uri : String) : PyOp FakeWorld Bytes := fun w =>
  match w.objects.get? uri with
  | some payload => (.ok payload, w)
  | none => (.error (serviceError .inputNotFoundError
      ("in-memory storage has no object at uri=" ++ pyRepr uri)), w)

omit [UnicodeData] in
/-- Put an object under a URI. -/
def writeObject (uri : String) (payload : Bytes) : PyOp FakeWorld WriteReceipt := fun w =>
  (.ok ⟨uri, payload.size, "in-memory"⟩, { w with objects := w.objects.set uri payload })

/-- `InMemoryStorage.read`. -/
def read (supported : Finset String) (spec : InputSpec) (_credentials : Credentials) :
    PyOp FakeWorld Bytes := do
  Op.ofExcept (checkScheme supported spec.sourceUri.text)
  readObject spec.sourceUri.text

/-- `InMemoryStorage.write`. -/
def write (supported : Finset String) (spec : OutputSpec) (payload : Bytes)
    (_credentials : Credentials) : PyOp FakeWorld WriteReceipt := do
  Op.ofExcept (checkScheme supported spec.destinationUri.text)
  writeObject spec.destinationUri.text payload

/-- A write that returned put the payload under its URI. -/
theorem write_ok {supported : Finset String} {spec : OutputSpec} {payload : Bytes}
    {c : Credentials} {receipt : WriteReceipt} {w w' : FakeWorld}
    (h : write supported spec payload c w = (.ok receipt, w')) :
    checkScheme supported spec.destinationUri.text = .ok () ∧
      w' = { w with objects := w.objects.set spec.destinationUri.text payload } := by
  unfold write at h
  rcases hcheck : checkScheme supported spec.destinationUri.text with e | ⟨⟩
  · rw [hcheck] at h
    exact absurd (congrArg Prod.fst h) nofun
  · rw [hcheck, Op.ofExcept_ok_bind] at h
    exact ⟨rfl, (Prod.mk.inj h).2.symm⟩

/-- **What was written under a URI is read from it.** -/
theorem read_write {supported : Finset String} {out : OutputSpec} {inp : InputSpec}
    {payload : Bytes} {c c' : Credentials} {receipt : WriteReceipt} {w w' : FakeWorld}
    (h : write supported out payload c w = (.ok receipt, w'))
    (huri : inp.sourceUri.text = out.destinationUri.text) :
    read supported inp c' w' = (.ok payload, w') := by
  obtain ⟨hcheck, rfl⟩ := write_ok h
  unfold read
  rw [huri, hcheck, Op.ofExcept_ok_bind]
  simp [readObject, Dict.get?_set]

end InMemoryStorage

/-- `InMemoryStorage`. -/
def inMemoryStorage (supported : Finset String) : StoragePort FakeWorld where
  read := InMemoryStorage.read supported
  write := InMemoryStorage.write supported

/-! ## Clock, webhook, jobs and observability -/

omit [UnicodeData] in
/-- `FrozenClock`. -/
def frozenClock (σ : Type) (now : Datetime) : ClockPort σ where
  now := pure now

omit [UnicodeData] in
/-- `RecordingWebhookNotifier`. -/
def recordingWebhookNotifier (defaultStatus : Int) (defaultBody : String) :
    WebhookPort FakeWorld where
  notify callback payload w :=
    (.ok ⟨defaultStatus, defaultBody⟩, { w with calls := w.calls ++ [(callback, payload)] })

omit [UnicodeData] in
/-- `InMemoryJobDispatcher`. -/
def inMemoryJobDispatcher : JobDispatcherPort FakeWorld where
  dispatch jobName payload requestId w :=
    (.ok ⟨"in-memory-" ++ zeroPad 4 (w.dispatched.length + 1), requestId⟩,
      { w with dispatched := w.dispatched ++ [(jobName, payload, requestId)] })

omit [UnicodeData] in
/-- `NullObservability`. -/
def nullObservability (σ : Type) : ObservabilityPort σ where
  enter _ _ := pure ()
  exit _ := pure ()
  metric _ _ _ := pure ()

variable [JsonText]

/-- `InMemoryMessagePort.decode`. -/
def InMemoryMessagePort.decode (raw : RawMessage) : Except PyException JsonObject := do
  let decoded ← loadsUtf8 raw.payload
  match decoded with
  | .obj o => .ok o
  | j => .error (valueError
      ("InMemoryMessagePort.decode expected dict, got type=" ++ typeName j))

/-- `InMemoryMessagePort`. -/
def inMemoryMessagePort (σ : Type) : MessagePort σ where
  decode raw := Op.ofExcept (InMemoryMessagePort.decode raw)

end

/-! ## Factories -/

/-- `make_envelope`, as its dump. -/
def makeEnvelope (protocolVersion : String) : Json :=
  .obj [("protocol_version", .str protocolVersion),
    ("request_id", .str "a3f9c21e-bf38-4e75-9a2f-c89b6c3f2d12"),
    ("created_at", .str "2026-04-25T12:00:00Z"), ("origin", .str "web")]

/-- `make_input_spec`, with its credential. -/
def makeInputSpec (role sourceUri : String) (credentialRef : Json) : Json :=
  .obj [("role", .str role), ("source_uri", .str sourceUri), ("format", .str "xlsx"),
    ("format_hints", .obj [("format", .str "xlsx"), ("sheet", .str "Dados")]),
    ("compression", .str "none"), ("credential_ref", credentialRef)]

/-- `make_output_spec`. -/
def makeOutputSpec (role destinationUri : String) : Json :=
  .obj [("role", .str role), ("destination_uri", .str destinationUri), ("format", .str "json"),
    ("format_hints", .obj [("format", .str "json")]), ("compression", .str "none")]

/-- `make_opaque_contract`, without parameters, as a document. -/
def makeContract (protocolVersion : String) (inputs outputs : List Json) : JsonObject :=
  [("envelope", makeEnvelope protocolVersion),
    ("identity", .obj [("user_id", .str "999"), ("tenant_id", .str "grabatus")]),
    ("references", .obj [("parameter_id", .str "p-1"), ("result_id", .str "r-1")]),
    ("service", .obj [("name", .str "sample"), ("version", .str "1.0.0")]),
    ("inputs", .arr inputs), ("outputs", .arr outputs),
    ("callback", .obj [("url", .str "https://grabatus.com/webhook"),
      ("auth_scheme", .str "jwt_hs256")]),
    ("parameters", .obj [])]

/-! ## The backend -/

/-- `FakeComputeBackend`: the roles it declares, and what it returns. -/
structure FakeComputeBackend where
  requiredInputRoles : Finset String
  optionalInputRoles : Finset String
  outputRoles : Finset String
  outputs : Dict String Bytes
  metadata : Dict String Json
  emitReadout : Bool
  /-- The JSON of `make_model_readout` over the identity blocks of the context. -/
  makeModelReadout : ComputeContext → Except PyException Bytes

namespace FakeComputeBackend

/-- `_resolved_outputs`: the readout of the run joins the outputs, unless they have one or none
is wanted. -/
def resolvedOutputs (b : FakeComputeBackend) (context : ComputeContext) :
    Except PyException (Dict String Bytes) :=
  if b.emitReadout = false ∨ b.outputs.get? readoutOutputRole ≠ none then .ok b.outputs
  else (b.makeModelReadout context).map (b.outputs.set readoutOutputRole)

/-- The backend as a port. -/
def port (b : FakeComputeBackend) (σ P : Type) : ComputeBackendPort σ P where
  requiredInputRoles := b.requiredInputRoles
  optionalInputRoles := b.optionalInputRoles
  outputRoles := b.outputRoles
  run _ _ context := Op.ofExcept ((b.resolvedOutputs context).map (⟨·, b.metadata⟩))

end FakeComputeBackend

section

variable [UnicodeData]

/-- A runner over the in-memory ports. -/
def fakeRunner (message : MessagePort FakeWorld) (authorizer : UriAuthorizationPort FakeWorld)
    (secrets : Dict String Credentials) (backend : FakeComputeBackend) (now : Datetime)
    (mode : RuntimeMode) : ServiceRunner FakeWorld OpaqueParameters where
  contractType := ContractType.opaqueService
  storage := inMemoryStorage defaultSupportedSchemes
  message
  webhook := recordingWebhookNotifier 200 "ok"
  compute := backend.port _ _
  secrets := inMemorySecretsAdapter _ secrets
  authorizer
  observability := nullObservability _
  clock := frozenClock _ now
  jobDispatcher := inMemoryJobDispatcher
  schemeAllowlist := ⟨{"gs"}⟩
  mode
  workerJobName := none

end

/-! ## A sample run -/

namespace Sample

/-- The input of the factories, with a credential. -/
def input (credentialRef : Json) : Json :=
  makeInputSpec "timeseries" "gs://gbt-storage-grabatus/user_999/in.xlsx" credentialRef

/-- The output of the factories. -/
def output : Json :=
  makeOutputSpec "result_json" "gs://gbt-storage-grabatus/user_999/out.json"

/-- The contract of the factories. -/
def contract : JsonObject := makeContract "1.0" [input .null] [output]

/-- The time the clock is frozen at. -/
def now : Datetime := ⟨⟨2026, 5, 1⟩, 9, 30, 0, 0, some 0⟩

/-- What a service says of itself. -/
def knowledge : Json :=
  .obj [("one_liner", .str "o"), ("what_it_does", .str "w"), ("problem_solved", .str "p"),
    ("when_to_use", .arr [.str "u"]), ("when_not_to_use", .arr [.str "n"]),
    ("personas", .arr [.obj [("role", .str "r"), ("pains", .arr [.str "p"])]]),
    ("workflow", .arr [.obj [("order", .int 1), ("what_the_user_does", .str "d"),
      ("what_the_llm_should_say", .str "s")]]),
    ("input_requirements", .arr [.obj [("column", .str "c"), ("required", .bool true),
      ("business_meaning", .str "m"), ("example", .str "e")]]),
    ("interpretation_playbook", .arr [.obj [("observed_situation", .str "s"),
      ("what_it_means", .str "m"), ("what_to_recommend", .str "r")]]),
    ("glossary", .arr [.obj [("technical_term", .str "t"), ("client_language", .str "l")]]),
    ("limitations", .arr [.str "l"])]

/-- An artifact of a readout. -/
def artifact (role uri : String) : Json :=
  .obj [("role", .str role), ("uri", .str uri), ("format", .str "json"),
    ("description", .str "d"),
    ("fields", .arr [.obj [("name", .str "n"), ("type", .str "number"), ("meaning", .str "m"),
      ("read_as", .str "r")]])]

/-- A digest of an input. -/
def digest (role : String) : Json :=
  .obj [("role", .str role), ("sha256", .str (String.ofList (List.replicate 64 'a')))]

/-- A readout of the contract, over its artifacts and its digests. -/
def readoutOf (artifacts digests : List Json) : Json :=
  .obj [("generated_at", .str "2026-05-01T09:30:00Z"),
    ("request", .obj [("request_id", .str "a3f9c21e-bf38-4e75-9a2f-c89b6c3f2d12"),
      ("result_id", .str "r-1"), ("parameter_id", .str "p-1"), ("tenant_id", .str "grabatus"),
      ("origin", .str "web")]),
    ("service", .obj [("name", .str "sample"), ("version", .str "1.0.0")]),
    ("service_knowledge", knowledge),
    ("model", .obj [("display_name", .str "d"), ("family", .str "simulation"),
      ("paradigm", .str "heuristic"), ("objective", .str "o"),
      ("assumptions", .arr [.obj [("statement", .str "s"), ("violation_impact", .str "v"),
        ("checked", .bool true)]]),
      ("hyperparameters", .obj []), ("not_designed_for", .arr [.str "n"])]),
    ("data", .obj [("observation_count", .int 1), ("granularity", .str "g"),
      ("entities", .arr [.obj [("label", .str "l"), ("count", .int 1)]])]),
    ("artifacts", .arr artifacts),
    ("overall_quality", .obj [("status", .str "pass"), ("summary", .str "s")]),
    ("explanation_guide", .obj [("audience", .str "a"), ("summary_for_llm", .str "s"),
      ("what_was_solved", .str "w"), ("must_not_claim", .arr [.str "c"]),
      ("guardrails", .arr (baseGuardrails.map .str))]),
    ("reproducibility", .obj [("compute_duration_seconds", .int 47),
      ("input_digests", .arr digests), ("library_versions", .obj [("m", .str "1")])])]

/-- A readout that describes another service's artefact. -/
def readout : Json := readoutOf [artifact "rules_json" "gs://b/r.json"] [digest "t"]

/-- The readout's text, which the leaf types read. -/
def readoutBytes : Bytes := encodeUtf8 (String.ofList (Leaves.render readout))

/-- The leaf types of the sample: its one document of bytes is the readout. -/
@[reducible] def pydantic : Pydantic :=
  { Leaves.pydantic [] with fromJson := fun _ => some readout }

/-- The JSON text of the sample: of the contract. -/
@[reducible] def jsonText : JsonText := Leaves.jsonText [.obj contract]

/-- The storage holds the input. -/
def world : FakeWorld where
  objects := Dict.empty.set "gs://gbt-storage-grabatus/user_999/in.xlsx" (encodeUtf8 "data")
  calls := []
  dispatched := []

/-- A backend that declares `result_json`, and a readout of the contract. -/
def backend (outputs : Dict String Bytes) (emitReadout : Bool) : FakeComputeBackend where
  requiredInputRoles := {"timeseries"}
  optionalInputRoles := ∅
  outputRoles := {"result_json"}
  outputs
  metadata := Dict.empty
  emitReadout
  makeModelReadout _ := .ok readoutBytes

/-- The runner of the sample; any message is the contract. -/
def runner [UnicodeData] (authorizer : UriAuthorizationPort FakeWorld)
    (outputs : Dict String Bytes) (emitReadout : Bool) (mode : RuntimeMode) :
    ServiceRunner FakeWorld OpaqueParameters :=
  fakeRunner ⟨fun _ => pure contract⟩ authorizer Dict.empty (backend outputs emitReadout) now mode

/-- The outputs the contract declares. -/
def outputs : Dict String Bytes := Dict.empty.set "result_json" (encodeUtf8 "{}")

/-- A message; the port does not look at it. -/
def raw : RawMessage := ⟨encodeUtf8 "{}"⟩

/-! ### Several inputs and outputs -/

/-- A contract of protocol 1.1 with two inputs, one of them with a credential, and three outputs;
an input and an output share a role. -/
def wideContract : JsonObject :=
  makeContract "1.1"
    [input .null, makeInputSpec "rules_json" "gs://gbt-storage-grabatus/user_999/rules.xlsx"
      (.str "secret://gsm/key")]
    [output, makeOutputSpec "rules_json" "gs://gbt-storage-grabatus/user_999/rules.json",
      makeOutputSpec readoutOutputRole "gs://gbt-storage-grabatus/user_999/readout.json"]

/-- A readout that describes the outputs of that contract and digests its inputs. -/
def wideReadout : Json :=
  readoutOf [artifact "result_json" "gs://gbt-storage-grabatus/user_999/out.json",
      artifact "rules_json" "gs://gbt-storage-grabatus/user_999/rules.json"]
    [digest "timeseries", digest "rules_json"]

/-- The leaf types over that readout. -/
@[reducible] def widePydantic : Pydantic :=
  { Leaves.pydantic [] with fromJson := fun _ => some wideReadout }

/-- The storage holds both inputs. -/
def wideWorld : FakeWorld :=
  { world with
    objects :=
      world.objects.set "gs://gbt-storage-grabatus/user_999/rules.xlsx" (encodeUtf8 "rules") }

/-- The runner of that contract, over a backend that makes its outputs and the readout. -/
def wideRunner [UnicodeData] : ServiceRunner FakeWorld OpaqueParameters :=
  fakeRunner ⟨fun _ => pure wideContract⟩ (allowAllPolicy _)
    (Dict.empty.set "secret://gsm/key" ⟨encodeUtf8 "token", "Bearer"⟩)
    { backend (outputs.set "rules_json" (encodeUtf8 "[]")) true with
      requiredInputRoles := {"timeseries", "rules_json"}
      outputRoles := {"result_json", "rules_json"}
      makeModelReadout := fun _ => .ok (encodeUtf8 (String.ofList (Leaves.render wideReadout))) }
    now .monolith

end Sample

/-- The status of a run that returned. -/
def statusOf? [UnicodeData] {P : Type} (result : Except PyException (ExecutionResult P)) :
    Option Status := result.toOption.map ExecutionResult.status

theorem statusOf?_eq_some [UnicodeData] {P : Type}
    {result : Except PyException (ExecutionResult P)} {status : Status} :
    statusOf? result = some status ↔ ∃ res, result = .ok res ∧ res.status = status := by
  rcases result with e | res <;> simp [statusOf?, Except.toOption]

end Grabatus

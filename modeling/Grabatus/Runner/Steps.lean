import Grabatus.Contract.Opaque
import Grabatus.Ports.Ports
import Grabatus.Security.UriParser

/-!
# The steps of the pipeline

Model of `runner/steps.py`, and of `CredentialBundle` and `WriteReceipts` (`runner/state.py`). The
step functions of the runner: each takes what the steps before it made and talks to one port. A
dictionary keyed by role hands every value on, so a lookup may raise a `KeyError`.

Out of scope: `MappingProxyType`; the mappings are values here, and nobody can change them.
-/

namespace Grabatus

open Grabatus.Lib Grabatus.Python

variable [UnicodeData] [Pydantic] {σ P : Type}

/-- A contract class: its name, and the validator and the dump of its parameters. -/
structure ContractType (P : Type) where
  name : String
  validateParameters : Json → Validated P
  dumpParameters : P → Except PyException Json

/-- `OpaqueServiceContract` as a class. -/
def ContractType.opaqueService : ContractType OpaqueParameters where
  name := "OpaqueServiceContract"
  validateParameters := OpaqueParameters.validate
  dumpParameters p := .ok (.obj p.entries)

/-- `d[role]`. -/
def getItem {α : Type} (d : Dict String α) (role : String) : Except PyException α :=
  match d.get? role with
  | some a => .ok a
  | none => .error (.raised .keyError (pyRepr role))

/-- `Credentials(token=b"", token_type=_NULL_TOKEN_TYPE)`. -/
def nullCredentials : Credentials := ⟨ByteArray.empty, "none"⟩

/-- `CredentialBundle`: credentials per input and output role. -/
structure CredentialBundle where
  inputs : Dict String Credentials
  outputs : Dict String Credentials

/-- `WriteReceipts`: receipts by output role. -/
structure WriteReceipts where
  byRole : Dict String WriteReceipt
  deriving DecidableEq

namespace Steps

/-! ## Decode, validate, authorize -/

/-- Step 1: the broker envelope to a contract document. -/
def decode (raw : RawMessage) (message : MessagePort σ) : Step σ P JsonObject :=
  Traced.call (message.decode raw) (.decode raw)

/-- `payload["envelope"]["protocol_version"]`, where it is a string. -/
def declaredVersion (payload : JsonObject) : Option String :=
  match Dict.lookup "envelope" payload with
  | some (.obj envelope) =>
    match Dict.lookup "protocol_version" envelope with
    | some (.str version) => some version
    | _ => none
  | _ => none

/-- Step 2: the document against the contract class. A protocol version out of range has an
error of its own. -/
def validate (payload : JsonObject) (contractType : ContractType P) :
    Except PyException (BaseServiceContract P) :=
  match (declaredVersion payload).filter (· ∉ supportedProtocolVersions) with
  | some version => .error (serviceError .unsupportedProtocolVersionError
      ("unsupported protocol_version=" ++ pyRepr version ++ "; supported=" ++
        pyReprList (sorted supportedProtocolVersions)))
  | none =>
    match BaseServiceContract.validate contractType.validateParameters (.obj payload) with
    | .ok contract => .ok contract
    | .errors es => .error (serviceError .invalidContractError
        ("contract failed Pydantic validation: " ++ Pydantic.errorText contractType.name es))

/-- The document declares no version out of range. -/
def VersionSupported (document : JsonObject) : Prop :=
  (declaredVersion document).filter (· ∉ supportedProtocolVersions) = none

theorem validate_eq_ok {document : JsonObject} {contractType : ContractType P}
    {contract : BaseServiceContract P} : validate document contractType = .ok contract ↔
      VersionSupported document ∧
        BaseServiceContract.validate contractType.validateParameters (.obj document) =
          .ok contract := by
  unfold validate VersionSupported
  split
  · rename_i version hversion
    exact ⟨nofun, fun h => absurd (hversion.symm.trans h.1) nofun⟩
  · rename_i hversion
    split
    · rename_i c hc
      rw [hc]
      exact ⟨fun h => ⟨hversion, congrArg Validated.ok (Except.ok.inj h)⟩,
        fun h => congrArg Except.ok (Validated.ok.inj h.2)⟩
    · rename_i es hes
      rw [hes]
      exact ⟨nofun, fun h => nomatch h.2⟩

/-- A document with a supported version that is no contract is an invalid one. -/
theorem validate_invalid {document : JsonObject} {contractType : ContractType P}
    (hversion : VersionSupported document)
    (hinvalid : ∀ contract : BaseServiceContract P,
      BaseServiceContract.validate contractType.validateParameters (.obj document) ≠
        .ok contract) :
    ∃ message, validate document contractType =
      .error (serviceError .invalidContractError message) := by
  unfold validate
  rw [show (declaredVersion document).filter _ = none from hversion]
  rcases hvalidate : BaseServiceContract.validate contractType.validateParameters
    (.obj document) with contract | es
  · exact absurd hvalidate (hinvalid contract)
  · exact ⟨_, rfl⟩

theorem versionSupported_dump (contract : OpaqueServiceContract) :
    VersionSupported contract.dumpObject := by
  have hdeclared : declaredVersion contract.dumpObject =
      some contract.envelope.protocolVersion.name := rfl
  unfold VersionSupported
  rw [hdeclared]
  cases contract.envelope.protocolVersion <;> decide

omit [Pydantic] in
/-- The two checks on one URI. -/
def authorizeUri (authorizer : UriAuthorizationPort σ) (schemeAllowlist : SchemeAllowlist)
    (identity : Identity) (uri : String) : Step σ P Unit := do
  Traced.lift (schemeAllowlist.check uri)
  Traced.call (authorizer.authorize uri identity) (.authorize uri identity)

omit [Pydantic] in
/-- Step 3: `SchemeAllowlist` and `UriAuthorizationPort` on every URI. -/
def authorize (contract : BaseServiceContract P) (authorizer : UriAuthorizationPort σ)
    (schemeAllowlist : SchemeAllowlist) : Step σ P Unit := do
  Traced.each (fun s => authorizeUri authorizer schemeAllowlist contract.identity s.sourceUri.text)
    contract.inputs.toList
  Traced.each
    (fun s => authorizeUri authorizer schemeAllowlist contract.identity s.destinationUri.text)
    contract.outputs.toList

/-! ## Credentials, inputs, compute -/

omit [UnicodeData] [Pydantic] in
/-- One entry of `_resolve_for_specs`. -/
def resolveRef (secrets : SecretsPort σ) : Option SecretRef → Step σ P Credentials
  | none => pure nullCredentials
  | some ref => Traced.call (secrets.resolve ref) (.resolve ref)

omit [Pydantic] in
/-- Step 4: every `credential_ref` to `Credentials`. -/
def resolveCredentials (contract : BaseServiceContract P) (secrets : SecretsPort σ) :
    Step σ P CredentialBundle := do
  let inputs ← Traced.collect (fun s : InputSpec => s.role.val)
    (fun s => resolveRef secrets s.credentialRef) contract.inputs.toList
  let outputs ← Traced.collect (fun s : OutputSpec => s.role.val)
    (fun s => resolveRef secrets s.credentialRef) contract.outputs.toList
  return ⟨inputs, outputs⟩

omit [Pydantic] in
/-- The read of one input. -/
def loadInput (credentials : CredentialBundle) (storage : StoragePort σ) (spec : InputSpec) :
    Step σ P Bytes := do
  let c ← Traced.lift (getItem credentials.inputs spec.role.val)
  Traced.call (storage.read spec c) (.read spec c)

omit [Pydantic] in
/-- Step 5: read each input. -/
def loadInputs (contract : BaseServiceContract P) (credentials : CredentialBundle)
    (storage : StoragePort σ) : Step σ P LoadedInputs := do
  let byRole ← Traced.collect (fun s : InputSpec => s.role.val)
    (loadInput credentials storage) contract.inputs.toList
  return ⟨byRole⟩

omit [Pydantic] in
/-- Step 6a: stamp the run. -/
def makeComputeContext (contract : BaseServiceContract P) (clock : ClockPort σ) :
    Step σ P ComputeContext := do
  let now ← Traced.call clock.now .now
  return ComputeContext.ofContract contract.toContractFields now

omit [Pydantic] in
/-- Step 6: the backend. -/
def runCompute (contract : BaseServiceContract P) (inputs : LoadedInputs)
    (compute : ComputeBackendPort σ P) (context : ComputeContext) : Step σ P ComputeResult :=
  Traced.call (compute.run inputs contract.parameters context)
    (.run inputs contract.parameters context)

/-! ## The readout gate -/

/-- `repr` of a `ReadoutRequest`. -/
def reprRequest (r : ReadoutRequest) : String :=
  "ReadoutRequest(request_id=" ++ pyRepr r.requestId.val ++ ", result_id=" ++
    pyRepr r.resultId.val ++ ", parameter_id=" ++ pyRepr r.parameterId.val ++ ", tenant_id=" ++
      pyRepr r.tenantId.val ++ ", origin=" ++ pyRepr r.origin.name ++ ")"

/-- `repr` of a `ReadoutService`. -/
def reprService (s : ReadoutService) : String :=
  "ReadoutService(name=" ++ pyRepr s.name.val ++ ", version=" ++ pyRepr s.version.val ++ ")"

/-- A validation outside any `except` clause: its `ValidationError`, a `ValueError`, comes out. -/
def orRaise {α : Type} (model : String) : Validated α → Except PyException α
  | .ok a => .ok a
  | .errors es => .error (valueError (Pydantic.errorText model es))

/-- `_check_readout_identity`. -/
def checkReadoutIdentity (readout : ModelReadout) (context : ComputeContext) :
    Except PyException Unit := do
  let request ← orRaise "ReadoutRequest" context.readoutRequest
  let service ← orRaise "ReadoutService" context.readoutService
  if readout.request = request ∧ readout.service = service then .ok ()
  else .error (serviceError .readoutMismatchError
    (pyRepr readoutOutputRole ++ " describes another run: expected request=" ++
      reprRequest request ++ " service=" ++ reprService service ++ ", got request=" ++
        reprRequest readout.request ++ " service=" ++ reprService readout.service))

/-- Step 7: refuse a result without a readout of this run. -/
def validateReadout (result : ComputeResult) (context : ComputeContext) :
    Except PyException ModelReadout :=
  match result.byRole.get? readoutOutputRole with
  | none => .error (serviceError .missingReadoutError
      ("compute produced no " ++ pyRepr readoutOutputRole ++ " output; got roles " ++
        pyReprList (sorted result.byRole.keys.toFinset)))
  | some payload =>
    match ModelReadout.validateJson payload with
    | .errors es => .error (serviceError .invalidReadoutError
        (pyRepr readoutOutputRole ++ " does not satisfy the readout schema: " ++
          Pydantic.errorText "ModelReadout" es))
    | .ok readout => do
      checkReadoutIdentity readout context
      return readout

/-! ## Outputs and the webhook -/

omit [Pydantic] in
/-- The write of one output. -/
def saveOutput (credentials : CredentialBundle) (result : ComputeResult) (storage : StoragePort σ)
    (spec : OutputSpec) : Step σ P WriteReceipt := do
  let payload ← Traced.lift (getItem result.byRole spec.role.val)
  let c ← Traced.lift (getItem credentials.outputs spec.role.val)
  Traced.call (storage.write spec payload c) (.write spec payload c)

omit [Pydantic] in
/-- Step 7: write each declared output. -/
def saveOutputs (contract : BaseServiceContract P) (credentials : CredentialBundle)
    (result : ComputeResult) (storage : StoragePort σ) : Step σ P WriteReceipts := do
  let byRole ← Traced.collect (fun s : OutputSpec => s.role.val)
    (saveOutput credentials result storage) contract.outputs.toList
  return ⟨byRole⟩

omit [UnicodeData] [Pydantic] in
/-- Step 8: the platform's webhook. -/
def notifyWebhook (callback : Callback) (payload : JsonObject) (webhook : WebhookPort σ) :
    Step σ P WebhookAck :=
  Traced.call (webhook.notify callback payload) (.notify callback payload)

/-! ## What step 3 decides -/

omit [Pydantic] in
/-- The URIs step 3 looks at, in its order. -/
def contractUris (c : ContractFields P) : List String :=
  c.inputs.toList.map (fun s => s.sourceUri.text) ++
    c.outputs.toList.map fun s => s.destinationUri.text

omit [Pydantic] in
/-- From world `s`, every URI passes both checks, and the last reply leaves `s'`. -/
inductive UrisPass (authorizer : UriAuthorizationPort σ) (schemeAllowlist : SchemeAllowlist)
    (identity : Identity) : List String → σ → σ → Prop
  | nil (s : σ) : UrisPass authorizer schemeAllowlist identity [] s s
  | cons {uri : String} {uris : List String} {s s' s'' : σ}
      (hcheck : schemeAllowlist.check uri = .ok ())
      (hauth : authorizer.authorize uri identity s = (.ok (), s'))
      (hrest : UrisPass authorizer schemeAllowlist identity uris s' s'') :
      UrisPass authorizer schemeAllowlist identity (uri :: uris) s s''

omit [Pydantic] in
/-- From world `s`, the first URI that does not pass both checks raises `e`. -/
inductive UrisFail (authorizer : UriAuthorizationPort σ) (schemeAllowlist : SchemeAllowlist)
    (identity : Identity) : List String → σ → PyException → Prop
  | scheme {uri : String} {uris : List String} {s : σ} {e : PyException}
      (hcheck : schemeAllowlist.check uri = .error e) :
      UrisFail authorizer schemeAllowlist identity (uri :: uris) s e
  | denied {uri : String} {uris : List String} {s s' : σ} {e : PyException}
      (hcheck : schemeAllowlist.check uri = .ok ())
      (hauth : authorizer.authorize uri identity s = (.error e, s')) :
      UrisFail authorizer schemeAllowlist identity (uri :: uris) s e
  | later {uri : String} {uris : List String} {s s' : σ} {e : PyException}
      (hcheck : schemeAllowlist.check uri = .ok ())
      (hauth : authorizer.authorize uri identity s = (.ok (), s'))
      (hrest : UrisFail authorizer schemeAllowlist identity uris s' e) :
      UrisFail authorizer schemeAllowlist identity (uri :: uris) s e

section

variable {authorizer : UriAuthorizationPort σ} {schemeAllowlist : SchemeAllowlist}
  {identity : Identity}

omit [Pydantic] in
/-- Where every URI passes none fails, and the world left is determined. -/
theorem UrisPass.unique {uris : List String} {s s' : σ}
    (h : UrisPass authorizer schemeAllowlist identity uris s s') :
    (∀ s'', UrisPass authorizer schemeAllowlist identity uris s s'' → s'' = s') ∧
      ∀ e, ¬ UrisFail authorizer schemeAllowlist identity uris s e := by
  induction h with
  | nil s => exact ⟨fun _ h => by cases h; rfl, fun _ h => nomatch h⟩
  | @cons uri uris s s' s'' hcheck hauth hrest ih =>
    constructor
    · rintro t (_ | @⟨_, _, _, t', _, -, hauth', hrest'⟩)
      obtain ⟨-, rfl⟩ := Prod.mk.inj (hauth.symm.trans hauth')
      exact ih.1 t hrest'
    · rintro e (hcheck' | ⟨-, hauth'⟩ | @⟨_, _, _, t', _, -, hauth', hrest'⟩)
      · exact absurd (hcheck.symm.trans hcheck') nofun
      · exact absurd (Prod.mk.inj (hauth.symm.trans hauth')).1 nofun
      · obtain ⟨-, rfl⟩ := Prod.mk.inj (hauth.symm.trans hauth')
        exact ih.2 e hrest'

omit [Pydantic] in
/-- The checks on one URI: both pass, the allowlist refuses it, or the authorizer does. -/
theorem authorizeUri_cases (uri : String) (s : σ) :
    (∃ s', schemeAllowlist.check uri = .ok () ∧
      authorizer.authorize uri identity s = (.ok (), s') ∧
      authorizeUri authorizer schemeAllowlist identity uri s =
        (⟨.ok (), s', [.authorize uri identity (.ok ())]⟩ : Outcome (Event P) σ _ Unit)) ∨
    (∃ e, schemeAllowlist.check uri = .error e ∧
      authorizeUri authorizer schemeAllowlist identity uri s =
        (⟨.error e, s, []⟩ : Outcome (Event P) σ _ Unit)) ∨
    ∃ e s', schemeAllowlist.check uri = .ok () ∧
      authorizer.authorize uri identity s = (.error e, s') ∧
      authorizeUri authorizer schemeAllowlist identity uri s =
        (⟨.error e, s', [.authorize uri identity (.error e)]⟩ : Outcome (Event P) σ _ Unit) := by
  unfold authorizeUri
  rcases hcheck : schemeAllowlist.check uri with e | ⟨⟩
  · exact .inr (.inl ⟨e, rfl, Traced.run_bind_error _ (Traced.run_lift _ _)⟩)
  · rw [Traced.run_bind_ok _ (Traced.run_lift _ _)]
    rcases hauth : authorizer.authorize uri identity s with ⟨e | ⟨⟩, s'⟩
    · exact .inr (.inr ⟨e, s', rfl, rfl, by simp [Traced.call, hauth]⟩)
    · exact .inl ⟨s', rfl, rfl, by simp [Traced.call, hauth]⟩

omit [Pydantic] in
/-- Every URI that passed is of an allowed scheme. -/
theorem UrisPass.checks {uris : List String} {s s' : σ}
    (h : UrisPass authorizer schemeAllowlist identity uris s s') :
    ∀ uri ∈ uris, schemeAllowlist.check uri = .ok () := by
  induction h with
  | nil => exact fun uri huri => absurd huri List.not_mem_nil
  | cons hcheck _ _ ih =>
    intro uri huri
    rcases List.mem_cons.mp huri with rfl | huri
    · exact hcheck
    · exact ih uri huri

omit [Pydantic] in
/-- The loop over the URIs ends the one way or the other. -/
theorem authorizeUris_cases (authorizer : UriAuthorizationPort σ)
    (schemeAllowlist : SchemeAllowlist) (identity : Identity) : ∀ (uris : List String) (s : σ),
    (∃ s' t, UrisPass authorizer schemeAllowlist identity uris s s' ∧
      Traced.each (authorizeUri authorizer schemeAllowlist identity) uris s =
        (⟨.ok (), s', t⟩ : Outcome (Event P) σ PyException Unit)) ∨
    ∃ e s' t, UrisFail authorizer schemeAllowlist identity uris s e ∧
      Traced.each (authorizeUri authorizer schemeAllowlist identity) uris s =
        (⟨.error e, s', t⟩ : Outcome (Event P) σ PyException Unit)
  | [], s => .inl ⟨s, [], .nil s, rfl⟩
  | uri :: uris, s => by
    unfold Traced.each
    rcases authorizeUri_cases (P := P) uri s with
      ⟨s', hcheck, hauth, hrun⟩ | ⟨e, hcheck, hrun⟩ | ⟨e, s', hcheck, hauth, hrun⟩
    · rw [Traced.run_bind_ok _ hrun]
      rcases authorizeUris_cases authorizer schemeAllowlist identity uris s' with
        ⟨s'', t, hpass, hrest⟩ | ⟨e, s'', t, hfail, hrest⟩
      · exact .inl ⟨s'', _, .cons hcheck hauth hpass, by rw [hrest]⟩
      · exact .inr ⟨e, s'', _, .later hcheck hauth hfail, by rw [hrest]⟩
    · exact .inr ⟨e, s, _, .scheme hcheck, Traced.run_bind_error _ hrun⟩
    · exact .inr ⟨e, s', _, .denied hcheck hauth, Traced.run_bind_error _ hrun⟩

end

omit [Pydantic] in
/-- Step 3 is one loop over the URIs of the contract. -/
theorem authorize_eq_each (contract : BaseServiceContract P)
    (authorizer : UriAuthorizationPort σ) (schemeAllowlist : SchemeAllowlist) :
    (authorize contract authorizer schemeAllowlist : Step σ P Unit) =
      Traced.each (authorizeUri authorizer schemeAllowlist contract.identity)
        (contractUris contract.toContractFields) := by
  unfold contractUris
  rw [Traced.each_append, Traced.each_map, Traced.each_map]
  rfl

end Steps

end Grabatus

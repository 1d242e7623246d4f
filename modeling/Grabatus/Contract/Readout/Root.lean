import Grabatus.Contract.Readout.Narrative

/-!
# `ModelReadout`

Model of `contract/readout/root.py`. The artefact a run must emit. Its `request` and `service`
blocks say which run it describes; the constraints on them are copied from the contract's own
models. A readout carries what its model validators check: an aware timestamp, distinct finding
ids, distinct artifact roles, and a narrative that names findings only.

Out of scope: the texts of Pydantic's own errors.
-/

namespace Grabatus

open Grabatus.Lib Grabatus.Python

/-- `READOUT_OUTPUT_ROLE`. -/
def readoutOutputRole : String := "model_readout"

section

variable [UnicodeData] [Pydantic]

/-! ## Model and reproducibility -/

/-- `HyperparameterValue`: a scalar, kept in its own type. -/
inductive HyperparameterValue where
  | bool (b : Bool)
  | int (n : Int)
  | float (x : Double)
  | str (s : Note itemMaxLength)
  | none

omit [UnicodeData] [Pydantic] in
/-- The strict union of a hyperparameter value. -/
def HyperparameterValue.validate : Json → Validated HyperparameterValue
  | .bool b => .ok (.bool b)
  | .int n => .ok (.int n)
  | .float x => .ok (.float x)
  | .null => .ok .none
  | .str s => HyperparameterValue.str <$> Lib.str _ (.str s)
  | _ => .fail (.leaf "union")

/-- `Assumption`: a stated assumption and the cost of it being wrong. -/
structure Assumption where
  statement : Text 500
  violationImpact : Text 500
  checked : Bool

/-- `Prior`: a prior distribution. -/
structure Prior where
  parameter : Text 120
  distribution : Text 200
  rationale : Text 500

omit [UnicodeData] in
/-- `Assumption.model_validate`. -/
def Assumption.validate : Json → Validated Assumption :=
  model ["statement", "violation_impact", "checked"] fun o =>
    Assumption.mk <$> field o "statement" (str _) <*> field o "violation_impact" (str _) <*>
      field o "checked" (leaf "bool" Pydantic.bool)

omit [UnicodeData] [Pydantic] in
/-- `Prior.model_validate`. -/
def Prior.validate : Json → Validated Prior :=
  model ["parameter", "distribution", "rationale"] fun o =>
    Prior.mk <$> field o "parameter" (str _) <*> field o "distribution" (str _) <*>
      field o "rationale" (str _)

/-- A dictionary of a bounded size. -/
abbrev BoundedDict (lo hi : Nat) (α β : Type) : Type :=
  {d : Dict α β // lo ≤ d.entries.length ∧ d.entries.length ≤ hi}

/-- `ModelDescription`: what was fitted. -/
structure ModelDescription where
  displayName : Text 200
  family : ModelFamily
  paradigm : Paradigm
  objective : Text 1000
  formulation : Option (Note 500)
  assumptions : Items 1 maxItems Assumption
  hyperparameters : BoundedDict 0 50 (Note 120) HyperparameterValue
  priors : Items 0 maxItems Prior
  notDesignedFor : Items 1 maxItems (Note itemMaxLength)

omit [UnicodeData] in
/-- `ModelDescription.model_validate`. -/
def ModelDescription.validate : Json → Validated ModelDescription :=
  model ["display_name", "family", "paradigm", "objective", "formulation", "assumptions",
      "hyperparameters", "priors", "not_designed_for"] fun o =>
    ModelDescription.mk <$> field o "display_name" (str _) <*>
      field o "family" (literal ModelFamily.values) <*>
      field o "paradigm" (literal Paradigm.values) <*> field o "objective" (str _) <*>
      fieldOr o "formulation" none (nullable (str _)) <*>
      field o "assumptions" (items 1 maxItems Assumption.validate) <*>
      field o "hyperparameters" (dict 0 50 (str _) HyperparameterValue.validate) <*>
      fieldOr o "priors" Items.nil (items 0 maxItems Prior.validate) <*>
      field o "not_designed_for" (items 1 maxItems (str _))

/-- `^[0-9a-f]{64}$`. -/
def sha256Pattern (s : String) : Bool :=
  s.toList.length == 64 && s.toList.all fun c => c.isDigit || decide ('a' ≤ c ∧ c ≤ 'f')

/-- `InputDigest`: the hash of one input. -/
structure InputDigest where
  role : Str roleSpec
  sha256 : Str { pattern := some sha256Pattern }

omit [UnicodeData] [Pydantic] in
/-- `InputDigest.model_validate`. -/
def InputDigest.validate : Json → Validated InputDigest :=
  model ["role", "sha256"] fun o =>
    InputDigest.mk <$> field o "role" (str _) <*> field o "sha256" (str _)

/-- The digests with their validator `_digest_roles_are_unique`. -/
abbrev InputDigests : Type :=
  {ds : Items 1 20 InputDigest // duplicated (ds.toList.map fun d => d.role.val) = []}

omit [Pydantic] in
/-- The validator of the `input_digests` field. -/
def InputDigests.validate (j : Json) : Validated InputDigests :=
  (items 1 20 InputDigest.validate j).andThen fun ds =>
    require (duplicated (ds.toList.map fun d => d.role.val) = [])
      ("input_digest roles must be unique, got duplicates=" ++
        pyReprList (duplicated (ds.toList.map fun d => d.role.val)))
      fun h => ⟨ds, h⟩

/-- `Reproducibility`: what would be needed to run this fit again. -/
structure Reproducibility where
  randomSeed : Option Int
  computeDurationSeconds : {x : Double // Double.le (.finite 0) x = true}
  inputDigests : InputDigests
  libraryVersions : BoundedDict 1 20 (Note 120) (Note 64)

/-- `Reproducibility.model_validate`. -/
def Reproducibility.validate : Json → Validated Reproducibility :=
  model ["random_seed", "compute_duration_seconds", "input_digests", "library_versions"] fun o =>
    Reproducibility.mk <$> fieldOr o "random_seed" none (nullable (leaf "int" Pydantic.int)) <*>
      field o "compute_duration_seconds" nonnegFloat <*>
      field o "input_digests" InputDigests.validate <*>
      field o "library_versions" (dict 1 20 (str _) (str _))

/-! ## The request and service blocks -/

/-- `request_id: str = Field(min_length=1, max_length=64)`. -/
abbrev readoutRequestIdSpec : StrSpec := { minLength := 1, maxLength := some 64 }

/-- `ReadoutRequest`: which request produced this readout. -/
structure ReadoutRequest where
  requestId : Str readoutRequestIdSpec
  resultId : Str platformIdSpec
  parameterId : Str platformIdSpec
  tenantId : Str tenantIdSpec
  origin : Origin
  deriving DecidableEq

omit [UnicodeData] [Pydantic] in
/-- `ReadoutRequest.model_validate`. -/
def ReadoutRequest.validate : Json → Validated ReadoutRequest :=
  model ["request_id", "result_id", "parameter_id", "tenant_id", "origin"] fun o =>
    ReadoutRequest.mk <$> field o "request_id" (str _) <*> field o "result_id" (str _) <*>
      field o "parameter_id" (str _) <*> field o "tenant_id" (str _) <*>
      field o "origin" (literal Origin.values)

/-- `version: str = Field(pattern=_SEMVER)`. -/
abbrev readoutVersionSpec : StrSpec := { pattern := some semverPattern }

/-- `ReadoutService`: which service, at which version. -/
structure ReadoutService where
  name : Str serviceNameSpec
  version : Str readoutVersionSpec
  deriving DecidableEq

omit [Pydantic] in
/-- `ReadoutService.model_validate`. -/
def ReadoutService.validate : Json → Validated ReadoutService :=
  model ["name", "version"] fun o =>
    ReadoutService.mk <$> field o "name" (str _) <*> field o "version" (str _)

/-! ## The readout -/

/-- The declared fields of a readout; `readout_version` has one value. -/
structure ReadoutFields where
  generatedAt : Datetime
  request : ReadoutRequest
  service : ReadoutService
  serviceKnowledge : ServiceKnowledge
  model : ModelDescription
  data : DataProvenance
  artifacts : Items 1 maxServiceOutputs ArtifactDescription
  findings : Items 0 50 Finding
  diagnostics : Items 0 30 Diagnostic
  overallQuality : OverallQuality
  caveats : Items 0 20 Caveat
  explanationGuide : ExplanationGuide
  reproducibility : Reproducibility

/-- The ids of the findings, in order. -/
def ReadoutFields.findingIds (r : ReadoutFields) : List String :=
  r.findings.toList.map fun f => f.id.val

/-- The roles of the artifacts, in order. -/
def ReadoutFields.artifactRoles (r : ReadoutFields) : List String :=
  r.artifacts.toList.map fun a => a.role.val

/-- The narrative steps that name no finding. -/
def ReadoutFields.dangling (r : ReadoutFields) : Finset String :=
  (r.explanationGuide.recommendedNarrativeOrder.toList.map fun s => s.val).toFinset \
    r.findingIds.toFinset

/-- `ModelReadout`: the fields, and what the model validators check. -/
structure ModelReadout extends ReadoutFields where
  aware : toReadoutFields.generatedAt.utcoffset.isSome = true
  findingIds_unique : duplicated toReadoutFields.findingIds = []
  artifactRoles_unique : duplicated toReadoutFields.artifactRoles = []
  narrative_named : sorted toReadoutFields.dangling = []

/-- `repr` of a naive timestamp. -/
def reprNaive (t : Datetime) : String :=
  "datetime.datetime(" ++ toString t.date.year ++ ", " ++ toString t.date.month ++ ", " ++
    toString t.date.day ++ ", " ++ toString t.hour ++ ", " ++ toString t.minute ++
      (if t.second = 0 ∧ t.microsecond = 0 then "" else ", " ++ toString t.second) ++
        (if t.microsecond = 0 then "" else ", " ++ toString t.microsecond) ++ ")"

/-- The four model validators, in order. -/
def ModelReadout.check (r : ReadoutFields) : Validated ModelReadout :=
  (require (r.generatedAt.utcoffset.isSome = true)
    ("generated_at must carry a timezone, got " ++ reprNaive r.generatedAt) PLift.up).andThen
  fun aware => (require (duplicated r.findingIds = [])
    ("finding ids must be unique, got duplicates=" ++ pyReprList (duplicated r.findingIds))
    PLift.up).andThen
  fun ids => (require (duplicated r.artifactRoles = [])
    ("artifact roles must be unique, got duplicates=" ++ pyReprList (duplicated r.artifactRoles))
    PLift.up).andThen
  fun roles => require (sorted r.dangling = [])
    ("recommended_narrative_order names findings that do not exist: " ++
      pyReprList (sorted r.dangling) ++ "; known finding ids=" ++
        pyReprList (sorted r.findingIds.toFinset))
    fun narrative => ⟨r, aware.down, ids.down, roles.down, narrative⟩

/-- The fields of a readout. -/
def ReadoutFields.validate (o : JsonObject) : Validated ReadoutFields :=
  (fun _ => ReadoutFields.mk) <$>
    fieldOr o "readout_version" () (literal [("1.0", ())]) <*>
    field o "generated_at" (leaf "datetime" Pydantic.datetime) <*>
    field o "request" ReadoutRequest.validate <*>
    field o "service" ReadoutService.validate <*>
    field o "service_knowledge" ServiceKnowledge.validate <*>
    field o "model" ModelDescription.validate <*>
    field o "data" DataProvenance.validate <*>
    field o "artifacts" (items 1 maxServiceOutputs ArtifactDescription.validate) <*>
    fieldOr o "findings" Items.nil (items 0 50 Finding.validate) <*>
    fieldOr o "diagnostics" Items.nil (items 0 30 Diagnostic.validate) <*>
    field o "overall_quality" OverallQuality.validate <*>
    fieldOr o "caveats" Items.nil (items 0 20 Caveat.validate) <*>
    field o "explanation_guide" ExplanationGuide.validate <*>
    field o "reproducibility" Reproducibility.validate

/-- `ModelReadout.model_validate` of a JSON document. -/
def ModelReadout.validate (j : Json) : Validated ModelReadout :=
  (Lib.model ["readout_version", "generated_at", "request", "service", "service_knowledge", "model",
    "data", "artifacts", "findings", "diagnostics", "overall_quality", "caveats",
    "explanation_guide", "reproducibility"] ReadoutFields.validate j).andThen ModelReadout.check

/-- `ModelReadout.model_validate_json`. -/
def ModelReadout.validateJson (b : Bytes) : Validated ModelReadout :=
  match Pydantic.fromJson b with
  | some j => ModelReadout.validate j
  | none => .fail (.leaf "json_invalid")

end

end Grabatus

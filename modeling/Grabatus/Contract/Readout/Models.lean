import Grabatus.Contract.IoSpec

/-!
# The parts of a `model_readout`

Model of `contract/readout/enums.py`, `artifacts.py`, `caveats.py`, `data.py`, `diagnostics.py`,
`model.py` and `provenance.py`. The records a readout is made of, each with its validator. A
record carries what its own validators check: the order of a period, the bounds of an interval,
the numbering of a workflow, the base guardrails at the head of a guide, one digest per role.

Out of scope: the JSON Schema of the models, but for the one pattern in it, and the texts of
Pydantic's own errors.
-/

namespace Grabatus

open Grabatus.Lib Grabatus.Python

/-! ## Vocabularies -/

/-- `MAX_ITEMS`. -/
def maxItems : Nat := 30

/-- `ITEM_MAX_LENGTH`. -/
def itemMaxLength : Nat := 300

/-- `str = Field(min_length=1, max_length=max)`. -/
abbrev Text (max : Nat) : Type := Str { minLength := 1, maxLength := some max }

/-- `Annotated[str, StringConstraints(max_length=max)]`. -/
abbrev Note (max : Nat) : Type := Str { maxLength := some max }

/-- `ModelFamily`. -/
inductive ModelFamily where
  | timeSeriesForecast
  | bayesianInference
  | abTest
  | optimization
  | classification
  | regression
  | clustering
  | survivalAnalysis
  | simulation
  | associationRules
  deriving DecidableEq

/-- The members of `ModelFamily`. -/
def ModelFamily.values : List (String × ModelFamily) :=
  [("time_series_forecast", .timeSeriesForecast), ("bayesian_inference", .bayesianInference),
    ("ab_test", .abTest), ("optimization", .optimization), ("classification", .classification),
    ("regression", .regression), ("clustering", .clustering),
    ("survival_analysis", .survivalAnalysis), ("simulation", .simulation),
    ("association_rules", .associationRules)]

/-- `Paradigm`. -/
inductive Paradigm where
  | bayesian
  | frequentist
  | optimization
  | heuristic
  | mlSupervised
  | mlUnsupervised
  deriving DecidableEq

/-- The members of `Paradigm`. -/
def Paradigm.values : List (String × Paradigm) :=
  [("bayesian", .bayesian), ("frequentist", .frequentist), ("optimization", .optimization),
    ("heuristic", .heuristic), ("ml_supervised", .mlSupervised),
    ("ml_unsupervised", .mlUnsupervised)]

/-- `UncertaintyKind`. -/
inductive UncertaintyKind where
  | credibleInterval
  | confidenceInterval
  | predictionInterval
  | standardError
  | none
  deriving DecidableEq

/-- The members of `UncertaintyKind`. -/
def UncertaintyKind.values : List (String × UncertaintyKind) :=
  [("credible_interval", .credibleInterval), ("confidence_interval", .confidenceInterval),
    ("prediction_interval", .predictionInterval), ("standard_error", .standardError),
    ("none", .none)]

/-- A kind as the string it is. -/
def UncertaintyKind.name : UncertaintyKind → String
  | .credibleInterval => "credible_interval"
  | .confidenceInterval => "confidence_interval"
  | .predictionInterval => "prediction_interval"
  | .standardError => "standard_error"
  | .none => "none"

/-- `_INTERVAL_KINDS`. -/
def UncertaintyKind.isInterval : UncertaintyKind → Bool
  | .credibleInterval | .confidenceInterval | .predictionInterval => true
  | .standardError | .none => false

/-- `Direction`. -/
inductive Direction where
  | increase
  | decrease
  | stable
  | notApplicable
  deriving DecidableEq

/-- The members of `Direction`. -/
def Direction.values : List (String × Direction) :=
  [("increase", .increase), ("decrease", .decrease), ("stable", .stable),
    ("not_applicable", .notApplicable)]

/-- `Confidence`. -/
inductive Confidence where
  | high
  | moderate
  | low
  deriving DecidableEq

/-- The members of `Confidence`. -/
def Confidence.values : List (String × Confidence) :=
  [("high", .high), ("moderate", .moderate), ("low", .low)]

/-- `DiagnosticStatus`. -/
inductive DiagnosticStatus where
  | pass
  | warn
  | fail
  deriving DecidableEq

/-- The members of `DiagnosticStatus`. -/
def DiagnosticStatus.values : List (String × DiagnosticStatus) :=
  [("pass", .pass), ("warn", .warn), ("fail", .fail)]

/-- `QualityStatus`, the same three verdicts. -/
abbrev QualityStatus := DiagnosticStatus

/-- `Severity`. -/
inductive Severity where
  | high
  | medium
  | low
  deriving DecidableEq

/-- The members of `Severity`. -/
def Severity.values : List (String × Severity) :=
  [("high", .high), ("medium", .medium), ("low", .low)]

/-- `FieldType`. -/
inductive FieldType where
  | number
  | integer
  | string
  | boolean
  | date
  | datetime
  deriving DecidableEq

/-- The members of `FieldType`. -/
def FieldType.values : List (String × FieldType) :=
  [("number", .number), ("integer", .integer), ("string", .string), ("boolean", .boolean),
    ("date", .date), ("datetime", .datetime)]

section

variable [UnicodeData] [Pydantic]

/-! ## Artifacts -/

/-- `FieldDescription`: one column of one artefact. -/
structure FieldDescription where
  name : Text 120
  type : FieldType
  unit : Option (Note 64)
  intervalLevel : Option
    {x : Double // Double.lt (.finite 0) x = true ∧ x.lt (.finite 1) = true}
  meaning : Text 500
  readAs : Text 500

/-- `FieldDescription.model_validate`. -/
def FieldDescription.validate : Json → Validated FieldDescription :=
  model ["name", "type", "unit", "interval_level", "meaning", "read_as"] fun o =>
    FieldDescription.mk <$> field o "name" (str _) <*> field o "type" (literal FieldType.values) <*>
      fieldOr o "unit" none (nullable (str _)) <*>
      fieldOr o "interval_level" none (nullable unitFloat) <*>
      field o "meaning" (str _) <*> field o "read_as" (str _)

/-- The scheme of a URL. -/
def AnyUrl.scheme (u : AnyUrl) : String := String.ofList (Text.cut ':' u.text.toList).1

/-- `_ALLOWED_ARTIFACT_SCHEMES`. -/
def allowedArtifactSchemes : List String := ["gs", "bigquery", "secret", "file"]

/-- `_MAX_URI_LENGTH`. -/
def maxUriLength : Nat := 2048

/-- `ArtifactUri`: the length of the text is bounded, in bytes, and the scheme is allowed. -/
structure ArtifactUri where
  url : AnyUrl
  allowed : url.scheme ∈ allowedArtifactSchemes

/-- The validator of an `ArtifactUri`. -/
def ArtifactUri.validate (j : Json) : Validated ArtifactUri :=
  match j with
  | .str s =>
    if maxUriLength < s.utf8ByteSize then .fail (.leaf "url_too_long")
    else (leaf "url" Pydantic.anyUrl j).andThen fun url =>
      if h : url.scheme ∈ allowedArtifactSchemes then .ok ⟨url, h⟩ else .fail (.leaf "url_scheme")
  | _ => .fail (.leaf "url_type")

/-- `ArtifactDescription`: one artefact and its field dictionary. -/
structure ArtifactDescription where
  role : Str roleSpec
  uri : ArtifactUri
  format : DataFormat
  description : Text 500
  fields : Items 1 100 FieldDescription

/-- `ArtifactDescription.model_validate`. -/
def ArtifactDescription.validate : Json → Validated ArtifactDescription :=
  model ["role", "uri", "format", "description", "fields"] fun o =>
    ArtifactDescription.mk <$> field o "role" (str _) <*> field o "uri" ArtifactUri.validate <*>
      field o "format" (literal DataFormat.values) <*> field o "description" (str _) <*>
      field o "fields" (items 1 100 FieldDescription.validate)

/-! ## Caveats, diagnostics and data -/

/-- `Caveat`: a limitation and what not to conclude from it. -/
structure Caveat where
  severity : Severity
  statement : Text 500
  doNotConclude : Text 500

omit [UnicodeData] [Pydantic] in
/-- `Caveat.model_validate`. -/
def Caveat.validate : Json → Validated Caveat :=
  model ["severity", "statement", "do_not_conclude"] fun o =>
    Caveat.mk <$> field o "severity" (literal Severity.values) <*> field o "statement" (str _) <*>
      field o "do_not_conclude" (str _)

/-- `Diagnostic`: one quality check. -/
structure Diagnostic where
  name : Text 120
  value : Double
  threshold : Text 64
  status : DiagnosticStatus
  meaning : Text 500

omit [UnicodeData] in
/-- `Diagnostic.model_validate`. -/
def Diagnostic.validate : Json → Validated Diagnostic :=
  model ["name", "value", "threshold", "status", "meaning"] fun o =>
    Diagnostic.mk <$> field o "name" (str _) <*> field o "value" (leaf "float" Pydantic.float) <*>
      field o "threshold" (str _) <*> field o "status" (literal DiagnosticStatus.values) <*>
      field o "meaning" (str _)

/-- `OverallQuality`: the single verdict. -/
structure OverallQuality where
  status : QualityStatus
  summary : Text 1000

omit [UnicodeData] [Pydantic] in
/-- `OverallQuality.model_validate`. -/
def OverallQuality.validate : Json → Validated OverallQuality :=
  model ["status", "summary"] fun o =>
    OverallQuality.mk <$> field o "status" (literal DiagnosticStatus.values) <*>
      field o "summary" (str _)

/-- `PeriodCovered`: its end is not before its start. -/
structure PeriodCovered where
  start : Date
  stop : Date
  ordered : stop.lt start = false

/-- `repr` of a date. -/
def Date.repr (d : Date) : String :=
  "datetime.date(" ++ toString d.year ++ ", " ++ toString d.month ++ ", " ++ toString d.day ++ ")"

omit [UnicodeData] in
/-- `PeriodCovered.model_validate`, with `_end_not_before_start`. -/
def PeriodCovered.validate (j : Json) : Validated PeriodCovered :=
  (model ["start", "end"] (fun o =>
    (fun start stop => require (stop.lt start = false)
      ("end=" ++ Date.repr stop ++ " precedes start=" ++ Date.repr start)
      fun h => PeriodCovered.mk start stop h) <$>
    field o "start" (leaf "date" Pydantic.date) <*>
    field o "end" (leaf "date" Pydantic.date)) j).andThen id

/-- `EntitySummary`: how many things of a kind were analysed. -/
structure EntitySummary where
  label : Text 64
  count : {n : Int // 0 ≤ n}

omit [UnicodeData] in
/-- `EntitySummary.model_validate`. -/
def EntitySummary.validate : Json → Validated EntitySummary :=
  model ["label", "count"] fun o =>
    EntitySummary.mk <$> field o "label" (str _) <*> field o "count" (intFrom 0)

/-- `DataProvenance`: shape and quality of the data. -/
structure DataProvenance where
  observationCount : {n : Int // 1 ≤ n}
  granularity : Text 64
  periodCovered : Option PeriodCovered
  entities : Items 1 maxItems EntitySummary
  filtersApplied : Items 0 maxItems (Note itemMaxLength)
  knownGaps : Items 0 maxItems (Note itemMaxLength)
  qualityFlags : Items 0 maxItems (Note itemMaxLength)

/-- The default `()` of a bounded tuple. -/
def Items.nil {α : Type} {hi : Nat} : Items 0 hi α := ⟨[], le_refl 0, Nat.zero_le hi⟩

omit [UnicodeData] in
/-- `DataProvenance.model_validate`. -/
def DataProvenance.validate : Json → Validated DataProvenance :=
  model ["observation_count", "granularity", "period_covered", "entities", "filters_applied",
      "known_gaps", "quality_flags"] fun o =>
    DataProvenance.mk <$> field o "observation_count" (intFrom 1) <*>
      field o "granularity" (str _) <*>
      fieldOr o "period_covered" none (nullable PeriodCovered.validate) <*>
      field o "entities" (items 1 maxItems EntitySummary.validate) <*>
      fieldOr o "filters_applied" Items.nil (items 0 maxItems (str _)) <*>
      fieldOr o "known_gaps" Items.nil (items 0 maxItems (str _)) <*>
      fieldOr o "quality_flags" Items.nil (items 0 maxItems (str _))

end

end Grabatus

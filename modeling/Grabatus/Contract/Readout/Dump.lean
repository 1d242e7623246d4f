import Grabatus.Contract.Readout.Root

/-!
# Dumping a readout

Model of what Pydantic dumps of the models of `contract/readout/`. `model_dump(mode="json")` of
every record of a readout, and the two things its round trip depends on: `floats`, the
floating-point values it holds, in the order they are dumped, and `LeavesSurvive`, that the
timestamps, dates and URLs in it read back from their texts. A float that is not finite is dumped
as `null`.
-/

namespace Grabatus

open Grabatus.Lib Grabatus.Python

/-! ## Vocabularies -/

/-- A family as the string it is. -/
def ModelFamily.name : ModelFamily → String
  | .timeSeriesForecast => "time_series_forecast"
  | .bayesianInference => "bayesian_inference"
  | .abTest => "ab_test"
  | .optimization => "optimization"
  | .classification => "classification"
  | .regression => "regression"
  | .clustering => "clustering"
  | .survivalAnalysis => "survival_analysis"
  | .simulation => "simulation"
  | .associationRules => "association_rules"

/-- A paradigm as the string it is. -/
def Paradigm.name : Paradigm → String
  | .bayesian => "bayesian"
  | .frequentist => "frequentist"
  | .optimization => "optimization"
  | .heuristic => "heuristic"
  | .mlSupervised => "ml_supervised"
  | .mlUnsupervised => "ml_unsupervised"

/-- A direction as the string it is. -/
def Direction.name : Direction → String
  | .increase => "increase"
  | .decrease => "decrease"
  | .stable => "stable"
  | .notApplicable => "not_applicable"

/-- A confidence as the string it is. -/
def Confidence.name : Confidence → String
  | .high => "high"
  | .moderate => "moderate"
  | .low => "low"

/-- A status as the string it is. -/
def DiagnosticStatus.name : DiagnosticStatus → String
  | .pass => "pass"
  | .warn => "warn"
  | .fail => "fail"

/-- A severity as the string it is. -/
def Severity.name : Severity → String
  | .high => "high"
  | .medium => "medium"
  | .low => "low"

/-- A field type as the string it is. -/
def FieldType.name : FieldType → String
  | .number => "number"
  | .integer => "integer"
  | .string => "string"
  | .boolean => "boolean"
  | .date => "date"
  | .datetime => "datetime"

/-! ## Scalars and collections -/

/-- A float: JSON has no infinities and no NaN, so they become `null`. -/
def dumpFloat : Double → Json
  | .finite q => .float (.finite q)
  | .posInf | .negInf | .nan => .null

/-- A checked string. -/
def dumpStr {c : StrSpec} (s : Str c) : Json := .str s.val

/-- A bounded tuple. -/
def dumpItems {α : Type} {lo hi : Nat} (dump : α → Json) (xs : Items lo hi α) : Json :=
  .arr (xs.toList.map dump)

/-- A dictionary keyed by checked strings. -/
def dumpDict {α : Type} {lo hi : Nat} {c : StrSpec} (dump : α → Json)
    (d : BoundedDict lo hi (Str c) α) : Json :=
  .obj (d.val.entries.map fun e => (e.1.val, dump e.2))

/-! ## Artifacts -/

/-- `FieldDescription.model_dump`. -/
def FieldDescription.dump (f : FieldDescription) : Json :=
  .obj [("name", dumpStr f.name), ("type", .str f.type.name),
    ("unit", dumpNullable dumpStr f.unit),
    ("interval_level", dumpNullable (fun x => dumpFloat x.val) f.intervalLevel),
    ("meaning", dumpStr f.meaning), ("read_as", dumpStr f.readAs)]

/-- The floats of a column. -/
def FieldDescription.floats (f : FieldDescription) : List Double :=
  f.intervalLevel.toList.map Subtype.val

/-- `ArtifactDescription.model_dump`. -/
def ArtifactDescription.dump (a : ArtifactDescription) : Json :=
  .obj [("role", dumpStr a.role), ("uri", .str a.uri.url.text), ("format", .str a.format.name),
    ("description", dumpStr a.description), ("fields", dumpItems FieldDescription.dump a.fields)]

/-- The floats of an artefact. -/
def ArtifactDescription.floats (a : ArtifactDescription) : List Double :=
  a.fields.toList.flatMap FieldDescription.floats

/-- The rendering of the URI is within the bound its text was checked against. -/
def ArtifactDescription.UriFits (a : ArtifactDescription) : Prop :=
  a.uri.url.text.utf8ByteSize ≤ maxUriLength

/-! ## Caveats, diagnostics and data -/

/-- `Caveat.model_dump`. -/
def Caveat.dump (c : Caveat) : Json :=
  .obj [("severity", .str c.severity.name), ("statement", dumpStr c.statement),
    ("do_not_conclude", dumpStr c.doNotConclude)]

/-- `Diagnostic.model_dump`. -/
def Diagnostic.dump (d : Diagnostic) : Json :=
  .obj [("name", dumpStr d.name), ("value", dumpFloat d.value),
    ("threshold", dumpStr d.threshold), ("status", .str d.status.name),
    ("meaning", dumpStr d.meaning)]

/-- `OverallQuality.model_dump`. -/
def OverallQuality.dump (q : OverallQuality) : Json :=
  .obj [("status", .str q.status.name), ("summary", dumpStr q.summary)]

/-- `PeriodCovered.model_dump`. -/
def PeriodCovered.dump (p : PeriodCovered) : Json :=
  .obj [("start", .str p.start.isoformat), ("end", .str p.stop.isoformat)]

/-- `EntitySummary.model_dump`. -/
def EntitySummary.dump (e : EntitySummary) : Json :=
  .obj [("label", dumpStr e.label), ("count", .int e.count.val)]

/-- `DataProvenance.model_dump`. -/
def DataProvenance.dump (d : DataProvenance) : Json :=
  .obj [("observation_count", .int d.observationCount.val),
    ("granularity", dumpStr d.granularity),
    ("period_covered", dumpNullable PeriodCovered.dump d.periodCovered),
    ("entities", dumpItems EntitySummary.dump d.entities),
    ("filters_applied", dumpItems dumpStr d.filtersApplied),
    ("known_gaps", dumpItems dumpStr d.knownGaps),
    ("quality_flags", dumpItems dumpStr d.qualityFlags)]

/-! ## Findings -/

/-- `Quantity.model_dump`. -/
def Quantity.dump (q : Quantity) : Json :=
  .obj [("value", dumpFloat q.value), ("unit", dumpStr q.unit)]

/-- `Uncertainty.model_dump`. -/
def Uncertainty.dump (u : Uncertainty) : Json :=
  .obj [("kind", .str u.kind.name), ("level", dumpNullable (fun x => dumpFloat x.val) u.level),
    ("lower", dumpNullable dumpFloat u.lower), ("upper", dumpNullable dumpFloat u.upper)]

/-- The floats of an uncertainty. -/
def Uncertainty.floats (u : Uncertainty) : List Double :=
  u.level.toList.map Subtype.val ++ u.lower.toList ++ u.upper.toList

/-- `ComparisonBaseline.model_dump`. -/
def ComparisonBaseline.dump (b : ComparisonBaseline) : Json :=
  .obj [("label", dumpStr b.label), ("value", dumpFloat b.value)]

/-- `Finding.model_dump`. -/
def Finding.dump (f : Finding) : Json :=
  .obj [("id", dumpStr f.id), ("importance", .int f.importance.val),
    ("statement", dumpStr f.statement), ("quantity", f.quantity.dump),
    ("uncertainty", f.uncertainty.dump), ("direction", .str f.direction.name),
    ("comparison_baseline", dumpNullable ComparisonBaseline.dump f.comparisonBaseline),
    ("confidence", .str f.confidence.name),
    ("confidence_rationale", dumpStr f.confidenceRationale)]

/-- The floats of a finding. -/
def Finding.floats (f : Finding) : List Double :=
  f.quantity.value :: f.uncertainty.floats ++
    f.comparisonBaseline.toList.map ComparisonBaseline.value

/-! ## Guide and knowledge -/

/-- `ExplanationGuide.model_dump`. -/
def ExplanationGuide.dump (g : ExplanationGuide) : Json :=
  .obj [("audience", dumpStr g.audience), ("summary_for_llm", dumpStr g.summaryForLlm),
    ("what_was_solved", dumpStr g.whatWasSolved),
    ("recommended_narrative_order", dumpItems dumpStr g.recommendedNarrativeOrder),
    ("must_not_claim", dumpItems dumpStr g.mustNotClaim),
    ("guardrails", dumpItems dumpStr g.guardrails)]

/-- The base guardrails are within the bound of their own field. -/
theorem baseGuardrails_fit :
    ∀ s ∈ baseGuardrails, ({ maxLength := some 500 } : StrSpec).check s = none := by
  have part : ∀ {cs : List Char}, cs.length ≤ 100 → (String.ofList cs).length ≤ 100 :=
    fun h => String.length_ofList.trans_le h
  have joined : ∀ {s t : String} {m n : Nat}, s.length ≤ m → t.length ≤ n →
      (s ++ t).length ≤ m + n := fun hs ht =>
    (String.length_append ..).trans_le (Nat.add_le_add hs ht)
  have hfit : ∀ {s : String}, s.length ≤ 300 →
      ({ maxLength := some 500 } : StrSpec).check s = none := by
    intro s hs
    refine StrSpec.check_eq_none.mpr ⟨Nat.zero_le _, fun n hn => ?_, nofun⟩
    obtain rfl := Option.some.inj hn
    omega
  intro s hs
  simp only [baseGuardrails, List.mem_cons, List.not_mem_nil, or_false] at hs
  rcases hs with rfl | rfl | rfl | rfl
  · exact hfit ((joined (part (by decide)) (part (by decide))).trans (by decide))
  · exact hfit (joined (joined (part (by decide)) (part (by decide))) (part (by decide)))
  · exact hfit ((joined (part (by decide)) (part (by decide))).trans (by decide))
  · exact hfit (joined (joined (part (by decide)) (part (by decide))) (part (by decide)))

/-- What `_starts_with_the_base` lets through. -/
def ExplanationGuide.StartsWithTheBase (g : ExplanationGuide) : Prop :=
  (g.guardrails.toList.take 4).map Str.val = baseGuardrails

/-- `Persona.model_dump`. -/
def Persona.dump (p : Persona) : Json :=
  .obj [("role", dumpStr p.role), ("pains", dumpItems dumpStr p.pains)]

/-- `WorkflowStep.model_dump`. -/
def WorkflowStep.dump (s : WorkflowStep) : Json :=
  .obj [("order", .int s.order.val), ("what_the_user_does", dumpStr s.whatTheUserDoes),
    ("what_the_llm_should_say", dumpStr s.whatTheLlmShouldSay)]

/-- `InputRequirement.model_dump`. -/
def InputRequirement.dump (i : InputRequirement) : Json :=
  .obj [("column", dumpStr i.column), ("required", .bool i.required),
    ("business_meaning", dumpStr i.businessMeaning), ("example", dumpStr i.example_)]

/-- `InterpretationRule.model_dump`. -/
def InterpretationRule.dump (r : InterpretationRule) : Json :=
  .obj [("observed_situation", dumpStr r.observedSituation),
    ("what_it_means", dumpStr r.whatItMeans), ("what_to_recommend", dumpStr r.whatToRecommend)]

/-- `Misreading.model_dump`. -/
def Misreading.dump (m : Misreading) : Json :=
  .obj [("wrong_reading", dumpStr m.wrongReading), ("correction", dumpStr m.correction)]

/-- `Term.model_dump`. -/
def Term.dump (t : Term) : Json :=
  .obj [("technical_term", dumpStr t.technicalTerm), ("client_language", dumpStr t.clientLanguage)]

/-- `ServiceKnowledge.model_dump`. -/
def ServiceKnowledge.dump (k : ServiceKnowledge) : Json :=
  .obj [("one_liner", dumpStr k.oneLiner), ("what_it_does", dumpStr k.whatItDoes),
    ("problem_solved", dumpStr k.problemSolved),
    ("when_to_use", dumpItems dumpStr k.whenToUse),
    ("when_not_to_use", dumpItems dumpStr k.whenNotToUse),
    ("personas", dumpItems Persona.dump k.personas),
    ("workflow", dumpItems WorkflowStep.dump k.workflow.val),
    ("input_requirements", dumpItems InputRequirement.dump k.inputRequirements),
    ("interpretation_playbook", dumpItems InterpretationRule.dump k.interpretationPlaybook),
    ("common_misreadings", dumpItems Misreading.dump k.commonMisreadings),
    ("glossary", dumpItems Term.dump k.glossary),
    ("limitations", dumpItems dumpStr k.limitations)]

/-! ## Model and reproducibility -/

/-- A hyperparameter value, in its own type. -/
def HyperparameterValue.dump : HyperparameterValue → Json
  | .bool b => .bool b
  | .int n => .int n
  | .float x => dumpFloat x
  | .str s => dumpStr s
  | .none => .null

/-- The floats of a hyperparameter value. -/
def HyperparameterValue.floats : HyperparameterValue → List Double
  | .float x => [x]
  | _ => []

/-- `Assumption.model_dump`. -/
def Assumption.dump (a : Assumption) : Json :=
  .obj [("statement", dumpStr a.statement), ("violation_impact", dumpStr a.violationImpact),
    ("checked", .bool a.checked)]

/-- `Prior.model_dump`. -/
def Prior.dump (p : Prior) : Json :=
  .obj [("parameter", dumpStr p.parameter), ("distribution", dumpStr p.distribution),
    ("rationale", dumpStr p.rationale)]

/-- `ModelDescription.model_dump`. -/
def ModelDescription.dump (m : ModelDescription) : Json :=
  .obj [("display_name", dumpStr m.displayName), ("family", .str m.family.name),
    ("paradigm", .str m.paradigm.name), ("objective", dumpStr m.objective),
    ("formulation", dumpNullable dumpStr m.formulation),
    ("assumptions", dumpItems Assumption.dump m.assumptions),
    ("hyperparameters", dumpDict HyperparameterValue.dump m.hyperparameters),
    ("priors", dumpItems Prior.dump m.priors),
    ("not_designed_for", dumpItems dumpStr m.notDesignedFor)]

/-- The floats of a model description. -/
def ModelDescription.floats (m : ModelDescription) : List Double :=
  m.hyperparameters.val.entries.flatMap fun e => e.2.floats

/-- `InputDigest.model_dump`. -/
def InputDigest.dump (d : InputDigest) : Json :=
  .obj [("role", dumpStr d.role), ("sha256", dumpStr d.sha256)]

/-- `Reproducibility.model_dump`. -/
def Reproducibility.dump (r : Reproducibility) : Json :=
  .obj [("random_seed", dumpNullable Json.int r.randomSeed),
    ("compute_duration_seconds", dumpFloat r.computeDurationSeconds.val),
    ("input_digests", dumpItems InputDigest.dump r.inputDigests.val),
    ("library_versions", dumpDict dumpStr r.libraryVersions)]

/-! ## The readout -/

section

variable [UnicodeData]

/-- `ReadoutRequest.model_dump`. -/
def ReadoutRequest.dump (r : ReadoutRequest) : Json :=
  .obj [("request_id", dumpStr r.requestId), ("result_id", dumpStr r.resultId),
    ("parameter_id", dumpStr r.parameterId), ("tenant_id", dumpStr r.tenantId),
    ("origin", .str r.origin.name)]

/-- `ReadoutService.model_dump`. -/
def ReadoutService.dump (s : ReadoutService) : Json :=
  .obj [("name", dumpStr s.name), ("version", dumpStr s.version)]

/-- The floats of a readout. -/
def ReadoutFields.floats (r : ReadoutFields) : List Double :=
  r.model.floats ++ r.artifacts.toList.flatMap ArtifactDescription.floats ++
    r.findings.toList.flatMap Finding.floats ++ r.diagnostics.toList.map Diagnostic.value ++
      [r.reproducibility.computeDurationSeconds.val]

variable [Pydantic]

/-- `ModelReadout.model_dump`. -/
def ReadoutFields.dump (r : ReadoutFields) : Json :=
  .obj [("readout_version", .str "1.0"),
    ("generated_at", .str (Pydantic.dumpDatetime r.generatedAt)), ("request", r.request.dump),
    ("service", r.service.dump), ("service_knowledge", r.serviceKnowledge.dump),
    ("model", r.model.dump), ("data", r.data.dump),
    ("artifacts", dumpItems ArtifactDescription.dump r.artifacts),
    ("findings", dumpItems Finding.dump r.findings),
    ("diagnostics", dumpItems Diagnostic.dump r.diagnostics),
    ("overall_quality", r.overallQuality.dump), ("caveats", dumpItems Caveat.dump r.caveats),
    ("explanation_guide", r.explanationGuide.dump), ("reproducibility", r.reproducibility.dump)]

/-! ## What the round trip relies on -/

/-- The scalars of Python read back from their JSON, and `null` is no float. -/
structure ScalarsSurvive : Prop where
  int : ∀ n, Pydantic.int (.int n) = some n
  bool : ∀ b, Pydantic.bool (.bool b) = some b
  float : ∀ q, Pydantic.float (.float (.finite q)) = some (.finite q)
  float_null : Pydantic.float .null = none

/-- The dates of a period read back from their texts. -/
structure PeriodCovered.LeavesSurvive (p : PeriodCovered) : Prop where
  start : Pydantic.date (.str p.start.isoformat) = some p.start
  stop : Pydantic.date (.str p.stop.isoformat) = some p.stop

/-- The timestamp, the dates and the URLs of a readout read back from their texts. -/
structure ReadoutFields.LeavesSurvive (r : ReadoutFields) : Prop where
  generatedAt : Pydantic.datetime (.str (Pydantic.dumpDatetime r.generatedAt)) = some r.generatedAt
  periodCovered : ∀ p ∈ r.data.periodCovered, p.LeavesSurvive
  artifacts : ∀ a ∈ r.artifacts.toList,
    Pydantic.anyUrl (.str a.uri.url.text) = some a.uri.url

end

end Grabatus

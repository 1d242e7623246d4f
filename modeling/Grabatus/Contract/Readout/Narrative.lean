import Grabatus.Contract.Base
import Grabatus.Contract.Readout.Models

/-!
# Findings, guide and knowledge

Model of `contract/readout/findings.py`, `guide.py` and `knowledge.py`. The narrative parts of a
`model_readout`. An `Uncertainty` carries that its bounds match its kind, a `Workflow` that its
orders are contiguous; the guide compares the head of its guardrails with the base ones before it
validates the items.

Out of scope: `build_explanation_guide`, a constructor call with the base guardrails in front.
-/

namespace Grabatus

open Grabatus.Lib Grabatus.Python

section

variable [UnicodeData] [Pydantic]

/-! ## Findings -/

/-- `Quantity`: the number itself, with its unit. -/
structure Quantity where
  value : Double
  unit : Text 64

omit [UnicodeData] in
/-- `Quantity.model_validate`. -/
def Quantity.validate : Json → Validated Quantity :=
  model ["value", "unit"] fun o =>
    Quantity.mk <$> field o "value" (leaf "float" Pydantic.float) <*> field o "unit" (str _)

/-- A level strictly between 0 and 1. -/
abbrev Level : Type :=
  {x : Double // Double.lt (.finite 0) x = true ∧ x.lt (.finite 1) = true}

/-- What `_bounds_match_the_kind` lets through: an interval has a level and both bounds, the upper
not below the lower; `none` has no bounds. -/
def BoundsMatchKind (kind : UncertaintyKind) (level : Option Level) (lower upper : Option Double) :
    Prop :=
  (kind.isInterval = true → level.isSome = true ∧
    ∃ lo ∈ lower, ∃ hi ∈ upper, hi.lt lo = false) ∧
  (kind = .none → lower = none ∧ upper = none)

instance (kind : UncertaintyKind) (level : Option Level) (lower upper : Option Double) :
    Decidable (BoundsMatchKind kind level lower upper) := by
  unfold BoundsMatchKind
  exact inferInstance

/-- `Uncertainty`: how sure the number is. -/
structure Uncertainty where
  kind : UncertaintyKind
  level : Option Level
  lower : Option Double
  upper : Option Double
  bounds : BoundsMatchKind kind level lower upper

/-- `repr` of an optional float. -/
def reprFloat : Option Double → String
  | none => "None"
  | some x => Pydantic.repr (.float x)

/-- The text of the `ValueError` of `_bounds_match_the_kind`. -/
def boundsMessage (kind : UncertaintyKind) (level : Option Level) (lower upper : Option Double) :
    String :=
  if kind.isInterval then
    if level = none then "kind=" ++ pyRepr kind.name ++ " requires a level, got None"
    else if lower = none ∨ upper = none then
      "kind=" ++ pyRepr kind.name ++ " requires lower and upper, got lower=" ++ reprFloat lower ++
        ", upper=" ++ reprFloat upper
    else "upper=" ++ reprFloat upper ++ " precedes lower=" ++ reprFloat lower
  else "kind='none' forbids bounds, got lower=" ++ reprFloat lower ++ ", upper=" ++ reprFloat upper

/-- `Uncertainty.model_validate`. -/
def Uncertainty.validate (j : Json) : Validated Uncertainty :=
  (model ["kind", "level", "lower", "upper"] (fun o =>
    (fun kind level lower upper => require (BoundsMatchKind kind level lower upper)
      (boundsMessage kind level lower upper) fun h => Uncertainty.mk kind level lower upper h) <$>
    field o "kind" (literal UncertaintyKind.values) <*>
    fieldOr o "level" none (nullable unitFloat) <*>
    fieldOr o "lower" none (nullable (leaf "float" Pydantic.float)) <*>
    fieldOr o "upper" none (nullable (leaf "float" Pydantic.float))) j).andThen id

/-- `ComparisonBaseline`: what the finding is compared against. -/
structure ComparisonBaseline where
  label : Text 200
  value : Double

omit [UnicodeData] in
/-- `ComparisonBaseline.model_validate`. -/
def ComparisonBaseline.validate : Json → Validated ComparisonBaseline :=
  model ["label", "value"] fun o =>
    ComparisonBaseline.mk <$> field o "label" (str _) <*>
      field o "value" (leaf "float" Pydantic.float)

/-- `id: str = Field(min_length=1, max_length=64, pattern=_ID_PATTERN)`. -/
abbrev findingIdSpec : StrSpec :=
  { minLength := 1, maxLength := some 64, pattern := some rolePattern }

/-- `Finding`: one conclusion. -/
structure Finding where
  id : Str findingIdSpec
  importance : {n : Int // 1 ≤ n ∧ n ≤ 100}
  statement : Text 1000
  quantity : Quantity
  uncertainty : Uncertainty
  direction : Direction
  comparisonBaseline : Option ComparisonBaseline
  confidence : Confidence
  confidenceRationale : Text 500

/-- `Finding.model_validate`. -/
def Finding.validate : Json → Validated Finding :=
  model ["id", "importance", "statement", "quantity", "uncertainty", "direction",
      "comparison_baseline", "confidence", "confidence_rationale"] fun o =>
    Finding.mk <$> field o "id" (str _) <*> field o "importance" (intBetween 1 100) <*>
      field o "statement" (str _) <*> field o "quantity" Quantity.validate <*>
      field o "uncertainty" Uncertainty.validate <*>
      field o "direction" (literal Direction.values) <*>
      fieldOr o "comparison_baseline" none (nullable ComparisonBaseline.validate) <*>
      field o "confidence" (literal Confidence.values) <*>
      field o "confidence_rationale" (str _)

/-! ## The explanation guide -/

/-- `BASE_GUARDRAILS`. -/
def baseGuardrails : List String :=
  ["Responda apenas com o que este documento afirma. Não extrapole, não " ++
    "estime e não complete lacunas com conhecimento geral sobre o setor.",
    "Se a pergunta não puder ser respondida com este documento, diga que " ++
    "não sabe e ofereça o contato da Grabatus. Nunca produza um número que " ++
    "não esteja escrito aqui.",
    "Não recalcule nada a partir de dados brutos. Os números deste " ++
    "documento já são o resultado final da análise.",
    "Sempre que encontrar uma lacuna — algo que o cliente pediu e este " ++
    "documento não responde — registre uma sugestão de melhoria no canal " ++
    "da Grabatus, descrevendo o que faltou."]

/-- The strings at the head of a list, up to the first item that is none. -/
def leadingStrings : List Json → List String
  | .str s :: js => s :: leadingStrings js
  | _ => []

/-- `_starts_with_the_base`, then the field's own validator. -/
def guardrailsField (j : Json) : Validated (Items 4 20 (Note 500)) :=
  match j with
  | .arr js =>
    if leadingStrings (js.take 4) = baseGuardrails then items 4 20 (str _) j
    else .fail (.value ("guardrails must start with the SDK base guardrails, got " ++
      Pydantic.repr (.arr (js.take 4))))
  | _ => .fail (.value ("guardrails must be a sequence of strings, got " ++ Pydantic.repr j))

/-- `ExplanationGuide`: how to narrate the result. -/
structure ExplanationGuide where
  audience : Text 200
  summaryForLlm : Text 2000
  whatWasSolved : Text 1000
  recommendedNarrativeOrder : Items 0 20 (Note 64)
  mustNotClaim : Items 1 20 (Note 500)
  guardrails : Items 4 20 (Note 500)

omit [UnicodeData] in
/-- `ExplanationGuide.model_validate`. -/
def ExplanationGuide.validate : Json → Validated ExplanationGuide :=
  model ["audience", "summary_for_llm", "what_was_solved", "recommended_narrative_order",
      "must_not_claim", "guardrails"] fun o =>
    ExplanationGuide.mk <$> field o "audience" (str _) <*> field o "summary_for_llm" (str _) <*>
      field o "what_was_solved" (str _) <*>
      fieldOr o "recommended_narrative_order" Items.nil (items 0 20 (str _)) <*>
      field o "must_not_claim" (items 1 20 (str _)) <*> field o "guardrails" guardrailsField

/-! ## Service knowledge -/

/-- `Persona`: who uses the service; its pains are unbounded strings. -/
structure Persona where
  role : Text 200
  pains : Items 1 maxItems (Str {})

/-- `WorkflowStep`: one step of using the service. -/
structure WorkflowStep where
  order : {n : Int // 1 ≤ n ∧ n ≤ 12}
  whatTheUserDoes : Text 500
  whatTheLlmShouldSay : Text 1000

/-- `InputRequirement`: one column the service reads. -/
structure InputRequirement where
  column : Text 64
  required : Bool
  businessMeaning : Text 500
  example_ : Text 200

/-- `InterpretationRule`: situation, meaning, recommendation. -/
structure InterpretationRule where
  observedSituation : Text 300
  whatItMeans : Text 500
  whatToRecommend : Text 500

/-- `Misreading`: a wrong reading and its correction. -/
structure Misreading where
  wrongReading : Text 500
  correction : Text 500

/-- `Term`: a technical term and how to say it. -/
structure Term where
  technicalTerm : Text 120
  clientLanguage : Text 300

omit [UnicodeData] [Pydantic] in
/-- `Persona.model_validate`. -/
def Persona.validate : Json → Validated Persona :=
  model ["role", "pains"] fun o =>
    Persona.mk <$> field o "role" (str _) <*> field o "pains" (items 1 maxItems (str {}))

omit [UnicodeData] in
/-- `WorkflowStep.model_validate`. -/
def WorkflowStep.validate : Json → Validated WorkflowStep :=
  model ["order", "what_the_user_does", "what_the_llm_should_say"] fun o =>
    WorkflowStep.mk <$> field o "order" (intBetween 1 12) <*>
      field o "what_the_user_does" (str _) <*> field o "what_the_llm_should_say" (str _)

omit [UnicodeData] in
/-- `InputRequirement.model_validate`. -/
def InputRequirement.validate : Json → Validated InputRequirement :=
  model ["column", "required", "business_meaning", "example"] fun o =>
    InputRequirement.mk <$> field o "column" (str _) <*>
      field o "required" (leaf "bool" Pydantic.bool) <*> field o "business_meaning" (str _) <*>
      field o "example" (str _)

omit [UnicodeData] [Pydantic] in
/-- `InterpretationRule.model_validate`. -/
def InterpretationRule.validate : Json → Validated InterpretationRule :=
  model ["observed_situation", "what_it_means", "what_to_recommend"] fun o =>
    InterpretationRule.mk <$> field o "observed_situation" (str _) <*>
      field o "what_it_means" (str _) <*> field o "what_to_recommend" (str _)

omit [UnicodeData] [Pydantic] in
/-- `Misreading.model_validate`. -/
def Misreading.validate : Json → Validated Misreading :=
  model ["wrong_reading", "correction"] fun o =>
    Misreading.mk <$> field o "wrong_reading" (str _) <*> field o "correction" (str _)

omit [UnicodeData] [Pydantic] in
/-- `Term.model_validate`. -/
def Term.validate : Json → Validated Term :=
  model ["technical_term", "client_language"] fun o =>
    Term.mk <$> field o "technical_term" (str _) <*> field o "client_language" (str _)

/-- The orders of a workflow are `1, 2, …, n`. -/
def ContiguousFromOne (steps : List WorkflowStep) : Prop :=
  steps.map (fun s => s.order.val) = (List.range steps.length).map fun i => (i : Int) + 1

instance (steps : List WorkflowStep) : Decidable (ContiguousFromOne steps) :=
  inferInstanceAs (Decidable (_ = _))

/-- The workflow with its validator `_orders_are_contiguous_from_one`. -/
abbrev Workflow : Type := {w : Items 1 12 WorkflowStep // ContiguousFromOne w.toList}

omit [UnicodeData] in
/-- The validator of the `workflow` field. -/
def Workflow.validate (j : Json) : Validated Workflow :=
  (items 1 12 WorkflowStep.validate j).andThen fun steps =>
    require (ContiguousFromOne steps.toList)
      ("workflow orders must be contiguous from 1, got " ++
        Pydantic.repr (.arr (steps.toList.map fun s => .int s.order.val)))
      fun h => ⟨steps, h⟩

/-- `ServiceKnowledge`: what the service is. -/
structure ServiceKnowledge where
  oneLiner : Text 280
  whatItDoes : Text 2000
  problemSolved : Text 1000
  whenToUse : Items 1 maxItems (Note itemMaxLength)
  whenNotToUse : Items 1 maxItems (Note itemMaxLength)
  personas : Items 1 maxItems Persona
  workflow : Workflow
  inputRequirements : Items 1 64 InputRequirement
  interpretationPlaybook : Items 1 maxItems InterpretationRule
  commonMisreadings : Items 0 maxItems Misreading
  glossary : Items 1 maxItems Term
  limitations : Items 1 maxItems (Note itemMaxLength)

omit [UnicodeData] in
/-- `ServiceKnowledge.model_validate`. -/
def ServiceKnowledge.validate : Json → Validated ServiceKnowledge :=
  model ["one_liner", "what_it_does", "problem_solved", "when_to_use", "when_not_to_use",
      "personas", "workflow", "input_requirements", "interpretation_playbook",
      "common_misreadings", "glossary", "limitations"] fun o =>
    ServiceKnowledge.mk <$> field o "one_liner" (str _) <*> field o "what_it_does" (str _) <*>
      field o "problem_solved" (str _) <*> field o "when_to_use" (items 1 maxItems (str _)) <*>
      field o "when_not_to_use" (items 1 maxItems (str _)) <*>
      field o "personas" (items 1 maxItems Persona.validate) <*>
      field o "workflow" Workflow.validate <*>
      field o "input_requirements" (items 1 64 InputRequirement.validate) <*>
      field o "interpretation_playbook" (items 1 maxItems InterpretationRule.validate) <*>
      fieldOr o "common_misreadings" Items.nil (items 0 maxItems Misreading.validate) <*>
      field o "glossary" (items 1 maxItems Term.validate) <*>
      field o "limitations" (items 1 maxItems (str _))

end

end Grabatus

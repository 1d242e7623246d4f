import Grabatus.Contract.Readout.RoundTrip
import Grabatus.Lib.Rules

/-!
# The rules of a readout

Over the model validators of `contract/readout/root.py`, `guide.py`, `knowledge.py` and
`provenance.py`. `model_validate_json` checks each field on its own and, around that, seven rules
that tie fields together: three of distinctness, the references of the narrative, the order of the
workflow, the head of the guardrails and the timezone. Some run before the fields are parsed, some
after.

The *declared* validators are the same models without those rules; they return what the rules
read. **A document whose fields are as declared is accepted iff it is consistent**
(`validateJson_iff_consistent`): the seven rules together refuse nothing else and let nothing else
through.
-/

namespace Grabatus

open Grabatus.Lib Grabatus.Python

/-- What the rules of a readout read. -/
structure DeclaredReadout where
  generatedAt : Datetime
  workflow : Items 1 12 WorkflowStep
  artifacts : Items 1 maxServiceOutputs ArtifactDescription
  findings : Items 0 50 Finding
  narrativeOrder : Items 0 20 (Note 64)
  guardrails : Items 4 20 (Note 500)
  inputDigests : Items 1 20 InputDigest

/-- The seven rules. -/
structure DeclaredReadout.Consistent (d : DeclaredReadout) : Prop where
  findingIds : (d.findings.toList.map fun f => f.id.val).Nodup
  artifactRoles : (d.artifacts.toList.map fun a => a.role.val).Nodup
  digestRoles : (d.inputDigests.toList.map fun x => x.role.val).Nodup
  narrative : ∀ step ∈ d.narrativeOrder.toList, ∃ f ∈ d.findings.toList, f.id.val = step.val
  workflow : ContiguousFromOne d.workflow.toList
  guardrails : (d.guardrails.toList.take 4).map Str.val = baseGuardrails
  aware : d.generatedAt.utcoffset.isSome = true

section

variable [UnicodeData] [Pydantic]

/-! ## The models without their rules -/

omit [UnicodeData] in
/-- `ServiceKnowledge` without its rule. -/
def ServiceKnowledge.declared : Json → Validated (Items 1 12 WorkflowStep) :=
  model ["one_liner", "what_it_does", "problem_solved", "when_to_use", "when_not_to_use",
      "personas", "workflow", "input_requirements", "interpretation_playbook",
      "common_misreadings", "glossary", "limitations"] fun o =>
    (fun (_ : Text 280) (_ : Text 2000) (_ : Text 1000)
        (_ _ : Items 1 maxItems (Note itemMaxLength)) (_ : Items 1 maxItems Persona) workflow
        (_ : Items 1 64 InputRequirement) (_ : Items 1 maxItems InterpretationRule)
        (_ : Items 0 maxItems Misreading) (_ : Items 1 maxItems Term)
        (_ : Items 1 maxItems (Note itemMaxLength)) => workflow) <$>
      field o "one_liner" (str _) <*> field o "what_it_does" (str _) <*>
      field o "problem_solved" (str _) <*> field o "when_to_use" (items 1 maxItems (str _)) <*>
      field o "when_not_to_use" (items 1 maxItems (str _)) <*>
      field o "personas" (items 1 maxItems Persona.validate) <*>
      field o "workflow" (items 1 12 WorkflowStep.validate) <*>
      field o "input_requirements" (items 1 64 InputRequirement.validate) <*>
      field o "interpretation_playbook" (items 1 maxItems InterpretationRule.validate) <*>
      fieldOr o "common_misreadings" Items.nil (items 0 maxItems Misreading.validate) <*>
      field o "glossary" (items 1 maxItems Term.validate) <*>
      field o "limitations" (items 1 maxItems (str _))

omit [UnicodeData] in
/-- `ExplanationGuide` without its rule. -/
def ExplanationGuide.declared : Json → Validated (Items 0 20 (Note 64) × Items 4 20 (Note 500)) :=
  model ["audience", "summary_for_llm", "what_was_solved", "recommended_narrative_order",
      "must_not_claim", "guardrails"] fun o =>
    (fun (_ : Text 200) (_ : Text 2000) (_ : Text 1000) order (_ : Items 1 20 (Note 500))
        guardrails => (order, guardrails)) <$>
      field o "audience" (str _) <*> field o "summary_for_llm" (str _) <*>
      field o "what_was_solved" (str _) <*>
      fieldOr o "recommended_narrative_order" Items.nil (items 0 20 (str _)) <*>
      field o "must_not_claim" (items 1 20 (str _)) <*>
      field o "guardrails" (items 4 20 (str _))

omit [UnicodeData] in
/-- `Reproducibility` without its rule. -/
def Reproducibility.declared : Json → Validated (Items 1 20 InputDigest) :=
  model ["random_seed", "compute_duration_seconds", "input_digests", "library_versions"] fun o =>
    (fun (_ : Option Int) (_ : {x : Double // Double.le (.finite 0) x = true}) digests
        (_ : BoundedDict 1 20 (Note 120) (Note 64)) => digests) <$>
      fieldOr o "random_seed" none (nullable (leaf "int" Pydantic.int)) <*>
      field o "compute_duration_seconds" nonnegFloat <*>
      field o "input_digests" (items 1 20 InputDigest.validate) <*>
      field o "library_versions" (dict 1 20 (str _) (str _))

/-- The names of the fields of a readout. -/
def readoutFieldNames : List String :=
  ["readout_version", "generated_at", "request", "service", "service_knowledge", "model", "data",
    "artifacts", "findings", "diagnostics", "overall_quality", "caveats", "explanation_guide",
    "reproducibility"]

/-- `ModelReadout` without any rule. -/
def DeclaredReadout.validate : Json → Validated DeclaredReadout :=
  model readoutFieldNames fun o =>
    (fun (_ : Unit) generatedAt (_ : ReadoutRequest) (_ : ReadoutService) workflow
        (_ : ModelDescription) (_ : DataProvenance) artifacts findings (_ : Items 0 30 Diagnostic)
        (_ : OverallQuality) (_ : Items 0 20 Caveat) guide inputDigests =>
      ⟨generatedAt, workflow, artifacts, findings, guide.1, guide.2, inputDigests⟩) <$>
      fieldOr o "readout_version" () (literal [("1.0", ())]) <*>
      field o "generated_at" (leaf "datetime" Pydantic.datetime) <*>
      field o "request" ReadoutRequest.validate <*>
      field o "service" ReadoutService.validate <*>
      field o "service_knowledge" ServiceKnowledge.declared <*>
      field o "model" ModelDescription.validate <*>
      field o "data" DataProvenance.validate <*>
      field o "artifacts" (items 1 maxServiceOutputs ArtifactDescription.validate) <*>
      fieldOr o "findings" Items.nil (items 0 50 Finding.validate) <*>
      fieldOr o "diagnostics" Items.nil (items 0 30 Diagnostic.validate) <*>
      field o "overall_quality" OverallQuality.validate <*>
      fieldOr o "caveats" Items.nil (items 0 20 Caveat.validate) <*>
      field o "explanation_guide" ExplanationGuide.declared <*>
      field o "reproducibility" Reproducibility.declared

/-! ## One rule at a time -/

omit [UnicodeData] in
theorem Workflow.addsRule : AddsRule Subtype.val (fun w => ContiguousFromOne w.toList)
    Workflow.validate (items 1 12 WorkflowStep.validate) :=
  AddsRule.require (fun _ _ => rfl) _

omit [Pydantic] in
theorem InputDigests.addsRule : AddsRule Subtype.val
    (fun ds => duplicated (ds.toList.map fun d => d.role.val) = [])
    InputDigests.validate (items 1 20 InputDigest.validate) :=
  AddsRule.require (fun _ _ => rfl) _

omit [UnicodeData] in
/-- The guardrails field accepts the declared lists that start with the base. -/
theorem guardrailsField_addsRule : AddsRule id
    (fun gs => (gs.toList.take 4).map Str.val = baseGuardrails)
    guardrailsField (items 4 20 (str _)) := by
  intro j gs
  simp only [id_eq, exists_eq_right, guardrailsField_eq_ok]
  refine and_congr_left fun _ => ⟨?_, fun h => ?_⟩
  · rintro rfl
    exact items_dumpStr gs
  · obtain ⟨js, rfl, hall⟩ := items_eq_ok.mp h
    refine congrArg Json.arr ?_
    rw [← List.forall₂_eq_eq_eq, List.forall₂_map_right_iff]
    exact hall.imp fun _ _ => str_eq_ok.mp

omit [UnicodeData] in
/-- A knowledge block is accepted iff it is as declared and its workflow is contiguous. -/
theorem ServiceKnowledge.addsRule : AddsRule (fun k : ServiceKnowledge => k.workflow.val)
    (fun w => ContiguousFromOne w.toList) validate declared := by
  intro j w
  unfold validate declared
  constructor
  · rintro ⟨k, hk, rfl⟩
    obtain ⟨o, rfl, hbody, hall⟩ := model_eq_ok.mp hk
    simp only [Validated.seq_eq_ok, Validated.map_eq_ok] at hbody
    obtain ⟨_, _, hbody, h12, rfl⟩ := hbody
    obtain ⟨_, _, hbody, h11, rfl⟩ := hbody
    obtain ⟨_, _, hbody, h10, rfl⟩ := hbody
    obtain ⟨_, _, hbody, h9, rfl⟩ := hbody
    obtain ⟨_, _, hbody, h8, rfl⟩ := hbody
    obtain ⟨_, w, hbody, hw, rfl⟩ := hbody
    obtain ⟨_, _, hbody, h6, rfl⟩ := hbody
    obtain ⟨_, _, hbody, h5, rfl⟩ := hbody
    obtain ⟨_, _, hbody, h4, rfl⟩ := hbody
    obtain ⟨_, _, hbody, h3, rfl⟩ := hbody
    obtain ⟨_, _, hbody, h2, rfl⟩ := hbody
    obtain ⟨_, h1, rfl⟩ := hbody
    obtain ⟨hw, hrule⟩ := (Workflow.addsRule.field o "workflow" w.val).mp ⟨w, hw, rfl⟩
    refine ⟨model_eq_ok.mpr ⟨o, rfl, ?_, hall⟩, hrule⟩
    rw [h1, h2, h3, h4, h5, h6, hw, h8, h9, h10, h11, h12]
    rfl
  · rintro ⟨hd, hrule⟩
    obtain ⟨o, rfl, hbody, hall⟩ := model_eq_ok.mp hd
    simp only [Validated.seq_eq_ok, Validated.map_eq_ok] at hbody
    obtain ⟨_, l, hbody, h12, rfl⟩ := hbody
    obtain ⟨_, g, hbody, h11, rfl⟩ := hbody
    obtain ⟨_, m, hbody, h10, rfl⟩ := hbody
    obtain ⟨_, p, hbody, h9, rfl⟩ := hbody
    obtain ⟨_, r, hbody, h8, rfl⟩ := hbody
    obtain ⟨_, w, hbody, hw, rfl⟩ := hbody
    obtain ⟨_, pe, hbody, h6, rfl⟩ := hbody
    obtain ⟨_, nu, hbody, h5, rfl⟩ := hbody
    obtain ⟨_, wu, hbody, h4, rfl⟩ := hbody
    obtain ⟨_, ps, hbody, h3, rfl⟩ := hbody
    obtain ⟨_, wd, hbody, h2, rfl⟩ := hbody
    obtain ⟨ol, h1, rfl⟩ := hbody
    obtain ⟨w', hw', rfl⟩ := (Workflow.addsRule.field o "workflow" w).mpr ⟨hw, hrule⟩
    refine ⟨⟨ol, wd, ps, wu, nu, pe, w', r, p, m, g, l⟩, model_eq_ok.mpr ⟨o, rfl, ?_, hall⟩, rfl⟩
    rw [h1, h2, h3, h4, h5, h6, hw', h8, h9, h10, h11, h12]
    rfl

omit [UnicodeData] in
/-- A guide is accepted iff it is as declared and starts with the base guardrails. -/
theorem ExplanationGuide.addsRule :
    AddsRule (fun g : ExplanationGuide => (g.recommendedNarrativeOrder, g.guardrails))
      (fun d => (d.2.toList.take 4).map Str.val = baseGuardrails) validate declared := by
  intro j d
  unfold validate declared
  constructor
  · rintro ⟨g, hg, rfl⟩
    obtain ⟨o, rfl, hbody, hall⟩ := model_eq_ok.mp hg
    simp only [Validated.seq_eq_ok, Validated.map_eq_ok] at hbody
    obtain ⟨_, gs, hbody, hgs, rfl⟩ := hbody
    obtain ⟨_, _, hbody, h5, rfl⟩ := hbody
    obtain ⟨_, _, hbody, h4, rfl⟩ := hbody
    obtain ⟨_, _, hbody, h3, rfl⟩ := hbody
    obtain ⟨_, _, hbody, h2, rfl⟩ := hbody
    obtain ⟨_, h1, rfl⟩ := hbody
    obtain ⟨hgs, hrule⟩ := (guardrailsField_addsRule.field o "guardrails" gs).mp ⟨gs, hgs, rfl⟩
    refine ⟨model_eq_ok.mpr ⟨o, rfl, ?_, hall⟩, hrule⟩
    rw [h1, h2, h3, h4, h5, hgs]
    rfl
  · rintro ⟨hd, hrule⟩
    obtain ⟨o, rfl, hbody, hall⟩ := model_eq_ok.mp hd
    simp only [Validated.seq_eq_ok, Validated.map_eq_ok] at hbody
    obtain ⟨_, gs, hbody, hgs, rfl⟩ := hbody
    obtain ⟨_, c, hbody, h5, rfl⟩ := hbody
    obtain ⟨_, n, hbody, h4, rfl⟩ := hbody
    obtain ⟨_, ws, hbody, h3, rfl⟩ := hbody
    obtain ⟨_, sm, hbody, h2, rfl⟩ := hbody
    obtain ⟨au, h1, rfl⟩ := hbody
    obtain ⟨gs', hgs', rfl⟩ :=
      (guardrailsField_addsRule.field o "guardrails" gs).mpr ⟨hgs, hrule⟩
    refine ⟨⟨au, sm, ws, n, c, gs'⟩, model_eq_ok.mpr ⟨o, rfl, ?_, hall⟩, rfl⟩
    rw [h1, h2, h3, h4, h5, hgs']
    rfl

/-- A reproducibility block is accepted iff it is as declared and its digests are distinct. -/
theorem Reproducibility.addsRule : AddsRule (fun r : Reproducibility => r.inputDigests.val)
    (fun ds => duplicated (ds.toList.map fun d => d.role.val) = []) validate declared := by
  intro j ds
  unfold validate declared
  constructor
  · rintro ⟨r, hr, rfl⟩
    obtain ⟨o, rfl, hbody, hall⟩ := model_eq_ok.mp hr
    simp only [Validated.seq_eq_ok, Validated.map_eq_ok] at hbody
    obtain ⟨_, _, ⟨_, ds, ⟨_, _, ⟨_, h1, rfl⟩, h2, rfl⟩, hds, rfl⟩, h4, rfl⟩ := hbody
    obtain ⟨hds, hrule⟩ := (InputDigests.addsRule.field o "input_digests" ds.val).mp ⟨ds, hds, rfl⟩
    refine ⟨model_eq_ok.mpr ⟨o, rfl, ?_, hall⟩, hrule⟩
    rw [h1, h2, hds, h4]
    rfl
  · rintro ⟨hd, hrule⟩
    obtain ⟨o, rfl, hbody, hall⟩ := model_eq_ok.mp hd
    simp only [Validated.seq_eq_ok, Validated.map_eq_ok] at hbody
    obtain ⟨_, v, ⟨_, ds, ⟨_, t, ⟨sd, h1, rfl⟩, h2, rfl⟩, hds, rfl⟩, h4, rfl⟩ := hbody
    obtain ⟨ds', hds', rfl⟩ :=
      (InputDigests.addsRule.field o "input_digests" ds).mpr ⟨hds, hrule⟩
    refine ⟨⟨sd, t, ds', v⟩, model_eq_ok.mpr ⟨o, rfl, ?_, hall⟩, rfl⟩
    rw [h1, h2, hds', h4]
    rfl

/-! ## All the rules -/

/-- What the rules read of the fields of a readout. -/
def ReadoutFields.declared (r : ReadoutFields) : DeclaredReadout where
  generatedAt := r.generatedAt
  workflow := r.serviceKnowledge.workflow.val
  artifacts := r.artifacts
  findings := r.findings
  narrativeOrder := r.explanationGuide.recommendedNarrativeOrder
  guardrails := r.explanationGuide.guardrails
  inputDigests := r.reproducibility.inputDigests.val

omit [Pydantic] in
theorem ReadoutFields.dangling_eq_nil {r : ReadoutFields} : sorted r.dangling = [] ↔
    ∀ step ∈ r.declared.narrativeOrder.toList, ∃ f ∈ r.declared.findings.toList,
      f.id.val = step.val := by
  unfold dangling findingIds
  rw [sorted_eq_nil, Finset.sdiff_eq_empty_iff_subset, Finset.subset_iff]
  simp only [List.mem_toFinset, List.mem_map, forall_exists_index, and_imp,
    forall_apply_eq_imp_iff₂]
  rfl

omit [Pydantic] in
/-- The four model validators accept what keeps their rules. -/
theorem ModelReadout.check_iff {f : ReadoutFields} : (∃ r : ModelReadout, r.toReadoutFields = f) ↔
    f.declared.generatedAt.utcoffset.isSome = true ∧
      (f.declared.findings.toList.map fun x => x.id.val).Nodup ∧
      (f.declared.artifacts.toList.map fun a => a.role.val).Nodup ∧
      ∀ step ∈ f.declared.narrativeOrder.toList, ∃ x ∈ f.declared.findings.toList,
        x.id.val = step.val := by
  rw [← ReadoutFields.dangling_eq_nil]
  constructor
  · rintro ⟨r, rfl⟩
    exact ⟨r.aware, duplicated_eq_nil.mp r.findingIds_unique,
      duplicated_eq_nil.mp r.artifactRoles_unique, r.narrative_named⟩
  · rintro ⟨haware, hids, hroles, hnamed⟩
    exact ⟨⟨f, haware, duplicated_eq_nil.mpr hids, duplicated_eq_nil.mpr hroles, hnamed⟩, rfl⟩

/-- The fields of a readout, one by one. -/
theorem ReadoutFields.validate_eq_ok {o : JsonObject} {f : ReadoutFields} : validate o = .ok f ↔
    fieldOr o "readout_version" () (literal [("1.0", ())]) = .ok () ∧
    field o "generated_at" (leaf "datetime" Pydantic.datetime) = .ok f.generatedAt ∧
    field o "request" ReadoutRequest.validate = .ok f.request ∧
    field o "service" ReadoutService.validate = .ok f.service ∧
    field o "service_knowledge" ServiceKnowledge.validate = .ok f.serviceKnowledge ∧
    field o "model" ModelDescription.validate = .ok f.model ∧
    field o "data" DataProvenance.validate = .ok f.data ∧
    field o "artifacts" (items 1 maxServiceOutputs ArtifactDescription.validate) =
      .ok f.artifacts ∧
    fieldOr o "findings" Items.nil (items 0 50 Finding.validate) = .ok f.findings ∧
    fieldOr o "diagnostics" Items.nil (items 0 30 Diagnostic.validate) = .ok f.diagnostics ∧
    field o "overall_quality" OverallQuality.validate = .ok f.overallQuality ∧
    fieldOr o "caveats" Items.nil (items 0 20 Caveat.validate) = .ok f.caveats ∧
    field o "explanation_guide" ExplanationGuide.validate = .ok f.explanationGuide ∧
    field o "reproducibility" Reproducibility.validate = .ok f.reproducibility := by
  unfold validate
  constructor
  · intro h
    simp only [Validated.seq_eq_ok, Validated.map_eq_ok] at h
    -- the last field first, as `<*>` nests them
    obtain ⟨_, _, h, h14, rfl⟩ := h
    obtain ⟨_, _, h, h13, rfl⟩ := h
    obtain ⟨_, _, h, h12, rfl⟩ := h
    obtain ⟨_, _, h, h11, rfl⟩ := h
    obtain ⟨_, _, h, h10, rfl⟩ := h
    obtain ⟨_, _, h, h9, rfl⟩ := h
    obtain ⟨_, _, h, h8, rfl⟩ := h
    obtain ⟨_, _, h, h7, rfl⟩ := h
    obtain ⟨_, _, h, h6, rfl⟩ := h
    obtain ⟨_, _, h, h5, rfl⟩ := h
    obtain ⟨_, _, h, h4, rfl⟩ := h
    obtain ⟨_, _, h, h3, rfl⟩ := h
    obtain ⟨_, _, h, h2, rfl⟩ := h
    obtain ⟨_, h1, rfl⟩ := h
    exact ⟨h1, h2, h3, h4, h5, h6, h7, h8, h9, h10, h11, h12, h13, h14⟩
  · rintro ⟨h1, h2, h3, h4, h5, h6, h7, h8, h9, h10, h11, h12, h13, h14⟩
    rw [h1, h2, h3, h4, h5, h6, h7, h8, h9, h10, h11, h12, h13, h14]
    rfl

/-- The fields of a readout are those of its document. -/
theorem ModelReadout.fields_of_validateJson {payload : Bytes} {o : JsonObject} {r : ModelReadout}
    (hjson : Pydantic.fromJson payload = some (.obj o)) (h : validateJson payload = .ok r) :
    ReadoutFields.validate o = .ok r.toReadoutFields := by
  unfold validateJson at h
  rw [hjson] at h
  obtain ⟨f, hf, hcheck⟩ := Validated.andThen_eq_ok.mp h
  obtain rfl := check_eq_ok.mp hcheck
  obtain ⟨o', ho, hbody, -⟩ := model_eq_ok.mp hf
  obtain rfl := Json.obj.inj ho
  exact hbody

/-- The fields are accepted iff they are as declared and keep the rules of their blocks. -/
theorem ReadoutFields.addsRule : AddsRule declared
    (fun d => ContiguousFromOne d.workflow.toList ∧
      (d.guardrails.toList.take 4).map Str.val = baseGuardrails ∧
        duplicated (d.inputDigests.toList.map fun x => x.role.val) = [])
    (Lib.model readoutFieldNames validate) DeclaredReadout.validate := by
  intro j d
  unfold DeclaredReadout.validate
  constructor
  · rintro ⟨f, hf, rfl⟩
    obtain ⟨o, rfl, hbody, hall⟩ := model_eq_ok.mp hf
    obtain ⟨h1, h2, h3, h4, hk, h6, h7, h8, h9, h10, h11, h12, hg, hr⟩ := validate_eq_ok.mp hbody
    obtain ⟨hk, hworkflow⟩ := (ServiceKnowledge.addsRule.field o "service_knowledge" _).mp
      ⟨_, hk, rfl⟩
    obtain ⟨hg, hguide⟩ := (ExplanationGuide.addsRule.field o "explanation_guide" _).mp
      ⟨_, hg, rfl⟩
    obtain ⟨hr, hdigests⟩ := (Reproducibility.addsRule.field o "reproducibility" _).mp
      ⟨_, hr, rfl⟩
    refine ⟨model_eq_ok.mpr ⟨o, rfl, ?_, hall⟩, hworkflow, hguide, hdigests⟩
    rw [h1, h2, h3, h4, hk, h6, h7, h8, h9, h10, h11, h12, hg, hr]
    rfl
  · rintro ⟨hd, hworkflow, hguide, hdigests⟩
    obtain ⟨o, rfl, hbody, hall⟩ := model_eq_ok.mp hd
    simp only [Validated.seq_eq_ok, Validated.map_eq_ok] at hbody
    obtain ⟨_, ds, hbody, hr, rfl⟩ := hbody
    obtain ⟨_, g, hbody, hg, rfl⟩ := hbody
    obtain ⟨_, cs, hbody, h12, rfl⟩ := hbody
    obtain ⟨_, q, hbody, h11, rfl⟩ := hbody
    obtain ⟨_, dg, hbody, h10, rfl⟩ := hbody
    obtain ⟨_, fs, hbody, h9, rfl⟩ := hbody
    obtain ⟨_, as, hbody, h8, rfl⟩ := hbody
    obtain ⟨_, da, hbody, h7, rfl⟩ := hbody
    obtain ⟨_, m, hbody, h6, rfl⟩ := hbody
    obtain ⟨_, w, hbody, hk, rfl⟩ := hbody
    obtain ⟨_, sv, hbody, h4, rfl⟩ := hbody
    obtain ⟨_, rq, hbody, h3, rfl⟩ := hbody
    obtain ⟨_, t, hbody, h2, rfl⟩ := hbody
    obtain ⟨_, h1, rfl⟩ := hbody
    obtain ⟨k, hk', rfl⟩ := (ServiceKnowledge.addsRule.field o "service_knowledge" w).mpr
      ⟨hk, hworkflow⟩
    obtain ⟨g', hg', rfl⟩ := (ExplanationGuide.addsRule.field o "explanation_guide" g).mpr
      ⟨hg, hguide⟩
    obtain ⟨r, hr', rfl⟩ := (Reproducibility.addsRule.field o "reproducibility" ds).mpr
      ⟨hr, hdigests⟩
    refine ⟨⟨t, rq, sv, k, m, da, as, fs, dg, q, cs, g', r⟩, model_eq_ok.mpr ⟨o, rfl, ?_, hall⟩,
      rfl⟩
    exact validate_eq_ok.mpr
      ⟨h1, h2, h3, h4, hk', h6, h7, h8, h9, h10, h11, h12, hg', hr'⟩

/-- **A readout is accepted iff it is as declared and consistent.** -/
theorem ModelReadout.addsRule :
    AddsRule (fun r : ModelReadout => r.toReadoutFields.declared) DeclaredReadout.Consistent
      validate DeclaredReadout.validate := by
  intro j d
  unfold validate
  simp only [Validated.andThen_eq_ok, check_eq_ok]
  constructor
  · rintro ⟨r, ⟨f, hf, rfl⟩, rfl⟩
    obtain ⟨hd, hworkflow, hguide, hdigests⟩ := (ReadoutFields.addsRule j _).mp ⟨_, hf, rfl⟩
    obtain ⟨haware, hids, hroles, hnamed⟩ := check_iff.mp ⟨r, rfl⟩
    exact ⟨hd, hids, hroles, duplicated_eq_nil.mp hdigests, hnamed, hworkflow, hguide, haware⟩
  · rintro ⟨hd, hids, hroles, hdigests, hnamed, hworkflow, hguide, haware⟩
    obtain ⟨f, hf, rfl⟩ := (ReadoutFields.addsRule j d).mpr
      ⟨hd, hworkflow, hguide, duplicated_eq_nil.mpr hdigests⟩
    obtain ⟨r, rfl⟩ := check_iff.mpr ⟨haware, hids, hroles, hnamed⟩
    exact ⟨r, ⟨_, hf, rfl⟩, rfl⟩

/-- **`model_validate_json` accepts a document whose fields are as declared iff it keeps the seven
rules.** -/
theorem validateJson_iff_consistent {payload : Bytes} {j : Json} {d : DeclaredReadout}
    (hjson : Pydantic.fromJson payload = some j) (hdeclared : DeclaredReadout.validate j = .ok d) :
    (∃ r, ModelReadout.validateJson payload = .ok r) ↔ d.Consistent := by
  unfold ModelReadout.validateJson
  rw [hjson]
  constructor
  · rintro ⟨r, hr⟩
    obtain ⟨hd, hconsistent⟩ := (ModelReadout.addsRule j _).mp ⟨r, hr, rfl⟩
    obtain rfl := Validated.ok.inj (hd.symm.trans hdeclared)
    exact hconsistent
  · intro hconsistent
    obtain ⟨r, hr, -⟩ := (ModelReadout.addsRule j d).mpr ⟨hdeclared, hconsistent⟩
    exact ⟨r, hr⟩

end

/-! ## A readout with two of everything -/

attribute [local instance] UnicodeData.ascii

/-- A document with two entries or more for each of the rules. -/
theorem validateJson_iff_consistent_sample : letI := Sample.twofoldLeaves
    ∃ d, DeclaredReadout.validate Sample.twofoldReadout.dump = .ok d ∧
      d = Sample.twofoldFields.declared ∧ d.Consistent := by
  let _ := Sample.twofoldLeaves
  have hread : ModelReadout.validate Sample.twofoldReadout.dump = .ok Sample.twofoldReadout := by
    refine (ModelReadout.validate_dump (Sample.scalarsSurvive _) Sample.leavesSurvive_twofold
      ?_).mpr ⟨?_, ?_⟩
    · show (Sample.twofoldFields.explanationGuide.guardrails.toList.take 4).map Str.val =
        baseGuardrails
      rfl
    · decide
    · show ∀ a ∈ Sample.twofoldFields.artifacts.toList, a.uri.url.text.utf8ByteSize ≤ maxUriLength
      decide
  obtain ⟨hdeclared, -⟩ := (ModelReadout.addsRule _ _).mp ⟨_, hread, rfl⟩
  have hjson : Pydantic.fromJson (Sample.toJson Sample.twofoldReadout.dump) =
      some Sample.twofoldReadout.dump := by
    rw [Sample.dump_leavesReading]
    exact Leaves.fromJson_render _
  have haccepted : ModelReadout.validateJson (Sample.toJson Sample.twofoldReadout.dump) =
      .ok Sample.twofoldReadout :=
    (ModelReadout.validateJson_dumpJson hjson).trans hread
  exact ⟨_, hdeclared, rfl, (validateJson_iff_consistent hjson hdeclared).mp ⟨_, haccepted⟩⟩

end Grabatus

import Grabatus.Contract.Readout.Dump
import Grabatus.Lib.Reread
import Grabatus.Testing.Readout

/-!
# The round trip of a readout

Over the models of `contract/readout/`. `ModelReadout.model_validate_json(r.model_dump_json())`,
record by record: most records read back as they are (`Undoes`), one that holds floats exactly
when they are finite (`UndoesWhen`), since an infinity or NaN is dumped as `null`. Where a float
is required the `null` is rejected; where it is optional the value comes back as `None`.

* `ModelReadout.validate_dump` assembles the records: besides the floats only the rendering of an
  artifact's URI, which may be longer than the text that was checked, can fail.
* `ModelReadout.validateJson_dumpJson_iff` is the same through the JSON text.
-/

namespace Grabatus

open Grabatus.Lib Grabatus.Python

/-! ## Vocabularies -/

theorem ModelFamily.lookup_name : ∀ f : ModelFamily, Dict.lookup f.name ModelFamily.values = some f
  | .timeSeriesForecast | .bayesianInference | .abTest | .optimization | .classification
  | .regression | .clustering | .survivalAnalysis | .simulation | .associationRules => by decide

theorem Paradigm.lookup_name : ∀ p : Paradigm, Dict.lookup p.name Paradigm.values = some p
  | .bayesian | .frequentist | .optimization | .heuristic | .mlSupervised | .mlUnsupervised => by
    decide

theorem UncertaintyKind.lookup_name :
    ∀ k : UncertaintyKind, Dict.lookup k.name UncertaintyKind.values = some k
  | .credibleInterval | .confidenceInterval | .predictionInterval | .standardError | .none => by
    decide

theorem Direction.lookup_name : ∀ d : Direction, Dict.lookup d.name Direction.values = some d
  | .increase | .decrease | .stable | .notApplicable => by decide

theorem Confidence.lookup_name : ∀ c : Confidence, Dict.lookup c.name Confidence.values = some c
  | .high | .moderate | .low => by decide

theorem DiagnosticStatus.lookup_name :
    ∀ s : DiagnosticStatus, Dict.lookup s.name DiagnosticStatus.values = some s
  | .pass | .warn | .fail => by decide

theorem Severity.lookup_name : ∀ s : Severity, Dict.lookup s.name Severity.values = some s
  | .high | .medium | .low => by decide

theorem FieldType.lookup_name : ∀ t : FieldType, Dict.lookup t.name FieldType.values = some t
  | .number | .integer | .string | .boolean | .date | .datetime => by decide

/-! ## Scalars -/

@[simp] theorem str_dumpStr {c : StrSpec} (s : Str c) : str c (dumpStr s) = .ok s := str_val s

@[simp] theorem nullable_dumpStr {c : StrSpec} (s : Option (Str c)) :
    nullable (str c) (dumpNullable dumpStr s) = .ok s :=
  Undoes.nullable str_dumpStr (fun _ => nofun) s

theorem items_dumpItems {α : Type} {dump : α → Json} {v : Json → Validated α}
    (h : Undoes dump v) {lo hi : Nat} (xs : Items lo hi α) :
    items lo hi v (dumpItems dump xs) = .ok xs :=
  Undoes.items h xs

theorem items_dumpItems_iff {α : Type} {P : α → Prop} {dump : α → Json} {v : Json → Validated α}
    (h : UndoesWhen P dump v) {lo hi : Nat} (xs : Items lo hi α) :
    items lo hi v (dumpItems dump xs) = .ok xs ↔ ∀ x ∈ xs.toList, P x :=
  h.items xs

@[simp] theorem items_dumpStr {c : StrSpec} {lo hi : Nat} (xs : Items lo hi (Str c)) :
    items lo hi (str c) (dumpItems dumpStr xs) = .ok xs :=
  items_dumpItems str_dumpStr xs

theorem dict_dumpDict {α : Type} {P : α → Prop} {dump : α → Json} {v : Json → Validated α}
    (h : UndoesWhen P dump v) {c : StrSpec} {lo hi : Nat} (d : BoundedDict lo hi (Str c) α) :
    dict lo hi (str c) v (dumpDict dump d) = .ok d ↔ ∀ e ∈ d.val.entries, P e.2 :=
  UndoesWhen.dict str_dumpStr h d

@[simp] theorem dict_dumpStr {c c' : StrSpec} {lo hi : Nat}
    (d : BoundedDict lo hi (Str c) (Str c')) :
    dict lo hi (str c) (str c') (dumpDict dumpStr d) = .ok d :=
  (dict_dumpDict (Undoes.undoesWhen str_dumpStr) d).mpr fun _ _ => trivial

/-- A dumped float is `null` only when it is not finite. -/
theorem not_finite_of_dumpFloat {x : Double} (h : dumpFloat x = .null) : ¬ x.isFinite = true := by
  cases x with
  | finite q => cases h
  | posInf | negInf | nan => exact Bool.false_ne_true

/-! ## Records of texts -/

theorem Caveat.validate_dump : Undoes dump validate := by
  intro c
  cases c
  simp [validate, dump, model_of_keys, field, Dict.lookup, Undoes.literal Severity.lookup_name _]

theorem OverallQuality.validate_dump : Undoes dump validate := by
  intro q
  cases q
  simp [validate, dump, model_of_keys, field, Dict.lookup,
    Undoes.literal DiagnosticStatus.lookup_name _]

theorem Persona.validate_dump : Undoes dump validate := by
  intro p
  cases p
  simp [validate, dump, model_of_keys, field, Dict.lookup]

theorem InterpretationRule.validate_dump : Undoes dump validate := by
  intro r
  cases r
  simp [validate, dump, model_of_keys, field, Dict.lookup]

theorem Misreading.validate_dump : Undoes dump validate := by
  intro m
  cases m
  simp [validate, dump, model_of_keys, field, Dict.lookup]

theorem Term.validate_dump : Undoes dump validate := by
  intro t
  cases t
  simp [validate, dump, model_of_keys, field, Dict.lookup]

theorem Prior.validate_dump : Undoes dump validate := by
  intro p
  cases p
  simp [validate, dump, model_of_keys, field, Dict.lookup]

theorem InputDigest.validate_dump : Undoes dump validate := by
  intro d
  cases d
  simp [validate, dump, model_of_keys, field, Dict.lookup]

theorem ReadoutRequest.validate_dump : Undoes dump validate := by
  intro r
  cases r
  simp [validate, dump, model_of_keys, field, Dict.lookup, Undoes.literal Origin.lookup_name _]

/-- **A hyperparameter survives iff it holds no infinity and no NaN**: those come back as
`None`. -/
theorem HyperparameterValue.validate_dump :
    UndoesWhen (fun v => ∀ x ∈ v.floats, x.isFinite = true) dump validate := by
  intro v
  cases v with
  | float x =>
    cases x with
    | finite q => simp [validate, dump, dumpFloat, floats, Double.isFinite]
    | posInf | negInf | nan => simp [validate, dump, dumpFloat, floats, Double.isFinite]
  | str s => simp [validate, dump, dumpStr, floats]
  | bool | int | none => simp [validate, dump, floats]

section

variable [Pydantic]

/-- **A float survives iff it is finite.** -/
theorem float_dump (h : ScalarsSurvive) :
    UndoesWhen (fun x => x.isFinite = true) dumpFloat (leaf "float" Pydantic.float) := by
  intro x
  cases x with
  | finite q => exact iff_of_true (leaf_eq_ok.mpr (h.float q)) rfl
  | posInf | negInf | nan =>
    refine iff_of_false (fun hread => ?_) Bool.false_ne_true
    cases h.float_null.symm.trans (leaf_eq_ok.mp hread)

/-- A bounded float survives iff the float does. -/
theorem boundedFloat_dump (h : ScalarsSurvive) {p : Double → Prop} [DecidablePred p] :
    UndoesWhen (fun x : {x : Double // p x} => x.val.isFinite = true) (fun x => dumpFloat x.val)
      fun j => (leaf "float" Pydantic.float j).andThen fun x =>
        if hx : p x then .ok ⟨x, hx⟩ else .fail .outOfRange := by
  rintro ⟨x, hx⟩
  rw [Validated.andThen_eq_ok, ← float_dump h x]
  constructor
  · rintro ⟨y, hy, hread⟩
    split at hread
    · obtain rfl : y = x := congrArg Subtype.val (Validated.ok.inj hread)
      exact hy
    · exact absurd hread (Validated.fail_ne_ok _ _)
  · exact fun hread => ⟨x, hread, dif_pos hx⟩

theorem unitFloat_dump (h : ScalarsSurvive) :
    UndoesWhen (fun x => x.val.isFinite = true) (fun x => dumpFloat x.val) unitFloat :=
  boundedFloat_dump h

theorem nonnegFloat_dump (h : ScalarsSurvive) :
    UndoesWhen (fun x => x.val.isFinite = true) (fun x => dumpFloat x.val) nonnegFloat :=
  boundedFloat_dump h

theorem intFrom_int (h : ScalarsSurvive) {lo : Int} (n : {n : Int // lo ≤ n}) :
    intFrom lo (.int n.val) = .ok n := by
  unfold intFrom
  rw [leaf_eq_ok.mpr (h.int n.val)]
  exact dif_pos n.property

theorem intBetween_int (h : ScalarsSurvive) {lo hi : Int} (n : {n : Int // lo ≤ n ∧ n ≤ hi}) :
    intBetween lo hi (.int n.val) = .ok n :=
  intBetween_eq_ok.mpr (h.int n.val)

theorem leaf_bool (h : ScalarsSurvive) (b : Bool) : leaf "bool" Pydantic.bool (.bool b) = .ok b :=
  leaf_eq_ok.mpr (h.bool b)

theorem nullable_int (h : ScalarsSurvive) (n : Option Int) :
    nullable (leaf "int" Pydantic.int) (dumpNullable Json.int n) = .ok n :=
  Undoes.nullable (fun n => leaf_eq_ok.mpr (h.int n)) (fun _ => nofun) n

/-! ## Artifacts -/

theorem FieldDescription.validate_dump (h : ScalarsSurvive) :
    UndoesWhen (fun f => ∀ x ∈ f.floats, x.isFinite = true) dump validate := by
  intro f
  cases f
  simp [validate, dump, floats, model_of_keys, field, fieldOr, Dict.lookup,
    Undoes.literal FieldType.lookup_name _,
    (unitFloat_dump h).nullable (fun x => not_finite_of_dumpFloat)]

/-- A URI survives iff its rendering is within the bound, when the URL itself does. -/
theorem ArtifactUri.validate_text {u : ArtifactUri}
    (h : Pydantic.anyUrl (.str u.url.text) = some u.url) :
    validate (.str u.url.text) = .ok u ↔ u.url.text.utf8ByteSize ≤ maxUriLength := by
  unfold validate
  by_cases hlong : maxUriLength < u.url.text.utf8ByteSize
  · simp only [hlong, if_true]
    exact iff_of_false (Validated.fail_ne_ok _ _) (by omega)
  · simp only [hlong, if_false, leaf_eq_ok.mpr h, Validated.andThen]
    exact iff_of_true (dif_pos u.allowed) (by omega)

/-- **An artefact survives** iff its URI fits and its floats are finite. -/
theorem ArtifactDescription.validate_dump (h : ScalarsSurvive) {a : ArtifactDescription}
    (ha : Pydantic.anyUrl (.str a.uri.url.text) = some a.uri.url) :
    validate a.dump = .ok a ↔ a.UriFits ∧ ∀ x ∈ a.floats, x.isFinite = true := by
  cases a
  simp [validate, dump, floats, UriFits, model_of_keys, field, Dict.lookup,
    Undoes.literal DataFormat.lookup_name _, ArtifactUri.validate_text ha,
    items_dumpItems_iff (FieldDescription.validate_dump h), List.forall_mem_flatMap,
    -List.mem_flatMap]

/-! ## Diagnostics and data -/

theorem Diagnostic.validate_dump (h : ScalarsSurvive) :
    UndoesWhen (fun d => d.value.isFinite = true) dump validate := by
  intro d
  cases d
  simp [validate, dump, model_of_keys, field, Dict.lookup,
    Undoes.literal DiagnosticStatus.lookup_name _, float_dump h _]

theorem PeriodCovered.validate_dump {p : PeriodCovered} (h : p.LeavesSurvive) :
    validate p.dump = .ok p := by
  rcases p with ⟨start, stop, hordered⟩
  simp [validate, dump, model_of_keys, field, Dict.lookup, leaf, h.start, h.stop,
    require_eq_ok, hordered]

theorem EntitySummary.validate_dump (h : ScalarsSurvive) : Undoes dump validate := by
  intro e
  cases e
  simp [validate, dump, model_of_keys, field, Dict.lookup, intFrom_int h]

theorem DataProvenance.validate_dump (h : ScalarsSurvive) {d : DataProvenance}
    (hp : ∀ p ∈ d.periodCovered, p.LeavesSurvive) : validate d.dump = .ok d := by
  have hperiod : nullable PeriodCovered.validate
      (dumpNullable PeriodCovered.dump d.periodCovered) = .ok d.periodCovered := by
    cases hd : d.periodCovered with
    | none => rfl
    | some p =>
      show some <$> PeriodCovered.validate p.dump = _
      rw [PeriodCovered.validate_dump (hp p hd)]
      rfl
  cases d
  simp only at hperiod
  simp [validate, dump, model_of_keys, field, fieldOr, Dict.lookup, intFrom_int h, hperiod,
    items_dumpItems (EntitySummary.validate_dump h)]

/-! ## Guide and knowledge -/

omit [Pydantic] in
/-- The head of dumped strings is the strings themselves. -/
theorem leadingStrings_dump {c : StrSpec} (xs : List (Str c)) :
    leadingStrings (xs.map dumpStr) = xs.map Str.val := by
  induction xs with
  | nil => rfl
  | cons x xs ih => exact congrArg (x.val :: ·) ih

/-- The guardrails validate iff they start with the base ones. -/
theorem guardrailsField_eq_ok {j : Json} {gs : Items 4 20 (Note 500)} :
    guardrailsField j = .ok gs ↔
      j = dumpItems dumpStr gs ∧ (gs.toList.take 4).map Str.val = baseGuardrails := by
  constructor
  · intro h
    unfold guardrailsField at h
    split at h
    · rename_i js
      split at h
      · rename_i hbase
        obtain ⟨_, hjs, hall⟩ := items_eq_ok.mp h
        obtain rfl := Json.arr.inj hjs
        have hdump : js = gs.toList.map dumpStr := by
          rw [← List.forall₂_eq_eq_eq, List.forall₂_map_right_iff]
          exact hall.imp fun _ _ => str_eq_ok.mp
        rw [hdump, ← List.map_take, leadingStrings_dump] at hbase
        exact ⟨congrArg Json.arr hdump, hbase⟩
      · exact absurd h (Validated.fail_ne_ok _ _)
    · exact absurd h (Validated.fail_ne_ok _ _)
  · rintro ⟨rfl, hbase⟩
    unfold guardrailsField dumpItems
    simp only [← List.map_take, leadingStrings_dump]
    rw [if_pos hbase]
    exact items_dumpStr gs

/-- **A guide survives** iff it starts with the base guardrails, as every constructed one does. -/
theorem ExplanationGuide.validate_dump {g : ExplanationGuide} :
    validate g.dump = .ok g ↔ g.StartsWithTheBase := by
  cases g
  simp [validate, dump, StartsWithTheBase, model_of_keys, field, fieldOr, Dict.lookup,
    guardrailsField_eq_ok]

/-- The guide's own validator is what makes it start with the base guardrails. -/
theorem ExplanationGuide.startsWithTheBase {j : Json} {g : ExplanationGuide}
    (h : validate j = .ok g) : g.StartsWithTheBase := by
  obtain ⟨o, rfl, hbody, -⟩ := model_eq_ok.mp h
  simp only [Validated.seq_eq_ok, Validated.map_eq_ok] at hbody
  obtain ⟨_, _, hbody, hgs, rfl⟩ := hbody
  obtain ⟨_, _, hbody, -, rfl⟩ := hbody
  obtain ⟨_, _, hbody, -, rfl⟩ := hbody
  obtain ⟨_, _, hbody, -, rfl⟩ := hbody
  obtain ⟨_, _, hbody, -, rfl⟩ := hbody
  obtain ⟨_, -, rfl⟩ := hbody
  obtain ⟨_, -, hgs⟩ := field_eq_ok.mp hgs
  exact (guardrailsField_eq_ok.mp hgs).2

theorem WorkflowStep.validate_dump (h : ScalarsSurvive) : Undoes dump validate := by
  intro s
  cases s
  simp [validate, dump, model_of_keys, field, Dict.lookup, intBetween_int h]

theorem InputRequirement.validate_dump (h : ScalarsSurvive) : Undoes dump validate := by
  intro i
  cases i
  simp [validate, dump, model_of_keys, field, Dict.lookup, leaf_bool h]

theorem Workflow.validate_dump (h : ScalarsSurvive) (w : Workflow) :
    validate (dumpItems WorkflowStep.dump w.val) = .ok w := by
  unfold validate
  rw [items_dumpItems (WorkflowStep.validate_dump h)]
  exact require_eq_ok.mpr ⟨w.property, rfl⟩

theorem ServiceKnowledge.validate_dump (h : ScalarsSurvive) : Undoes dump validate := by
  intro k
  cases k
  simp [validate, dump, model_of_keys, field, fieldOr, Dict.lookup,
    items_dumpItems Persona.validate_dump, Workflow.validate_dump h,
    items_dumpItems (InputRequirement.validate_dump h),
    items_dumpItems InterpretationRule.validate_dump, items_dumpItems Misreading.validate_dump,
    items_dumpItems Term.validate_dump]

/-! ## Findings -/

theorem Quantity.validate_dump (h : ScalarsSurvive) :
    UndoesWhen (fun q => q.value.isFinite = true) dump validate := by
  intro q
  cases q
  simp [validate, dump, model_of_keys, field, Dict.lookup, float_dump h _]

theorem ComparisonBaseline.validate_dump (h : ScalarsSurvive) :
    UndoesWhen (fun b => b.value.isFinite = true) dump validate := by
  intro b
  cases b
  simp [validate, dump, model_of_keys, field, Dict.lookup, float_dump h _]

variable [UnicodeData]

/-- **An uncertainty survives iff its level and bounds are finite.** A bound that is not comes
back as no bound, which another kind may allow. -/
theorem Uncertainty.validate_dump (h : ScalarsSurvive) :
    UndoesWhen (fun u => ∀ x ∈ u.floats, x.isFinite = true) dump validate := by
  rintro ⟨kind, level, lower, upper, hbounds⟩
  have hlevel := (unitFloat_dump h).nullable (fun _ => not_finite_of_dumpFloat) level
  have hlower := (float_dump h).nullable (fun _ => not_finite_of_dumpFloat) lower
  have hupper := (float_dump h).nullable (fun _ => not_finite_of_dumpFloat) upper
  have hfloats : (∀ x ∈ level.toList.map Subtype.val ++ lower.toList ++ upper.toList,
      x.isFinite = true) ↔ (∀ x ∈ level, x.val.isFinite = true) ∧
        (∀ x ∈ lower, x.isFinite = true) ∧ ∀ x ∈ upper, x.isFinite = true := by
    simp only [List.forall_mem_append, List.forall_mem_map, Option.mem_toList, Option.mem_def,
      and_assoc]
  simp only [floats, hfloats, ← hlevel, ← hlower, ← hupper]
  simp [validate, dump, model_of_keys, field, fieldOr, Dict.lookup,
    Undoes.literal UncertaintyKind.lookup_name _, require_eq_ok]
  exact fun _ _ _ => hbounds

theorem Finding.validate_dump (h : ScalarsSurvive) :
    UndoesWhen (fun f => ∀ x ∈ f.floats, x.isFinite = true) dump validate := by
  intro f
  have hbaseline : ∀ b : ComparisonBaseline, b.dump = .null → ¬ b.value.isFinite = true := by
    intro b hb
    cases hb
  cases f
  simp [validate, dump, floats, model_of_keys, field, fieldOr, Dict.lookup, intBetween_int h,
    Undoes.literal Direction.lookup_name _, Undoes.literal Confidence.lookup_name _,
    Quantity.validate_dump h _, Uncertainty.validate_dump h _,
    (ComparisonBaseline.validate_dump h).nullable hbaseline, List.forall_mem_append,
    List.forall_mem_map, and_assoc, -List.mem_append, -List.mem_map]

/-! ## Model and reproducibility -/

omit [UnicodeData] in
theorem Assumption.validate_dump (h : ScalarsSurvive) : Undoes dump validate := by
  intro a
  cases a
  simp [validate, dump, model_of_keys, field, Dict.lookup, leaf_bool h]

omit [UnicodeData] in
/-- **A model description survives iff its hyperparameters do.** -/
theorem ModelDescription.validate_dump (h : ScalarsSurvive) :
    UndoesWhen (fun m => ∀ x ∈ m.floats, x.isFinite = true) dump validate := by
  intro m
  cases m
  simp [validate, dump, floats, model_of_keys, field, fieldOr, Dict.lookup,
    Undoes.literal ModelFamily.lookup_name _, Undoes.literal Paradigm.lookup_name _,
    items_dumpItems (Assumption.validate_dump h), items_dumpItems Prior.validate_dump,
    dict_dumpDict HyperparameterValue.validate_dump, List.forall_mem_flatMap, -List.mem_flatMap,
    -Subtype.exists]

omit [Pydantic] in
theorem InputDigests.validate_dump (ds : InputDigests) :
    validate (dumpItems InputDigest.dump ds.val) = .ok ds := by
  unfold validate
  rw [items_dumpItems InputDigest.validate_dump]
  exact require_eq_ok.mpr ⟨ds.property, rfl⟩

theorem Reproducibility.validate_dump (h : ScalarsSurvive) :
    UndoesWhen (fun r => r.computeDurationSeconds.val.isFinite = true) dump validate := by
  intro r
  cases r
  simp [validate, dump, model_of_keys, field, fieldOr, Dict.lookup, nullable_int h,
    nonnegFloat_dump h _, InputDigests.validate_dump, -Subtype.exists]

omit [Pydantic] in
theorem ReadoutService.validate_dump : Undoes dump validate := by
  intro s
  cases s
  simp [validate, dump, model_of_keys, field, Dict.lookup]

/-! ## The readout -/

omit [Pydantic] in
/-- What the model validators check, a readout carries. -/
theorem ModelReadout.check_fields (r : ModelReadout) : check r.toReadoutFields = .ok r := by
  unfold check
  rw [require_of r.aware, Validated.andThen, require_of r.findingIds_unique, Validated.andThen,
    require_of r.artifactRoles_unique, Validated.andThen, require_of r.narrative_named]

omit [Pydantic] in
theorem ModelReadout.check_eq_ok {f : ReadoutFields} {r : ModelReadout} :
    check f = .ok r ↔ f = r.toReadoutFields := by
  constructor
  · intro h
    simp only [check, Validated.andThen_eq_ok, require_eq_ok] at h
    obtain ⟨_, -, _, -, _, -, _, rfl⟩ := h
    rfl
  · rintro rfl
    exact check_fields r

/-- The fields of a dumped readout. -/
theorem ReadoutFields.validate_dump (h : ScalarsSurvive) {r : ReadoutFields}
    (hleaves : r.LeavesSurvive) (hguide : r.explanationGuide.StartsWithTheBase) :
    Lib.model ["readout_version", "generated_at", "request", "service", "service_knowledge",
        "model", "data", "artifacts", "findings", "diagnostics", "overall_quality", "caveats",
        "explanation_guide", "reproducibility"] validate r.dump = .ok r ↔
      (∀ x ∈ r.floats, x.isFinite = true) ∧ ∀ a ∈ r.artifacts.toList, a.UriFits := by
  have hartifacts : items 1 maxServiceOutputs ArtifactDescription.validate
      (dumpItems ArtifactDescription.dump r.artifacts) = .ok r.artifacts ↔
        ∀ a ∈ r.artifacts.toList, a.UriFits ∧ ∀ x ∈ a.floats, x.isFinite = true :=
    items_self_iff fun a ha => ArtifactDescription.validate_dump h (hleaves.artifacts a ha)
  have hdata := DataProvenance.validate_dump h hleaves.periodCovered
  have hguide := ExplanationGuide.validate_dump.mpr hguide
  have hgenerated : leaf "datetime" Pydantic.datetime
      (.str (Pydantic.dumpDatetime r.generatedAt)) = .ok r.generatedAt :=
    leaf_eq_ok.mpr hleaves.generatedAt
  have hversion : literal [("1.0", ())] (.str "1.0") = .ok () := rfl
  cases r
  simp only at hartifacts hdata hguide hgenerated
  simp only [dump, List.map_cons, List.map_nil, model_of_keys, validate, fieldOr, Dict.lookup,
    ↓reduceIte, hversion, Validated.under_ok, Validated.map_ok, field, String.reduceEq, hgenerated,
    Validated.seq_ok, ReadoutRequest.validate_dump _, ReadoutService.validate_dump _,
    ServiceKnowledge.validate_dump h _, hdata, OverallQuality.validate_dump _,
    items_dumpItems Caveat.validate_dump, hguide, Validated.seq_eq_ok, Validated.ok.injEq,
    Validated.under_eq_ok, exists_and_left, exists_eq_left', ↓existsAndEq, true_and,
    exists_exists_and_eq_and, exists_exists_and_exists_and_eq_and, and_true, mk.injEq,
    Reproducibility.validate_dump h _, items_dumpItems_iff (Diagnostic.validate_dump h),
    items_dumpItems_iff (Finding.validate_dump h), hartifacts, exists_eq_right_right,
    ModelDescription.validate_dump h _, floats, List.append_assoc, List.forall_mem_append,
    List.forall_mem_flatMap, List.forall_mem_map, List.mem_cons, List.not_mem_nil, or_false,
    forall_eq]
  constructor
  · rintro ⟨⟨⟨hm, ha, hf⟩, hd⟩, hr⟩
    exact ⟨⟨hm, fun a h => (ha a h).2, hf, hd, hr⟩, fun a h => (ha a h).1⟩
  · rintro ⟨⟨hm, ha, hf, hd, hr⟩, hu⟩
    exact ⟨⟨⟨hm, fun a h => ⟨hu a h, ha a h⟩, hf⟩, hd⟩, hr⟩

/-- **A dumped readout reads back as itself** iff its floats are finite and its URIs fit. -/
theorem ModelReadout.validate_dump (h : ScalarsSurvive) {r : ModelReadout}
    (hleaves : r.LeavesSurvive) (hguide : r.explanationGuide.StartsWithTheBase) :
    validate r.dump = .ok r ↔
      (∀ x ∈ r.floats, x.isFinite = true) ∧ ∀ a ∈ r.artifacts.toList, a.UriFits := by
  unfold validate
  rw [Validated.andThen_eq_ok, ← ReadoutFields.validate_dump h hleaves hguide]
  simp only [check_eq_ok, exists_eq_right]

/-- `r.model_dump_json()`, over how a document is written. -/
def ModelReadout.dumpJson (toJson : Json → Bytes) (r : ModelReadout) : Bytes := toJson r.dump

/-- A text the JSON parser reads back is validated as the dump it was written from. -/
theorem ModelReadout.validateJson_dumpJson {toJson : Json → Bytes} {r : ModelReadout}
    (hjson : Pydantic.fromJson (toJson r.dump) = some r.dump) :
    validateJson (r.dumpJson toJson) = validate r.dump := by
  unfold validateJson dumpJson
  rw [hjson]

/-- **A serialized readout reads back as itself exactly when** its floats are finite and its URIs
fit: one that is not finite becomes `null`, which is rejected or read as no value at all. -/
theorem ModelReadout.validateJson_dumpJson_iff {toJson : Json → Bytes} {r : ModelReadout}
    (hscalars : ScalarsSurvive) (hleaves : r.LeavesSurvive)
    (hjson : Pydantic.fromJson (toJson r.dump) = some r.dump)
    (hguide : r.explanationGuide.StartsWithTheBase) :
    validateJson (r.dumpJson toJson) = .ok r ↔
      (∀ x ∈ r.floats, x.isFinite = true) ∧ ∀ a ∈ r.artifacts.toList, a.UriFits := by
  rw [validateJson_dumpJson hjson]
  exact validate_dump hscalars hleaves hguide

end

attribute [local instance] UnicodeData.ascii

theorem ModelReadout.validateJson_dumpJson_iff_sample :
    letI := Sample.readoutLeaves "p" (.finite 1)
    validateJson ((Sample.modelReadout "p" (.finite 1)).dumpJson Sample.toJson) =
      .ok (Sample.modelReadout "p" (.finite 1)) := by
  let _ := Sample.readoutLeaves "p" (.finite 1)
  refine (validateJson_dumpJson_iff (Sample.scalarsSurvive _) (Sample.leavesSurvive _ _ _)
    (Sample.fromJson_toJson _ _) (Sample.startsWithTheBase _ _)).mpr
      ⟨?_, Sample.uriFits_modelReadout _ _⟩
  rw [Sample.floats_modelReadout]
  decide

/-- A fit that did not converge: the diagnostic is NaN, and the readout is not read back. -/
theorem readout_not_read_back :
    letI := Sample.readoutLeaves "p" .nan
    ScalarsSurvive ∧ (Sample.modelReadout "p" .nan).LeavesSurvive ∧
      Pydantic.fromJson (Sample.toJson (Sample.modelReadout "p" .nan).dump) =
        some (Sample.modelReadout "p" .nan).dump ∧
      (Sample.modelReadout "p" .nan).explanationGuide.StartsWithTheBase ∧
      ModelReadout.validateJson ((Sample.modelReadout "p" .nan).dumpJson Sample.toJson) ≠
        .ok (Sample.modelReadout "p" .nan) := by
  let _ := Sample.readoutLeaves "p" .nan
  refine ⟨Sample.scalarsSurvive _, Sample.leavesSurvive _ _ _, Sample.fromJson_toJson _ _,
    Sample.startsWithTheBase _ _, fun hread => ?_⟩
  rw [ModelReadout.validateJson_dumpJson (Sample.fromJson_toJson _ _),
    ModelReadout.validate_dump (Sample.scalarsSurvive _) (Sample.leavesSurvive _ _ _)
      (Sample.startsWithTheBase _ _)] at hread
  have hnan : Double.nan ∈ (Sample.modelReadout "p" .nan).floats := by
    rw [Sample.floats_modelReadout]
    exact List.mem_cons_self
  exact Bool.false_ne_true (hread.1 _ hnan)

end Grabatus

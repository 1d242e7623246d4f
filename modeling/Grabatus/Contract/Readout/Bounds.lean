import Grabatus.Contract.Readout.RoundTrip
import Grabatus.Lib.Bounds
import Grabatus.Testing.JsonCode

/-!
# How large a readout can be

Over the models of `contract/readout/`. A readout carries conclusions, never raw data: its
validators bound the size of its texts, lists and dictionaries. Per record, either everything in
it is within `readoutBound` (`closed`), or all but the strings in `unbounded` is (`boundedBut`).
Free are the version of the service and the pains of a persona, whose types have no maximum, and
every string a lax leaf type reads a date, a number or a flag from.

* `ModelReadout.boundedBy_iff`: an accepted readout is within a bound exactly when its free
  strings are.
* `readout_unbounded`: so no bound holds of all of them.
-/

namespace Grabatus

open Grabatus.Lib Grabatus.Python

/-- The longest text with a maximum: an artifact's URI, in bytes. -/
def readoutBound : Nat := maxUriLength

/-- A string has at least a byte for each character. -/
theorem length_le_utf8ByteSize (s : String) : s.length ≤ s.utf8ByteSize := by
  obtain ⟨cs, rfl⟩ : ∃ cs, s = String.ofList cs := ⟨s.toList, String.ofList_toList.symm⟩
  induction cs with
  | nil => exact Nat.zero_le _
  | cons c cs ih =>
    have hsplit : String.ofList (c :: cs) = String.singleton c ++ String.ofList cs := by
      rw [← List.singleton_append, String.ofList_append]
      rfl
    rw [hsplit, String.length_append, String.utf8ByteSize_append, String.utf8ByteSize_singleton]
    have := c.utf8Size_pos
    have : (String.singleton c).length = 1 := String.length_singleton
    omega

/-- A text field is bounded. -/
theorem closed_text {lo n : Nat} {p : Option (String → Bool)}
    (hn : decide (n ≤ readoutBound) = true) :
    Closed readoutBound (str { minLength := lo, maxLength := some n, pattern := p }) :=
  closed_str rfl (of_decide_eq_true hn)

/-! ## Records of texts -/

theorem Caveat.closed : Closed readoutBound validate :=
  .model (.next (.next (.first (closed_literal (by decide))) (closed_text rfl)) (closed_text rfl))
    (by decide)

theorem OverallQuality.closed : Closed readoutBound validate :=
  .model (.next (.first (closed_literal (by decide))) (closed_text rfl)) (by decide)

theorem InterpretationRule.closed : Closed readoutBound validate :=
  .model (.next (.next (.first (closed_text rfl)) (closed_text rfl)) (closed_text rfl)) (by decide)

theorem Misreading.closed : Closed readoutBound validate :=
  .model (.next (.first (closed_text rfl)) (closed_text rfl)) (by decide)

theorem Term.closed : Closed readoutBound validate :=
  .model (.next (.first (closed_text rfl)) (closed_text rfl)) (by decide)

theorem Prior.closed : Closed readoutBound validate :=
  .model (.next (.next (.first (closed_text rfl)) (closed_text rfl)) (closed_text rfl)) (by decide)

theorem ReadoutRequest.closed : Closed readoutBound validate :=
  .model (.next (.next (.next (.next (.first (closed_text rfl)) (closed_text rfl))
    (closed_text rfl)) (closed_text rfl)) (closed_literal (by decide))) (by decide)

/-- The text of a digest is bounded by its pattern. -/
theorem InputDigest.closed : Closed readoutBound validate := by
  have hsha : ∀ s, ({ pattern := some sha256Pattern } : StrSpec).check s = none →
      s.length ≤ readoutBound := by
    intro s hs
    have hpattern := (StrSpec.check_eq_none.mp hs).2.2 _ rfl
    have hlen : s.length = 64 := by
      simpa [String.length_toList] using (Bool.and_eq_true_iff.mp hpattern).1
    rw [hlen]
    decide
  exact .model (.next (.first (closed_text rfl)) (closed_str_of hsha)) (by decide)

/-- The guardrails are bounded strings. -/
theorem guardrailsField_closed [Pydantic] : Closed readoutBound guardrailsField := by
  intro j gs h hj
  obtain ⟨rfl, -⟩ := guardrailsField_eq_ok.mp h
  have hitems : Closed readoutBound (items 4 20 (str { maxLength := some 500 })) :=
    .items (closed_text rfl) (by decide)
  exact hitems (items_dumpStr gs) hj

theorem ExplanationGuide.closed [Pydantic] : Closed readoutBound validate :=
  .model (.next (.next (.nextOr (.next (.next (.first (closed_text rfl)) (closed_text rfl))
    (closed_text rfl)) (.items (closed_text rfl) (by decide))) (.items (closed_text rfl)
    (by decide))) guardrailsField_closed) (by decide)

theorem HyperparameterValue.closed : Closed readoutBound validate := by
  intro j v h _
  refine Json.withinBut_nil fun B hB => ?_
  cases j with
  | str s =>
    obtain ⟨t, ht, -⟩ := Validated.map_eq_ok.mp h
    have hbounded : Closed readoutBound (Lib.str { maxLength := some itemMaxLength }) :=
      closed_text rfl
    exact hbounded.boundedBy ht trivial hB
  | arr | obj => exact absurd h (Validated.fail_ne_ok _ _)
  | null | bool | int | float => trivial

/-! ## Leaf types -/

/-- The parser takes no list and no object. -/
structure Scalar {α : Type} (parse : Json → Option α) : Prop where
  arr : ∀ js, parse (.arr js) = none
  obj : ∀ o, parse (.obj o) = none

section

variable [Pydantic]

/-- The leaf types take no list and no object. -/
structure ScalarLeaves : Prop where
  datetime : Scalar Pydantic.datetime
  date : Scalar Pydantic.date
  int : Scalar Pydantic.int
  float : Scalar Pydantic.float
  bool : Scalar Pydantic.bool

omit [Pydantic] in
/-- A leaf type may read a string of any length. -/
theorem Scalar.boundedBut {α : Type} {parse : Json → Option α} (h : Scalar parse) {type : String} :
    BoundedBut readoutBound (leaf type parse) freeString := by
  refine boundedBut_scalar (fun js a ha => ?_) fun o a ha => ?_
  · exact nomatch (h.arr js).symm.trans (leaf_eq_ok.mp ha)
  · exact nomatch (h.obj o).symm.trans (leaf_eq_ok.mp ha)

variable (h : ScalarLeaves)

include h

theorem intFrom_boundedBut {lo : Int} : BoundedBut readoutBound (intFrom lo) freeString :=
  h.int.boundedBut.andThen _

theorem intBetween_boundedBut {lo hi : Int} :
    BoundedBut readoutBound (intBetween lo hi) freeString :=
  h.int.boundedBut.andThen _

theorem unitFloat_boundedBut : BoundedBut readoutBound unitFloat freeString :=
  h.float.boundedBut.andThen _

theorem nonnegFloat_boundedBut : BoundedBut readoutBound nonnegFloat freeString :=
  h.float.boundedBut.andThen _

/-! ## Artifacts -/

omit h in
/-- The text of a URI is bounded in bytes. -/
theorem ArtifactUri.closed : Closed readoutBound validate := by
  intro j u hu _
  cases j with
  | str s =>
    unfold validate at hu
    dsimp only at hu
    split at hu
    · exact absurd hu (Validated.fail_ne_ok _ _)
    · refine Json.withinBut_nil fun B hB => Json.boundedBy_str.mpr ?_
      have := length_le_utf8ByteSize s
      unfold readoutBound at hB
      omega
  | _ => exact absurd hu (Validated.fail_ne_ok _ _)

/-- The level of an interval may be a string. -/
def FieldDescription.unbounded : Json → List String := freeFields [("interval_level", freeString)]

theorem FieldDescription.boundedBut : BoundedBut readoutBound validate unbounded :=
  .model (.next (.next (.nextOrFree (.nextOr (.next (.first (closed_text rfl))
    (closed_literal (by decide))) (.nullable (closed_text rfl)))
    ((unitFloat_boundedBut h).nullable rfl)) (closed_text rfl)) (closed_text rfl)) (by decide)

/-- The free strings of an artefact are those of its columns. -/
def ArtifactDescription.unbounded : Json → List String :=
  freeFields [("fields", freeItems FieldDescription.unbounded)]

theorem ArtifactDescription.boundedBut : BoundedBut readoutBound validate unbounded :=
  .model (.nextFree (.next (.next (.next (.first (closed_text rfl)) ArtifactUri.closed)
    (closed_literal (by decide))) (closed_text rfl)) (.items (FieldDescription.boundedBut h)
    (by decide))) (by decide)

/-! ## Diagnostics and data -/

/-- The value of a diagnostic may be a string. -/
def Diagnostic.unbounded : Json → List String := freeFields [("value", freeString)]

theorem Diagnostic.boundedBut : BoundedBut readoutBound validate unbounded :=
  .model (.next (.next (.next (.nextFree (.first (closed_text rfl)) h.float.boundedBut)
    (closed_text rfl)) (closed_literal (by decide))) (closed_text rfl)) (by decide)

/-- The dates of a period are strings. -/
def PeriodCovered.unbounded : Json → List String :=
  freeFields [("start", freeString), ("end", freeString)]

theorem PeriodCovered.boundedBut : BoundedBut readoutBound validate unbounded :=
  BoundedBut.andThen (.model (.nextFree (.firstFree h.date.boundedBut) h.date.boundedBut)
    (by decide)) id

/-- A count may be a string. -/
def EntitySummary.unbounded : Json → List String := freeFields [("count", freeString)]

theorem EntitySummary.boundedBut : BoundedBut readoutBound validate unbounded :=
  .model (.nextFree (.first (closed_text rfl)) (intFrom_boundedBut h)) (by decide)

/-- The free strings of the provenance. -/
def DataProvenance.unbounded : Json → List String :=
  freeFields [("observation_count", freeString), ("period_covered", PeriodCovered.unbounded),
    ("entities", freeItems EntitySummary.unbounded)]

theorem DataProvenance.boundedBut : BoundedBut readoutBound validate unbounded :=
  .model (.nextOr (.nextOr (.nextOr (.nextFree (.nextOrFree (.next (.firstFree
    (intFrom_boundedBut h)) (closed_text rfl)) ((PeriodCovered.boundedBut h).nullable rfl))
    (.items (EntitySummary.boundedBut h) (by decide))) (.items (closed_text rfl) (by decide)))
    (.items (closed_text rfl) (by decide))) (.items (closed_text rfl) (by decide))) (by decide)

/-! ## Findings -/

/-- The value of a quantity may be a string. -/
def Quantity.unbounded : Json → List String := freeFields [("value", freeString)]

theorem Quantity.boundedBut : BoundedBut readoutBound validate unbounded :=
  .model (.next (.firstFree h.float.boundedBut) (closed_text rfl)) (by decide)

/-- The level and the bounds may be strings. -/
def Uncertainty.unbounded : Json → List String :=
  freeFields [("level", freeString), ("lower", freeString), ("upper", freeString)]

theorem Uncertainty.boundedBut [UnicodeData] : BoundedBut readoutBound validate unbounded :=
  BoundedBut.andThen (.model (.nextOrFree (.nextOrFree (.nextOrFree (.first
    (closed_literal (by decide))) ((unitFloat_boundedBut h).nullable rfl))
    (h.float.boundedBut.nullable rfl)) (h.float.boundedBut.nullable rfl)) (by decide)) id

/-- The value of a baseline may be a string. -/
def ComparisonBaseline.unbounded : Json → List String := freeFields [("value", freeString)]

theorem ComparisonBaseline.boundedBut : BoundedBut readoutBound validate unbounded :=
  .model (.nextFree (.first (closed_text rfl)) h.float.boundedBut) (by decide)

/-- The free strings of a finding. -/
def Finding.unbounded : Json → List String :=
  freeFields [("importance", freeString), ("quantity", Quantity.unbounded),
    ("uncertainty", Uncertainty.unbounded), ("comparison_baseline", ComparisonBaseline.unbounded)]

theorem Finding.boundedBut [UnicodeData] : BoundedBut readoutBound validate unbounded :=
  .model (.next (.next (.nextOrFree (.next (.nextFree (.nextFree (.next (.nextFree (.first
    (closed_text rfl)) (intBetween_boundedBut h)) (closed_text rfl)) (Quantity.boundedBut h))
    (Uncertainty.boundedBut h)) (closed_literal (by decide)))
    ((ComparisonBaseline.boundedBut h).nullable rfl)) (closed_literal (by decide)))
    (closed_text rfl)) (by decide)

/-! ## Service knowledge -/

/-- A persona may name pains of any length. -/
def Persona.unbounded : Json → List String := freeFields [("pains", freeItems freeString)]

omit [Pydantic] h in
theorem Persona.boundedBut : BoundedBut readoutBound validate unbounded :=
  .model (.nextFree (.first (closed_text rfl)) (.items (boundedBut_str _) (by decide))) (by decide)

/-- The order of a step may be a string. -/
def WorkflowStep.unbounded : Json → List String := freeFields [("order", freeString)]

theorem WorkflowStep.boundedBut : BoundedBut readoutBound validate unbounded :=
  .model (.next (.next (.firstFree (intBetween_boundedBut h)) (closed_text rfl)) (closed_text rfl))
    (by decide)

/-- The flag of a requirement may be a string. -/
def InputRequirement.unbounded : Json → List String := freeFields [("required", freeString)]

theorem InputRequirement.boundedBut : BoundedBut readoutBound validate unbounded :=
  .model (.next (.next (.nextFree (.first (closed_text rfl)) h.bool.boundedBut) (closed_text rfl))
    (closed_text rfl)) (by decide)

/-- The free strings of a service's knowledge: above all the pains of its personas. -/
def ServiceKnowledge.unbounded : Json → List String :=
  freeFields [("personas", freeItems Persona.unbounded),
    ("workflow", freeItems WorkflowStep.unbounded),
    ("input_requirements", freeItems InputRequirement.unbounded)]

theorem ServiceKnowledge.boundedBut : BoundedBut readoutBound validate unbounded :=
  .model (.next (.next (.nextOr (.next (.nextFree (.nextFree (.nextFree (.next (.next (.next (.next
    (.first (closed_text rfl)) (closed_text rfl)) (closed_text rfl)) (.items (closed_text rfl)
    (by decide))) (.items (closed_text rfl) (by decide))) (.items Persona.boundedBut (by decide)))
    (BoundedBut.andThen (.items (WorkflowStep.boundedBut h) (by decide)) _))
    (.items (InputRequirement.boundedBut h) (by decide))) (.items InterpretationRule.closed
    (by decide))) (.items Misreading.closed (by decide))) (.items Term.closed (by decide)))
    (.items (closed_text rfl) (by decide))) (by decide)

/-! ## Model and reproducibility -/

/-- The flag of an assumption may be a string. -/
def Assumption.unbounded : Json → List String := freeFields [("checked", freeString)]

theorem Assumption.boundedBut : BoundedBut readoutBound validate unbounded :=
  .model (.nextFree (.next (.first (closed_text rfl)) (closed_text rfl)) h.bool.boundedBut)
    (by decide)

/-- The free strings of a model description. -/
def ModelDescription.unbounded : Json → List String :=
  freeFields [("assumptions", freeItems Assumption.unbounded)]

theorem ModelDescription.boundedBut : BoundedBut readoutBound validate unbounded :=
  .model (.next (.nextOr (.next (.nextFree (.nextOr (.next (.next (.next (.first (closed_text rfl))
    (closed_literal (by decide))) (closed_literal (by decide))) (closed_text rfl))
    (.nullable (closed_text rfl))) (.items (Assumption.boundedBut h) (by decide)))
    (.dict rfl HyperparameterValue.closed (by decide) (by decide))) (.items Prior.closed
    (by decide))) (.items (closed_text rfl) (by decide))) (by decide)

/-- The seed and the duration may be strings. -/
def Reproducibility.unbounded : Json → List String :=
  freeFields [("random_seed", freeString), ("compute_duration_seconds", freeString)]

theorem Reproducibility.boundedBut [UnicodeData] : BoundedBut readoutBound validate unbounded :=
  .model (.next (.next (.nextFree (.firstOrFree (h.int.boundedBut.nullable rfl))
    (nonnegFloat_boundedBut h)) (Closed.andThen (.items InputDigest.closed (by decide)) _))
    (.dict rfl (closed_text rfl) (by decide) (by decide))) (by decide)

/-! ## The readout -/

/-- A version is three numbers of any length. -/
def ReadoutService.unbounded : Json → List String := freeFields [("version", freeString)]

omit [Pydantic] h in
theorem ReadoutService.boundedBut [UnicodeData] : BoundedBut readoutBound validate unbounded :=
  .model (.nextFree (.first (closed_text rfl)) (boundedBut_str _)) (by decide)

/-- The free strings of a readout. -/
def ModelReadout.unbounded : Json → List String :=
  freeFields [("generated_at", freeString), ("service", ReadoutService.unbounded),
    ("service_knowledge", ServiceKnowledge.unbounded), ("model", ModelDescription.unbounded),
    ("data", DataProvenance.unbounded), ("artifacts", freeItems ArtifactDescription.unbounded),
    ("findings", freeItems Finding.unbounded), ("diagnostics", freeItems Diagnostic.unbounded),
    ("reproducibility", Reproducibility.unbounded)]

theorem ModelReadout.boundedBut [UnicodeData] : BoundedBut readoutBound validate unbounded :=
  BoundedBut.andThen (.model (.nextFree (.next (.nextOr (.next (.nextOrFree (.nextOrFree (.nextFree
    (.nextFree (.nextFree (.nextFree (.nextFree (.next (.nextFree (.firstOr
    (closed_literal (by decide))) h.datetime.boundedBut) ReadoutRequest.closed)
    ReadoutService.boundedBut) (ServiceKnowledge.boundedBut h)) (ModelDescription.boundedBut h))
    (DataProvenance.boundedBut h)) (.items (ArtifactDescription.boundedBut h) (by decide)))
    (.items (Finding.boundedBut h) (by decide))) (.items (Diagnostic.boundedBut h) (by decide)))
    OverallQuality.closed) (.items Caveat.closed (by decide))) ExplanationGuide.closed)
    (Reproducibility.boundedBut h)) (by decide) :
      BoundedBut readoutBound (Lib.model _ ReadoutFields.validate) unbounded) ModelReadout.check

omit h in
/-- **An accepted readout is within a bound exactly when** its free strings are: everything else in
it is within `readoutBound`. -/
theorem ModelReadout.boundedBy_iff [UnicodeData] (hscalar : ScalarLeaves) {b : Bytes} {j : Json}
    {r : ModelReadout} (hjson : Pydantic.fromJson b = some j) (hdistinct : j.KeysDistinct)
    (hr : validateJson b = .ok r) {B : Nat} (hB : readoutBound ≤ B) :
    j.BoundedBy B ↔ ∀ s ∈ unbounded j, s.length ≤ B := by
  have hvalidate : validate j = .ok r := by
    unfold validateJson at hr
    rwa [hjson] at hr
  exact boundedBut hscalar hvalidate hdistinct B hB

end

attribute [local instance] UnicodeData.ascii

theorem Sample.scalarLeaves (fromJson : Bytes → Option Json) :
    @ScalarLeaves (Sample.leavesReading fromJson) :=
  letI := Sample.leavesReading fromJson
  { datetime := ⟨fun _ => rfl, fun _ => rfl⟩, date := ⟨fun _ => rfl, fun _ => rfl⟩
    int := ⟨fun _ => rfl, fun _ => rfl⟩, float := ⟨fun _ => rfl, fun _ => rfl⟩
    bool := ⟨fun _ => rfl, fun _ => rfl⟩ }

/-- The sample readout is accepted from a text that parses to its dump. -/
theorem Sample.validateJson_dump {fromJson : Bytes → Option Json} {pain : String} {b : Bytes}
    (hb : fromJson b =
      some (@ReadoutFields.dump _ (Leaves.pydantic []) (readoutFields pain (.finite 1)))) :
    letI := leavesReading fromJson
    ModelReadout.validateJson b = .ok (modelReadout pain (.finite 1)) := by
  let _ := leavesReading fromJson
  unfold ModelReadout.validateJson
  rw [show Pydantic.fromJson b = some (modelReadout pain (.finite 1)).dump from hb]
  refine (ModelReadout.validate_dump (scalarsSurvive _) (leavesSurvive _ _ _)
    (startsWithTheBase _ _)).mpr ⟨?_, uriFits_modelReadout _ _⟩
  rw [floats_modelReadout]
  decide

theorem ModelReadout.boundedBy_iff_sample :
    letI := Sample.readoutLeaves "p" (.finite 1)
    (Sample.modelReadout "p" (.finite 1)).dump.BoundedBy readoutBound ↔
      ∀ s ∈ unbounded (Sample.modelReadout "p" (.finite 1)).dump, s.length ≤ readoutBound := by
  let _ := Sample.readoutLeaves "p" (.finite 1)
  have hread := Sample.fromJson_toJson "p" (.finite 1)
  have haccepted : ModelReadout.validateJson
      (Sample.toJson (Sample.modelReadout "p" (.finite 1)).dump) =
        .ok (Sample.modelReadout "p" (.finite 1)) := by
    rw [Sample.dump_leavesReading] at hread ⊢
    exact Sample.validateJson_dump hread
  exact boundedBy_iff (Sample.scalarLeaves _) hread (by decide) haccepted (le_refl _)

/-- The dump of the sample readout with `n` characters of pain. -/
def Sample.longReadout (n : Nat) : Json :=
  @ReadoutFields.dump _ (Leaves.pydantic [])
    (Sample.readoutFields (String.ofList (List.replicate n 'a')) (.finite 1))

/-- **No bound holds of every accepted readout**: a persona's pain may be of any length. -/
theorem readout_unbounded :
    letI := Sample.leavesReading fun b => (decodeUtf8 b).bind fun t =>
      ((Leaves.codedText []).loads t).toOption
    ¬ ∃ B, ∀ b j r, Pydantic.fromJson b = some j → ModelReadout.validateJson b = .ok r →
      j.BoundedBy B := by
  rintro ⟨B, hbounded⟩
  have hread : ((decodeUtf8 (encodeUtf8 (Leaves.text [] (Sample.longReadout (B + 1))))).bind
      fun t => ((Leaves.codedText []).loads t).toOption) = some (Sample.longReadout (B + 1)) := by
    have hloads := (Leaves.loads_dumps_codedText [] (fun _ hj => absurd hj List.not_mem_nil)
      (Sample.longReadout (B + 1))).2
    rw [decodeUtf8_encodeUtf8, Option.bind_some, hloads]
    rfl
  have hreadout := hbounded _ _ _ hread (Sample.validateJson_dump hread)
  have hknowledge := hreadout.of_lookup (k := "service_knowledge") rfl
  have hpersonas := hknowledge.of_lookup (k := "personas") rfl
  have hpersona := hpersonas.of_mem List.mem_cons_self
  have hpains := hpersona.of_lookup (k := "pains") rfl
  have hpain := hpains.of_mem List.mem_cons_self
  have hlen : (String.ofList (List.replicate (B + 1) 'a')).length ≤ B :=
    Json.boundedBy_str.mp hpain
  rw [String.length_ofList, List.length_replicate] at hlen
  omega

end Grabatus

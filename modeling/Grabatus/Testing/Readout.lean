import Grabatus.Contract.Readout.Dump
import Grabatus.Testing.Leaves

/-!
# A sample readout

A readout over two of its values: a pain of the service's users, and the `r_hat` of its fit. The
leaf types that read its text are the canonical ones (`Sample.readoutLeaves`), and what its round
trip relies on holds for all values of the two. A second readout (`Sample.twofoldReadout`) has two
findings, artefacts, digests and steps.
-/

namespace Grabatus

open Grabatus.Lib Grabatus.Python

attribute [local instance] UnicodeData.ascii

namespace Sample

/-- One item. -/
def one {α : Type} {hi : Nat} (a : α) (h : 1 ≤ hi) : Items 1 hi α := ⟨[a], le_refl 1, h⟩

/-- What the sample service says of itself. -/
def serviceKnowledge (pain : String) : ServiceKnowledge where
  oneLiner := ⟨"o", by decide⟩
  whatItDoes := ⟨"w", by decide⟩
  problemSolved := ⟨"p", by decide⟩
  whenToUse := one ⟨"u", by decide⟩ (by decide)
  whenNotToUse := one ⟨"n", by decide⟩ (by decide)
  personas := one ⟨⟨"r", by decide⟩, one ⟨pain, by simp [StrSpec.check_eq_none]⟩ (by decide)⟩
    (by decide)
  workflow := ⟨one ⟨⟨1, by decide⟩, ⟨"d", by decide⟩, ⟨"s", by decide⟩⟩ (by decide), by decide⟩
  inputRequirements := one ⟨⟨"c", by decide⟩, true, ⟨"m", by decide⟩, ⟨"e", by decide⟩⟩ (by decide)
  interpretationPlaybook := one ⟨⟨"s", by decide⟩, ⟨"m", by decide⟩, ⟨"r", by decide⟩⟩ (by decide)
  commonMisreadings := Items.nil
  glossary := one ⟨⟨"t", by decide⟩, ⟨"l", by decide⟩⟩ (by decide)
  limitations := one ⟨"l", by decide⟩ (by decide)

/-- The guardrails of the sample: the base ones. -/
def guardrails : Items 4 20 (Note 500) where
  toList := baseGuardrails.pmap Str.mk baseGuardrails_fit
  lo_le := by rw [List.length_pmap]; decide
  le_hi := by rw [List.length_pmap]; decide

/-- The fields of the sample: one pain of its users, and one diagnostic of its fit. -/
def readoutFields (pain : String) (rHat : Double) : ReadoutFields where
  generatedAt := ⟨⟨2026, 5, 1⟩, 9, 30, 0, 0, some 0⟩
  request := ⟨⟨"q", by decide⟩, ⟨"r", by decide⟩, ⟨"p", by decide⟩, ⟨"t", by decide⟩, .web⟩
  service := ⟨⟨"s", by decide⟩, ⟨"1.0.0", by decide⟩⟩
  serviceKnowledge := serviceKnowledge pain
  model := {
    displayName := ⟨"d", by decide⟩
    family := .bayesianInference
    paradigm := .bayesian
    objective := ⟨"o", by decide⟩
    formulation := none
    assumptions := one ⟨⟨"s", by decide⟩, ⟨"v", by decide⟩, true⟩ (by decide)
    hyperparameters := ⟨Dict.empty.set ⟨"draws", by decide⟩ (.int 1000), by decide⟩
    priors := Items.nil
    notDesignedFor := one ⟨"n", by decide⟩ (by decide) }
  data := {
    observationCount := ⟨1, by decide⟩
    granularity := ⟨"g", by decide⟩
    periodCovered := none
    entities := one ⟨⟨"l", by decide⟩, ⟨1, by decide⟩⟩ (by decide)
    filtersApplied := Items.nil
    knownGaps := Items.nil
    qualityFlags := Items.nil }
  artifacts := one {
    role := ⟨"result", by decide⟩
    uri := ⟨⟨"gs://b/r.json", by decide, .inl (by decide)⟩, by decide⟩
    format := .json
    description := ⟨"d", by decide⟩
    fields := one ⟨⟨"n", by decide⟩, .number, none, none, ⟨"m", by decide⟩, ⟨"r", by decide⟩⟩
      (by decide) } (by decide)
  findings := Items.nil
  diagnostics := ⟨[⟨⟨"r_hat", by decide⟩, rHat, ⟨"< 1.01", by decide⟩, .fail, ⟨"m", by decide⟩⟩],
    Nat.zero_le _, Nat.le_of_ble_eq_true rfl⟩
  overallQuality := ⟨.fail, ⟨"s", by decide⟩⟩
  caveats := Items.nil
  explanationGuide := {
    audience := ⟨"a", by decide⟩
    summaryForLlm := ⟨"s", by decide⟩
    whatWasSolved := ⟨"w", by decide⟩
    recommendedNarrativeOrder := Items.nil
    mustNotClaim := one ⟨"c", by decide⟩ (by decide)
    guardrails }
  reproducibility := {
    randomSeed := some 7
    computeDurationSeconds := ⟨.finite 47, by decide⟩
    inputDigests := ⟨one
      ⟨⟨"t", by decide⟩, ⟨String.ofList (List.replicate 64 'a'), by decide +kernel⟩⟩
      (by decide), by decide⟩
    libraryVersions := ⟨Dict.empty.set ⟨"m", by decide⟩ ⟨"1", by decide⟩, by decide⟩ }

/-- The sample readout. -/
def modelReadout (pain : String) (rHat : Double) : ModelReadout :=
  ⟨readoutFields pain rHat, rfl, duplicated_eq_nil.mpr List.nodup_nil,
    duplicated_eq_nil.mpr (List.nodup_singleton _), sorted_eq_nil.mpr rfl⟩

/-- The floats of the sample. -/
theorem floats_modelReadout (pain : String) (rHat : Double) :
    (modelReadout pain rHat).floats = [rHat, .finite 47] :=
  rfl

/-- The sample's URI is short. -/
theorem uriFits_modelReadout (pain : String) (rHat : Double) :
    ∀ a ∈ (modelReadout pain rHat).artifacts.toList, a.UriFits := by
  intro a ha
  obtain rfl := List.mem_singleton.mp ha
  show "gs://b/r.json".utf8ByteSize ≤ maxUriLength
  decide

/-- A document as UTF-8 text. -/
def toJson (j : Json) : Bytes := encodeUtf8 (String.ofList (Leaves.render j))

/-- The canonical leaf types, over a parser of JSON text. -/
@[reducible] def leavesReading (fromJson : Bytes → Option Json) : Pydantic :=
  { Leaves.pydantic [] with fromJson := fromJson }

/-- The leaf types of the sample: its one document of bytes is the dumped readout. -/
@[reducible] def readoutLeaves (pain : String) (rHat : Double) : Pydantic :=
  letI := Leaves.pydantic []
  leavesReading (Leaves.pydantic [(modelReadout pain rHat).dump]).fromJson

section

variable (fromJson : Bytes → Option Json)

theorem scalarsSurvive : @ScalarsSurvive (leavesReading fromJson) :=
  letI := leavesReading fromJson
  { int := fun _ => rfl, bool := fun _ => rfl, float := fun _ => rfl, float_null := rfl }

theorem leavesSurvive (pain : String) (rHat : Double) :
    @ReadoutFields.LeavesSurvive _ (leavesReading fromJson) (readoutFields pain rHat) := by
  let _ := leavesReading fromJson
  refine { generatedAt := ?_, periodCovered := nofun, artifacts := fun a ha => ?_ }
  · show Leaves.parseTimestamp (Leaves.renderTimestamp ⟨⟨2026, 5, 1⟩, 9, 30, 0, 0, some 0⟩) =
      some ⟨⟨2026, 5, 1⟩, 9, 30, 0, 0, some 0⟩
    decide
  · obtain rfl := List.mem_singleton.mp ha
    exact Leaves.parseAnyUrl_text _ (by decide) (by decide)

/-- How JSON text is parsed plays no part in a dump. -/
theorem dump_leavesReading (r : ReadoutFields) :
    @ReadoutFields.dump _ (leavesReading fromJson) r =
      @ReadoutFields.dump _ (Leaves.pydantic []) r :=
  rfl

end

theorem startsWithTheBase (pain : String) (rHat : Double) :
    (modelReadout pain rHat).explanationGuide.StartsWithTheBase := by
  show ((baseGuardrails.pmap Str.mk baseGuardrails_fit).take 4).map Str.val = baseGuardrails
  rfl

theorem fromJson_toJson (pain : String) (rHat : Double) :
    letI := readoutLeaves pain rHat
    Pydantic.fromJson (toJson (modelReadout pain rHat).dump) =
      some (modelReadout pain rHat).dump := by
  rw [dump_leavesReading]
  exact Leaves.fromJson_render _

/-! ## Two of everything -/

/-- Two items. -/
def two {α : Type} {lo hi : Nat} (a b : α) (hlo : lo ≤ 2) (hhi : 2 ≤ hi) : Items lo hi α :=
  ⟨[a, b], hlo, hhi⟩

/-- A finding that is sure. -/
def finding (id : Str findingIdSpec) : Finding where
  id
  importance := ⟨1, by decide⟩
  statement := ⟨"s", by decide⟩
  quantity := ⟨.finite 1, ⟨"u", by decide⟩⟩
  uncertainty := ⟨.none, none, none, none, by decide⟩
  direction := .stable
  comparisonBaseline := none
  confidence := .high
  confidenceRationale := ⟨"c", by decide⟩

/-- The base guardrails, and one of the service's own. -/
def twofoldGuardrails : Items 4 20 (Note 500) where
  toList := guardrails.toList ++ [⟨"g", by decide⟩]
  lo_le := by simp [guardrails, baseGuardrails]
  le_hi := by simp [guardrails, baseGuardrails]

/-- The fields of the sample readout, with two findings told in the other order, two artefacts,
two digests, two steps of the workflow and a guardrail after the base ones. -/
def twofoldFields : ReadoutFields :=
  let fields := readoutFields "p" (.finite 1)
  { fields with
    serviceKnowledge := { serviceKnowledge "p" with
      workflow := ⟨two ⟨⟨1, by decide⟩, ⟨"d", by decide⟩, ⟨"s", by decide⟩⟩
        ⟨⟨2, by decide⟩, ⟨"d", by decide⟩, ⟨"s", by decide⟩⟩ (by decide) (by decide), by decide⟩ }
    artifacts := two
      { role := ⟨"result", by decide⟩
        uri := ⟨⟨"gs://b/r.json", by decide, .inl (by decide)⟩, by decide⟩
        format := .json
        description := ⟨"d", by decide⟩
        fields := one ⟨⟨"n", by decide⟩, .number, none, none, ⟨"m", by decide⟩, ⟨"r", by decide⟩⟩
          (by decide) }
      { role := ⟨"table", by decide⟩
        uri := ⟨⟨"gs://b/t.json", by decide, .inl (by decide)⟩, by decide⟩
        format := .json
        description := ⟨"d", by decide⟩
        fields := one ⟨⟨"n", by decide⟩, .number, none, none, ⟨"m", by decide⟩, ⟨"r", by decide⟩⟩
          (by decide) } (by decide) (by decide)
    findings := two (finding ⟨"first", by decide⟩) (finding ⟨"second", by decide⟩)
      (by decide) (by decide)
    explanationGuide := { fields.explanationGuide with
      recommendedNarrativeOrder := two ⟨"second", by decide⟩ ⟨"first", by decide⟩
        (by decide) (by decide)
      guardrails := twofoldGuardrails }
    reproducibility := { fields.reproducibility with
      inputDigests := ⟨two
        ⟨⟨"t", by decide⟩, ⟨String.ofList (List.replicate 64 'a'), by decide +kernel⟩⟩
        ⟨⟨"u", by decide⟩, ⟨String.ofList (List.replicate 64 'b'), by decide +kernel⟩⟩
        (by decide) (by decide), by decide⟩ } }

/-- The readout of these fields. -/
def twofoldReadout : ModelReadout :=
  ⟨twofoldFields, by decide, by decide, by decide, by decide⟩

/-- The leaf types that read its text. -/
@[reducible] def twofoldLeaves : Pydantic :=
  leavesReading (Leaves.pydantic
    [@ReadoutFields.dump _ (Leaves.pydantic []) twofoldFields]).fromJson

theorem leavesSurvive_twofold : letI := twofoldLeaves
    twofoldReadout.LeavesSurvive := by
  let _ := twofoldLeaves
  refine { generatedAt := ?_, periodCovered := nofun, artifacts := fun a ha => ?_ }
  · show Leaves.parseTimestamp (Leaves.renderTimestamp ⟨⟨2026, 5, 1⟩, 9, 30, 0, 0, some 0⟩) =
      some ⟨⟨2026, 5, 1⟩, 9, 30, 0, 0, some 0⟩
    decide
  · have hplain : ∀ a ∈ twofoldFields.artifacts.toList,
        '[' ∉ (Python.parts a.uri.url.text.toList).netloc ∧
          ']' ∉ (Python.parts a.uri.url.text.toList).netloc := by decide
    obtain ⟨hopen, hclose⟩ := hplain a ha
    exact Leaves.parseAnyUrl_text _ hopen hclose

end Sample

end Grabatus

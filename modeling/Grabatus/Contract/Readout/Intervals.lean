import Grabatus.Contract.Readout.Rules

/-!
# The intervals of a readout

Over `_validated_interval` (`contract/readout/findings.py`). `_validated_interval` rejects an
interval on the negated comparison: `upper < lower`. On the numbers and the infinities that is
`lower <= upper` (`Double.le_iff`); on NaN both comparisons are false, and JSON text may hold
`NaN`.

**The intervals of an accepted readout are ordered iff no bound in its document is NaN**
(`intervals_ordered_iff`).
-/

namespace Grabatus

open Grabatus.Lib Grabatus.Python

/-! ## The bounds a document writes -/

/-- The bounds of an uncertainty whose kind is an interval. -/
def Uncertainty.intervalBounds : Json → List Json
  | .obj o =>
    match Dict.lookup "kind" o with
    | some (.str k) =>
      if (Dict.lookup k UncertaintyKind.values).any UncertaintyKind.isInterval then
        (Dict.lookup "lower" o).toList ++ (Dict.lookup "upper" o).toList
      else []
    | _ => []
  | _ => []

/-- The bounds of a finding's interval. -/
def Finding.intervalBounds : Json → List Json
  | .obj o => (Dict.lookup "uncertainty" o).toList.flatMap Uncertainty.intervalBounds
  | _ => []

/-- The bounds of every interval in the findings of a readout. -/
def ModelReadout.intervalBounds : Json → List Json
  | .obj o =>
    match Dict.lookup "findings" o with
    | some (.arr findings) => findings.flatMap Finding.intervalBounds
    | _ => []
  | _ => []

section

variable [UnicodeData] [Pydantic]

/-! ## Ordered intervals -/

/-- The level and both bounds are present, and `lower <= upper`. -/
def Uncertainty.OrderedInterval (u : Uncertainty) : Prop :=
  u.level.isSome = true ∧ ∃ lo ∈ u.lower, ∃ hi ∈ u.upper, lo.le hi = true

/-- Its interval, if its kind is one, is ordered. -/
def Finding.IntervalOrdered (f : Finding) : Prop :=
  f.uncertainty.kind.isInterval = true → f.uncertainty.OrderedInterval

/-- The bounds of an accepted uncertainty are the ones it writes. -/
theorem Uncertainty.bounds_of_validate {j : Json} {u : Uncertainty} (h : validate j = .ok u) :
    ∃ o k, j = .obj o ∧ Dict.lookup "kind" o = some (.str k) ∧
      Dict.lookup k UncertaintyKind.values = some u.kind ∧
      (∀ lo ∈ u.lower, ∃ b, Dict.lookup "lower" o = some b ∧ Pydantic.float b = some lo) ∧
      ∀ hi ∈ u.upper, ∃ b, Dict.lookup "upper" o = some b ∧ Pydantic.float b = some hi := by
  have hbound : ∀ {o : JsonObject} {name : String} {x : Option Double},
      fieldOr o name none (nullable (leaf "float" Pydantic.float)) = .ok x →
      ∀ y ∈ x, ∃ b, Dict.lookup name o = some b ∧ Pydantic.float b = some y := by
    rintro o name _ hx y ⟨⟩
    rcases fieldOr_eq_ok.mp hx with ⟨b, hb, hy⟩ | ⟨-, hnone⟩
    · exact ⟨b, hb, leaf_eq_ok.mp (nullable_eq_some hy)⟩
    · exact nomatch hnone
  unfold validate at h
  obtain ⟨v, hv, hu⟩ := Validated.andThen_eq_ok.mp h
  obtain ⟨o, rfl, hbody, -⟩ := model_eq_ok.mp hv
  simp only [Validated.seq_eq_ok, Validated.map_eq_ok] at hbody
  obtain ⟨_, upper, ⟨_, lower, ⟨_, level, ⟨kind, hkind, rfl⟩, -, rfl⟩, hlower, rfl⟩, hupper,
    rfl⟩ := hbody
  obtain ⟨_, rfl⟩ := require_eq_ok.mp hu
  obtain ⟨_, hk, hliteral⟩ := field_eq_ok.mp hkind
  obtain ⟨k, rfl, hname⟩ := literal_eq_ok.mp hliteral
  exact ⟨o, k, rfl, hk, hname, hbound hlower, hbound hupper⟩

/-- **One uncertainty**: what it was accepted for leaves only NaN to exclude. -/
theorem Uncertainty.ordered_iff {j : Json} {u : Uncertainty} (h : validate j = .ok u) :
    (u.kind.isInterval = true → u.OrderedInterval) ↔
      ∀ b ∈ intervalBounds j, Pydantic.float b ≠ some .nan := by
  obtain ⟨o, k, rfl, hk, hname, hlower, hupper⟩ := bounds_of_validate h
  by_cases hkind : u.kind.isInterval = true
  · obtain ⟨hlevel, lo, hlo, hi, hhi, hlt⟩ := u.bounds.1 hkind
    obtain ⟨l, hl, hflo⟩ := hlower lo hlo
    obtain ⟨b, hb, hfhi⟩ := hupper hi hhi
    have hbounds : intervalBounds (.obj o) = [l, b] := by
      simp [intervalBounds, hk, hname, hkind, hl, hb]
    have hnan : (∀ b ∈ intervalBounds (.obj o), Pydantic.float b ≠ some .nan) ↔
        lo ≠ .nan ∧ hi ≠ .nan := by
      rw [hbounds]
      simp [hflo, hfhi]
    rw [hnan]
    constructor
    · intro hordered
      obtain ⟨-, lo', hlo', hi', hhi', hle⟩ := hordered hkind
      obtain rfl := Option.some.inj (hlo.symm.trans hlo')
      obtain rfl := Option.some.inj (hhi.symm.trans hhi')
      exact (Double.le_iff.mp hle).2
    · intro hnan _
      exact ⟨hlevel, lo, hlo, hi, hhi, Double.le_iff.mpr ⟨hlt, hnan⟩⟩
  · have hbounds : intervalBounds (.obj o) = [] := by
      simp [intervalBounds, hk, hname, hkind]
    rw [hbounds]
    exact ⟨fun _ b hb => absurd hb List.not_mem_nil, fun _ hinterval => absurd hinterval hkind⟩

theorem Finding.ordered_iff {j : Json} {f : Finding} (h : validate j = .ok f) :
    f.IntervalOrdered ↔ ∀ b ∈ intervalBounds j, Pydantic.float b ≠ some .nan := by
  unfold validate at h
  obtain ⟨o, rfl, hbody, -⟩ := model_eq_ok.mp h
  simp only [Validated.seq_eq_ok, Validated.map_eq_ok] at hbody
  obtain ⟨_, _, hbody, -, rfl⟩ := hbody
  obtain ⟨_, _, hbody, -, rfl⟩ := hbody
  obtain ⟨_, _, hbody, -, rfl⟩ := hbody
  obtain ⟨_, _, hbody, -, rfl⟩ := hbody
  obtain ⟨_, _, hbody, hu, rfl⟩ := hbody
  obtain ⟨_, _, hbody, -, rfl⟩ := hbody
  obtain ⟨_, _, hbody, -, rfl⟩ := hbody
  obtain ⟨_, _, hbody, -, rfl⟩ := hbody
  obtain ⟨_, -, rfl⟩ := hbody
  obtain ⟨ju, hju, hvalid⟩ := field_eq_ok.mp hu
  have hbounds : intervalBounds (.obj o) = Uncertainty.intervalBounds ju := by
    simp [intervalBounds, hju]
  rw [hbounds]
  exact Uncertainty.ordered_iff hvalid

/-- Any number of findings. -/
theorem Findings.ordered_iff : ∀ {js : List Json} {fs : List Finding},
    List.Forall₂ (fun j f => Finding.validate j = .ok f) js fs →
      ((∀ f ∈ fs, f.IntervalOrdered) ↔
        ∀ b ∈ js.flatMap Finding.intervalBounds, Pydantic.float b ≠ some .nan)
  | _, _, .nil => by simp
  | _, _, .cons h hs => by
    rw [List.forall_mem_cons, List.flatMap_cons, List.forall_mem_append, Finding.ordered_iff h,
      Findings.ordered_iff hs]

theorem ModelReadout.validateJson_eq {payload : Bytes} {j : Json}
    (hjson : Pydantic.fromJson payload = some j) : validateJson payload = validate j := by
  unfold validateJson
  rw [hjson]

/-- The findings of an accepted readout are those of its document. -/
theorem ModelReadout.findings_of_validateJson {payload : Bytes} {j : Json} {r : ModelReadout}
    (hjson : Pydantic.fromJson payload = some j) (haccepted : validateJson payload = .ok r) :
    ∃ js, List.Forall₂ (fun j f => Finding.validate j = .ok f) js r.findings.toList ∧
      intervalBounds j = js.flatMap Finding.intervalBounds := by
  obtain ⟨o, rfl⟩ : ∃ o, j = .obj o := by
    obtain ⟨_, hf, -⟩ :=
      Validated.andThen_eq_ok.mp ((validateJson_eq hjson).symm.trans haccepted)
    obtain ⟨o, rfl, -⟩ := model_eq_ok.mp hf
    exact ⟨o, rfl⟩
  have hfields := fields_of_validateJson hjson haccepted
  obtain ⟨-, -, -, -, -, -, -, -, hfindings, -⟩ := ReadoutFields.validate_eq_ok.mp hfields
  rcases fieldOr_eq_ok.mp hfindings with ⟨jf, hjf, hitems⟩ | ⟨hnone, hnil⟩
  · obtain ⟨js, rfl, hall⟩ := items_eq_ok.mp hitems
    exact ⟨js, hall, by simp [intervalBounds, hjf]⟩
  · refine ⟨[], ?_, by simp [intervalBounds, hnone]⟩
    rw [← hnil]
    exact .nil

/-- **The intervals of an accepted readout are ordered iff no bound of one is NaN.** -/
theorem intervals_ordered_iff {payload : Bytes} {j : Json} {r : ModelReadout}
    (hjson : Pydantic.fromJson payload = some j)
    (haccepted : ModelReadout.validateJson payload = .ok r) :
    (∀ f ∈ r.findings.toList, f.IntervalOrdered) ↔
      ∀ b ∈ ModelReadout.intervalBounds j, Pydantic.float b ≠ some .nan := by
  obtain ⟨js, hall, hbounds⟩ := ModelReadout.findings_of_validateJson hjson haccepted
  rw [hbounds]
  exact Findings.ordered_iff hall

/-! ## Other findings -/

/-- The findings of a document are read on their own. -/
theorem ReadoutFields.validate_write_findings {o : JsonObject} {f : ReadoutFields} {j : Json}
    {fs : Items 0 50 Finding} (h : validate o = .ok f)
    (hfs : items 0 50 Finding.validate j = .ok fs) :
    validate (Dict.write "findings" j o) = .ok { f with findings := fs } := by
  have hfield : ∀ {α : Type} {name : String} {v : Json → Validated α}, "findings" ≠ name →
      field (Dict.write "findings" j o) name v = field o name v := by
    intro _ name _ hne
    unfold field
    rw [Dict.lookup_write, if_neg hne]
  have hfieldOr : ∀ {α : Type} {name : String} {d : α} {v : Json → Validated α},
      "findings" ≠ name → fieldOr (Dict.write "findings" j o) name d v = fieldOr o name d v := by
    intro _ name _ _ hne
    unfold fieldOr
    rw [Dict.lookup_write, if_neg hne]
  obtain ⟨h1, h2, h3, h4, h5, h6, h7, h8, -, h10, h11, h12, h13, h14⟩ := validate_eq_ok.mp h
  refine validate_eq_ok.mpr ⟨?_, ?_, ?_, ?_, ?_, ?_, ?_, ?_, ?_, ?_, ?_, ?_, ?_, ?_⟩
  case refine_9 =>
    refine fieldOr_eq_ok.mpr (.inl ⟨j, ?_, hfs⟩)
    rw [Dict.lookup_write, if_pos rfl]
  all_goals first
    | rw [hfield (by decide)]
      assumption
    | rw [hfieldOr (by decide)]
      assumption

end

/-! ## A readout with one interval -/

attribute [local instance] UnicodeData.ascii

namespace Sample

/-- A finding whose interval goes up to `upper`. -/
def intervalFinding (upper : Double) : Json :=
  .obj [("id", .str "f"), ("importance", .int 1), ("statement", .str "s"),
    ("quantity", .obj [("value", .int 1), ("unit", .str "u")]),
    ("uncertainty", .obj [("kind", .str "credible_interval"), ("level", .float (.finite (9 / 10))),
      ("lower", .int 0), ("upper", .float upper)]),
    ("direction", .str "stable"), ("confidence", .str "high"), ("confidence_rationale", .str "c")]

/-- The entries of the sample readout. -/
def readoutEntries : JsonObject :=
  match @ReadoutFields.dump _ (Leaves.pydantic []) (readoutFields "p" (.finite 1)) with
  | .obj o => o
  | _ => []

/-- The sample readout with that finding. -/
def intervalReadout (upper : Double) : Json :=
  .obj (Dict.write "findings" (.arr [intervalFinding upper]) readoutEntries)

/-- The leaf types that read its text. -/
@[reducible] def intervalLeaves (upper : Double) : Pydantic :=
  leavesReading (Leaves.pydantic [intervalReadout upper]).fromJson

theorem fromJson_interval (upper : Double) : letI := intervalLeaves upper
    Pydantic.fromJson (toJson (intervalReadout upper)) = some (intervalReadout upper) :=
  Leaves.fromJson_render _

theorem intervalBounds_interval (upper : Double) :
    ModelReadout.intervalBounds (intervalReadout upper) = [.int 0, .float upper] :=
  rfl

/-- The entries are those of the sample readout. -/
theorem validate_readoutEntries (fromJson : Bytes → Option Json) :
    letI := leavesReading fromJson
    ReadoutFields.validate readoutEntries = .ok (readoutFields "p" (.finite 1)) ∧
      ∀ e ∈ readoutEntries, e.1 ∈ readoutFieldNames := by
  let _ := leavesReading fromJson
  have hfinite : ∀ x ∈ (modelReadout "p" (.finite 1)).floats, x.isFinite = true := by
    rw [floats_modelReadout]
    decide
  have hfields := (ReadoutFields.validate_dump (scalarsSurvive _) (leavesSurvive _ "p" (.finite 1))
    (startsWithTheBase "p" (.finite 1))).mpr ⟨hfinite, uriFits_modelReadout "p" (.finite 1)⟩
  rw [dump_leavesReading] at hfields
  obtain ⟨o, ho, hbody, hnames⟩ := model_eq_ok.mp hfields
  obtain rfl : readoutEntries = o := Json.obj.inj ho
  exact ⟨hbody, hnames⟩

/-- The readout is accepted when its finding is. -/
theorem validateJson_interval (upper : Double) : letI := intervalLeaves upper
    (Finding.validate (intervalFinding upper)).isOk = true →
      ∃ r, ModelReadout.validateJson (toJson (intervalReadout upper)) = .ok r := by
  let _ := intervalLeaves upper
  intro hfinding
  obtain ⟨finding, hfinding⟩ := Validated.isOk_iff.mp hfinding
  obtain ⟨hbody, hnames⟩ :=
    validate_readoutEntries (Leaves.pydantic [intervalReadout upper]).fromJson
  have hitems : items 0 50 Finding.validate (.arr [intervalFinding upper]) =
      .ok ⟨[finding], Nat.zero_le _, Nat.succ_le_succ (Nat.zero_le _)⟩ :=
    items_eq_ok.mpr ⟨_, rfl, .cons hfinding .nil⟩
  have hwritten := ReadoutFields.validate_write_findings hbody hitems
  have hkeys : ∀ e ∈ Dict.write "findings" (.arr [intervalFinding upper]) readoutEntries,
      e.1 ∈ readoutFieldNames := by
    intro e he
    have hkey := List.mem_map_of_mem (f := Prod.fst) he
    rw [Dict.keys_write_of_mem (by decide)] at hkey
    obtain ⟨e', he', hee'⟩ := List.mem_map.mp hkey
    rw [← hee']
    exact hnames e' he'
  obtain ⟨r, hr⟩ : ∃ r : ModelReadout, r.toReadoutFields = { readoutFields "p" (.finite 1) with
      findings := ⟨[finding], Nat.zero_le _, Nat.succ_le_succ (Nat.zero_le _)⟩ } :=
    ModelReadout.check_iff.mpr ⟨rfl, List.nodup_singleton _, List.nodup_singleton _,
      fun _ hstep => absurd hstep List.not_mem_nil⟩
  refine ⟨r, (ModelReadout.validateJson_eq (fromJson_interval upper)).trans ?_⟩
  exact Validated.andThen_eq_ok.mpr ⟨_, model_eq_ok.mpr ⟨_, rfl, hwritten, hkeys⟩,
    ModelReadout.check_eq_ok.mpr hr.symm⟩

end Sample

/-- An interval from 0 to 1. -/
theorem intervals_ordered_iff_sample : letI := Sample.intervalLeaves (.finite 1)
    ∃ r, ModelReadout.validateJson (Sample.toJson (Sample.intervalReadout (.finite 1))) = .ok r ∧
      ∀ f ∈ r.findings.toList, f.IntervalOrdered := by
  let _ := Sample.intervalLeaves (.finite 1)
  obtain ⟨r, haccepted⟩ := Sample.validateJson_interval (.finite 1) (by decide +kernel)
  refine ⟨r, haccepted, (intervals_ordered_iff (Sample.fromJson_interval _) haccepted).mpr ?_⟩
  rw [Sample.intervalBounds_interval]
  decide

/-- An interval from 0 to NaN is accepted. -/
theorem nan_interval_accepted : letI := Sample.intervalLeaves .nan
    ∃ r, ModelReadout.validateJson (Sample.toJson (Sample.intervalReadout .nan)) = .ok r ∧
      ∃ f ∈ r.findings.toList, f.uncertainty.kind.isInterval = true ∧
        ¬ f.uncertainty.OrderedInterval := by
  let _ := Sample.intervalLeaves .nan
  obtain ⟨r, haccepted⟩ := Sample.validateJson_interval .nan (by decide +kernel)
  obtain ⟨js, hall, hbounds⟩ :=
    ModelReadout.findings_of_validateJson (Sample.fromJson_interval _) haccepted
  rw [Sample.intervalBounds_interval] at hbounds
  refine ⟨r, haccepted, ?_⟩
  by_contra hnone
  refine (Findings.ordered_iff hall).mp (fun f hf hkind => ?_) (.float .nan) ?_ rfl
  · by_contra hordered
    exact hnone ⟨f, hf, hkind, hordered⟩
  · rw [← hbounds]
    exact List.mem_cons_of_mem _ List.mem_cons_self

end Grabatus

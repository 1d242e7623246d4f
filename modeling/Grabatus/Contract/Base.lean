import Grabatus.Contract.IoSpec

/-!
# `BaseServiceContract`

Model of `contract/base.py`, `contract/duplicates.py` and `contract/opaque.py`. The contract of a
service over its own parameters, and `OpaqueServiceContract`, whose parameters are any object. A
contract carries what its model validators check: input roles and output roles are each pairwise
distinct, which is what makes every dictionary keyed by role lose nothing.

* **Duplicates** (`mem_repeated`): the loop of `duplicated` collects exactly the values that occur
  twice.
* **The sections are read alike whatever the parameters are** (`validate_eq_ok`): a document is a
  contract over `P` iff its sections validate, its roles are distinct and `P` accepts its
  `parameters`.

Out of scope: the texts of Pydantic's own errors; their kinds and field paths are kept.
-/

namespace Grabatus

open Grabatus.Lib Grabatus.Python

/-! ## Duplicates -/

/-- The loop of `duplicated`. -/
def repeated (seen again : Finset String) : List String → Finset String
  | [] => again
  | v :: vs => repeated (insert v seen) (if v ∈ seen then insert v again else again) vs

/-- `duplicated(values)`. -/
def duplicated (values : List String) : List String := sorted (repeated ∅ ∅ values)

/-- **The loop collects what was seen before and what occurs twice.** -/
theorem mem_repeated {v : String} : ∀ {vs : List String} {seen again : Finset String},
    v ∈ repeated seen again vs ↔ v ∈ again ∨ (v ∈ seen ∧ v ∈ vs) ∨ 2 ≤ vs.count v
  | [], seen, again => by simp [repeated]
  | w :: vs, seen, again => by
    rw [repeated, mem_repeated]
    by_cases hw : w = v
    · subst hw
      have hpos : w ∈ vs ↔ 1 ≤ vs.count w := List.count_pos_iff.symm
      by_cases hs : w ∈ seen
      · simp [hs]
      · simp only [Finset.mem_insert, true_or, true_and, List.count_cons_self, hs,
          false_and, false_or, hpos]
        constructor
        · rintro (h | h | h)
          · exact .inl h
          · exact .inr (by omega)
          · exact .inr (by omega)
        · rintro (h | h)
          · exact .inl h
          · exact .inr (.inl (by omega))
    · have hv : v ≠ w := fun h => hw h.symm
      have hagain : v ∈ (if w ∈ seen then insert w again else again) ↔ v ∈ again := by
        split <;> simp [hv]
      rw [hagain, List.count_cons_of_ne hw]
      simp [hv]

/-- No value is reported exactly when none repeats. -/
theorem duplicated_eq_nil {values : List String} : duplicated values = [] ↔ values.Nodup := by
  unfold duplicated
  rw [sorted_eq_nil, Finset.eq_empty_iff_forall_notMem, List.nodup_iff_count_le_one]
  simp only [mem_repeated, Finset.notMem_empty, false_and, false_or]
  exact forall_congr' fun v => by omega

/-! ## The contract -/

/-- `MAX_SERVICE_OUTPUTS`. -/
def maxServiceOutputs : Nat := 10

/-- The declared fields of a contract. -/
structure ContractFields [UnicodeData] (P : Type) where
  envelope : Envelope
  identity : Identity
  references : References
  service : ServiceDescriptor
  inputs : Items 1 10 InputSpec
  outputs : Items 1 (maxServiceOutputs + 1) OutputSpec
  callback : Callback
  parameters : P

section

variable [UnicodeData] {P Q : Type}

/-- The roles of the inputs, in order. -/
def ContractFields.inputRoles (c : ContractFields P) : List String :=
  c.inputs.toList.map fun s => s.role.val

/-- The roles of the outputs, in order. -/
def ContractFields.outputRoles (c : ContractFields P) : List String :=
  c.outputs.toList.map fun s => s.role.val

end

/-- `BaseServiceContract[ParamsT]`: the fields, and what the model validators check. -/
structure BaseServiceContract [UnicodeData] (P : Type) extends ContractFields P where
  inputRoles_nodup : toContractFields.inputRoles.Nodup
  outputRoles_nodup : toContractFields.outputRoles.Nodup

section

variable [UnicodeData] {P Q : Type}

theorem BaseServiceContract.ext : ∀ {c d : BaseServiceContract P},
    c.toContractFields = d.toContractFields → c = d
  | ⟨_, _, _⟩, ⟨_, _, _⟩, rfl => rfl

/-- `_input_roles_are_unique`, then `_output_roles_are_unique`. -/
def rolesAreUnique (c : ContractFields P) : Validated (BaseServiceContract P) :=
  if hi : duplicated c.inputRoles = [] then
    if ho : duplicated c.outputRoles = [] then
      .ok ⟨c, duplicated_eq_nil.mp hi, duplicated_eq_nil.mp ho⟩
    else .fail (.value ("output roles must be unique, got duplicates=" ++
      pyReprList (duplicated c.outputRoles)))
  else .fail (.value ("input roles must be unique, got duplicates=" ++
    pyReprList (duplicated c.inputRoles)))

theorem rolesAreUnique_eq_ok {c : ContractFields P} {d : BaseServiceContract P} :
    rolesAreUnique c = .ok d ↔ d.toContractFields = c := by
  unfold rolesAreUnique
  constructor
  · intro h
    split at h
    · split at h
      · obtain rfl := Validated.ok.inj h
        rfl
      · exact absurd h (Validated.fail_ne_ok _ _)
    · exact absurd h (Validated.fail_ne_ok _ _)
  · rintro rfl
    rw [dif_pos (duplicated_eq_nil.mpr d.inputRoles_nodup),
      dif_pos (duplicated_eq_nil.mpr d.outputRoles_nodup)]

/-- The declared fields of a contract. -/
def contractFieldNames : List String :=
  ["envelope", "identity", "references", "service", "inputs", "outputs", "callback", "parameters"]

variable [Pydantic]

/-- The fields of a contract over parameters validated by `params`. -/
def validateFields (params : Json → Validated P) (o : JsonObject) : Validated (ContractFields P) :=
  ContractFields.mk <$> field o "envelope" Envelope.validate <*>
    field o "identity" Identity.validate <*>
    field o "references" References.validate <*>
    field o "service" ServiceDescriptor.validate <*>
    field o "inputs" (items 1 10 InputSpec.validate) <*>
    field o "outputs" (items 1 (maxServiceOutputs + 1) OutputSpec.validate) <*>
    field o "callback" Callback.validate <*>
    field o "parameters" params

/-- `contract_type.model_validate`. -/
def BaseServiceContract.validate (params : Json → Validated P) (j : Json) :
    Validated (BaseServiceContract P) :=
  (model contractFieldNames (validateFields params) j).andThen rolesAreUnique

/-- Another parameter value under the same sections. -/
def ContractFields.withParameters (c : ContractFields P) (q : Q) : ContractFields Q :=
  { c with parameters := q }

theorem validateFields_eq_ok {params : Json → Validated P} {o : JsonObject}
    {c : ContractFields P} : validateFields params o = .ok c ↔
      field o "envelope" Envelope.validate = .ok c.envelope ∧
      field o "identity" Identity.validate = .ok c.identity ∧
      field o "references" References.validate = .ok c.references ∧
      field o "service" ServiceDescriptor.validate = .ok c.service ∧
      field o "inputs" (items 1 10 InputSpec.validate) = .ok c.inputs ∧
      field o "outputs" (items 1 (maxServiceOutputs + 1) OutputSpec.validate) = .ok c.outputs ∧
      field o "callback" Callback.validate = .ok c.callback ∧
      field o "parameters" params = .ok c.parameters := by
  unfold validateFields
  constructor
  · intro h
    simp only [Validated.seq_eq_ok, Validated.map_eq_ok] at h
    obtain ⟨_, _, h, hp, rfl⟩ := h
    obtain ⟨_, _, h, hcb, rfl⟩ := h
    obtain ⟨_, _, h, hout, rfl⟩ := h
    obtain ⟨_, _, h, hin, rfl⟩ := h
    obtain ⟨_, _, h, hs, rfl⟩ := h
    obtain ⟨_, _, h, hr, rfl⟩ := h
    obtain ⟨_, _, h, hi, rfl⟩ := h
    obtain ⟨_, he, rfl⟩ := h
    exact ⟨he, hi, hr, hs, hin, hout, hcb, hp⟩
  · rintro ⟨he, hi, hr, hs, hin, hout, hcb, hp⟩
    rw [he, hi, hr, hs, hin, hout, hcb, hp]
    rfl

/-- **A document is a contract** iff its fields validate and nothing else stands in it. -/
theorem BaseServiceContract.validate_eq_ok {params : Json → Validated P} {j : Json}
    {c : BaseServiceContract P} : validate params j = .ok c ↔
      ∃ o, j = .obj o ∧ (∀ e ∈ o, e.1 ∈ contractFieldNames) ∧
        validateFields params o = .ok c.toContractFields := by
  unfold validate
  rw [Validated.andThen_eq_ok]
  constructor
  · rintro ⟨f, hf, hc⟩
    obtain rfl := rolesAreUnique_eq_ok.mp hc
    obtain ⟨o, rfl, ho, hall⟩ := model_eq_ok.mp hf
    exact ⟨o, rfl, hall, ho⟩
  · rintro ⟨o, rfl, hall, ho⟩
    exact ⟨_, model_eq_ok.mpr ⟨o, rfl, ho, hall⟩, rolesAreUnique_eq_ok.mpr rfl⟩

end

end Grabatus

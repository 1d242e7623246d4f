import Grabatus.Runner.Failure

/-!
# The role check and the lookups by role

Over `_check_role_compatibility` (`runner/runner.py`), `load_inputs` and `save_outputs`
(`runner/steps.py`). `_check_role_compatibility` compares three sets of roles; `load_inputs` and
`save_outputs` index dictionaries by the roles of the contract and trust that the check made every
lookup safe.

* `checkRoleCompatibility_eq_ok`: what the check accepts, as set relations.
* **Behind the check no lookup by role can fail** (`lookups_defined`): the only exceptions of the
  two loops are those of the storage port, for every result that has the roles the backend
  declares and passes the readout gate.
-/

namespace Grabatus

open Grabatus.Lib Grabatus.Python

section

variable [UnicodeData] {σ P : Type}

/-- The readout's role, where the protocol has one. -/
def readoutRoles (version : ProtocolVersion) : Finset String :=
  if version = readoutProtocolVersion then {readoutOutputRole} else ∅

/-- The declared roles fit those of the backend. -/
structure RolesFit (r : ServiceRunner σ P) (contract : BaseServiceContract P) : Prop where
  required : r.compute.requiredInputRoles ⊆ contract.inputRoles.toFinset
  accepted : contract.inputRoles.toFinset ⊆
    r.compute.requiredInputRoles ∪ r.compute.optionalInputRoles
  outputs : contract.outputRoles.toFinset =
    r.compute.outputRoles ∪ readoutRoles contract.envelope.protocolVersion

theorem expectedOutputRoles_eq (r : ServiceRunner σ P) (contract : BaseServiceContract P) :
    r.expectedOutputRoles contract =
      r.compute.outputRoles ∪ readoutRoles contract.envelope.protocolVersion := by
  unfold ServiceRunner.expectedOutputRoles readoutRoles
  by_cases hversion : contract.envelope.protocolVersion = readoutProtocolVersion
  · rw [if_neg (not_not.mpr hversion), if_pos hversion, Finset.union_comm]
    rfl
  · rw [if_pos hversion, if_neg hversion, Finset.union_empty]

/-- **What the role check accepts.** -/
theorem checkRoleCompatibility_eq_ok {r : ServiceRunner σ P} {contract : BaseServiceContract P} :
    r.checkRoleCompatibility contract = .ok () ↔ RolesFit r contract := by
  unfold ServiceRunner.checkRoleCompatibility
  dsimp only
  constructor
  · intro h
    split at h
    · exact absurd h nofun
    · rename_i hmissing
      split at h
      · exact absurd h nofun
      · rename_i hunknown
        split at h
        · exact absurd h nofun
        · rename_i houtputs
          rw [not_not, Finset.sdiff_eq_empty_iff_subset] at hmissing hunknown
          rw [not_not, expectedOutputRoles_eq] at houtputs
          exact ⟨hmissing, hunknown, houtputs⟩
  · rintro ⟨hrequired, haccepted, houtputs⟩
    rw [if_neg (not_not.mpr (Finset.sdiff_eq_empty_iff_subset.mpr hrequired)),
      if_neg (not_not.mpr (Finset.sdiff_eq_empty_iff_subset.mpr haccepted)),
      if_neg (not_not.mpr (houtputs.trans (expectedOutputRoles_eq r contract).symm))]

/-! ## The lookups -/

omit [UnicodeData] in
/-- The exception is one of this call. -/
def RaisedBy {α : Type} (op : PyOp σ α) (e : PyException) : Prop := ∃ s, (op s).1 = .error e

/-- With credentials for every input, reading raises what the storage raises. -/
theorem loadInputs_fails {contract : BaseServiceContract P} {b : CredentialBundle}
    {storage : StoragePort σ}
    (hcredentials : ∀ x ∈ contract.inputs.toList, ∃ c, getItem b.inputs x.role.val = .ok c) :
    Traced.FailsWith
      (fun e => ∃ spec ∈ contract.inputs.toList, ∃ c, RaisedBy (storage.read spec c) e)
      (Steps.loadInputs contract b storage : Step σ P LoadedInputs) := by
  refine (Traced.FailsWith.collect fun spec hspec => ?_).bind fun _ _ _ _ _ =>
    Traced.FailsWith.pure _ _
  obtain ⟨c, hc⟩ := hcredentials spec hspec
  refine (Traced.FailsWith.lift fun e he => absurd (hc.symm.trans he) nofun).bind
    fun c _ _ _ _ => Traced.FailsWith.call fun s e he => ⟨spec, hspec, c, s, he⟩

/-- With a payload and credentials for every output, writing raises what the storage raises. -/
theorem saveOutputs_fails {contract : BaseServiceContract P} {b : CredentialBundle}
    {result : ComputeResult} {storage : StoragePort σ}
    (hpayloads : ∀ x ∈ contract.outputs.toList, ∃ p, getItem result.byRole x.role.val = .ok p)
    (hcredentials : ∀ x ∈ contract.outputs.toList, ∃ c, getItem b.outputs x.role.val = .ok c) :
    Traced.FailsWith
      (fun e => ∃ spec ∈ contract.outputs.toList, ∃ p c, RaisedBy (storage.write spec p c) e)
      (Steps.saveOutputs contract b result storage : Step σ P WriteReceipts) := by
  refine (Traced.FailsWith.collect fun spec hspec => ?_).bind fun _ _ _ _ _ =>
    Traced.FailsWith.pure _ _
  obtain ⟨p, hp⟩ := hpayloads spec hspec
  obtain ⟨c, hc⟩ := hcredentials spec hspec
  refine (Traced.FailsWith.lift fun e he => absurd (hp.symm.trans he) nofun).bind
    fun p _ _ _ _ => (Traced.FailsWith.lift fun e he => absurd (hc.symm.trans he) nofun).bind
      fun c _ _ _ _ => Traced.FailsWith.call fun s e he => ⟨spec, hspec, p, c, s, he⟩

variable [Pydantic]

/-- The gate lets no result through that has no readout. -/
theorem readout_of_validateReadout {result : ComputeResult} {context : ComputeContext}
    {readout : ModelReadout} (h : Steps.validateReadout result context = .ok readout) :
    ∃ payload, result.byRole.get? readoutOutputRole = some payload := by
  unfold Steps.validateReadout at h
  split at h
  · cases h
  · rename_i payload hpayload
    exact ⟨payload, hpayload⟩

/-- A result that has the backend's roles and a readout has every declared role. -/
theorem payloads_of_rolesFit {r : ServiceRunner σ P} {contract : BaseServiceContract P}
    (hfit : RolesFit r contract) {result : ComputeResult} {context : ComputeContext}
    {readout : ModelReadout}
    (hsupplies : ∀ role ∈ r.compute.outputRoles, role ∈ result.byRole.keys)
    (hgate : Steps.validateReadout result context = .ok readout) :
    ∀ x ∈ contract.outputs.toList, ∃ p, getItem result.byRole x.role.val = .ok p := by
  intro x hx
  have hrole : x.role.val ∈ contract.outputRoles.toFinset :=
    List.mem_toFinset.mpr (List.mem_map_of_mem hx)
  rw [hfit.outputs, Finset.mem_union] at hrole
  rcases hrole with hrole | hrole
  · obtain ⟨p, hp⟩ := Option.isSome_iff_exists.mp (Dict.get?_isSome.mpr (hsupplies _ hrole))
    exact ⟨p, getItem_eq_ok.mpr hp⟩
  · obtain ⟨p, hp⟩ := readout_of_validateReadout hgate
    unfold readoutRoles at hrole
    split at hrole
    · rw [Finset.mem_singleton.mp hrole]
      exact ⟨p, getItem_eq_ok.mpr hp⟩
    · exact absurd hrole (Finset.notMem_empty _)

/-- **The role check accepts exactly the roles that fit, and behind it no lookup by role fails**:
for the credentials `resolve_credentials` returns, `load_inputs` raises only what the storage port
raises; and so does `save_outputs`, for every result that has the backend's roles and passes the
readout gate. -/
theorem lookups_defined (r : ServiceRunner σ P) (contract : BaseServiceContract P) :
    (r.checkRoleCompatibility contract = .ok () ↔ RolesFit r contract) ∧
    (r.checkRoleCompatibility contract = .ok () → ∀ b s s' t,
      (Steps.resolveCredentials contract r.secrets s :
        Outcome (Event P) σ PyException CredentialBundle) = ⟨.ok b, s', t⟩ →
      (∀ x ∈ contract.inputs.toList, ∃ c, getItem b.inputs x.role.val = .ok c) ∧
      Traced.FailsWith
        (fun e => ∃ spec ∈ contract.inputs.toList, ∃ c, RaisedBy (r.storage.read spec c) e)
        (Steps.loadInputs contract b r.storage : Step σ P LoadedInputs) ∧
      ∀ result context readout,
        (∀ role ∈ r.compute.outputRoles, role ∈ result.byRole.keys) →
        Steps.validateReadout result context = .ok readout →
        (∀ x ∈ contract.outputs.toList, (∃ p, getItem result.byRole x.role.val = .ok p) ∧
          ∃ c, getItem b.outputs x.role.val = .ok c) ∧
        Traced.FailsWith
          (fun e => ∃ spec ∈ contract.outputs.toList, ∃ p c,
            RaisedBy (r.storage.write spec p c) e)
          (Steps.saveOutputs contract b result r.storage : Step σ P WriteReceipts)) := by
  refine ⟨checkRoleCompatibility_eq_ok, fun hcheck b s s' t hresolve => ?_⟩
  obtain ⟨-, hin, hout⟩ := resolveCredentials_ok hresolve
  have hinputs : ∀ x ∈ contract.inputs.toList, ∃ c, getItem b.inputs x.role.val = .ok c :=
    fun x hx => ⟨_, getItem_eq_ok.mpr (hin x hx).1⟩
  have houtputs : ∀ x ∈ contract.outputs.toList, ∃ c, getItem b.outputs x.role.val = .ok c :=
    fun x hx => ⟨_, getItem_eq_ok.mpr (hout x hx).1⟩
  refine ⟨hinputs, loadInputs_fails hinputs, fun result context readout hsupplies hgate => ?_⟩
  have hpayloads := payloads_of_rolesFit (checkRoleCompatibility_eq_ok.mp hcheck) hsupplies hgate
  exact ⟨fun x hx => ⟨hpayloads x hx, houtputs x hx⟩, saveOutputs_fails hpayloads houtputs⟩

end

end Grabatus

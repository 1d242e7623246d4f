import Grabatus.Runner.Runner

/-!
# The readout gate

Over `validate_readout` (`runner/steps.py`). What `validate_readout` lets through: bytes that
parse as a readout whose identity blocks are the contract's own (`validateReadout_eq_ok`), which
is all the gate asks of a result (`carriesReadout_iff`). **Such bytes explain one contract only**
(`explains_inj`).
-/

namespace Grabatus

open Grabatus.Lib Grabatus.Python

variable [UnicodeData] [Pydantic] {P : Type}

/-- The bytes parse as a readout of this very contract. -/
def Explains (payload : Bytes) (c : ContractFields P) : Prop :=
  ∃ readout, ModelReadout.validateJson payload = .ok readout ∧
    readout.request = ComputeContext.requestBlock c ∧
      readout.service = ComputeContext.serviceBlock c

/-- **The identity gate separates contracts.** -/
theorem explains_inj {Q : Type} {payload : Bytes} {c : ContractFields P} {d : ContractFields Q}
    (hc : Explains payload c) (hd : Explains payload d) :
    c.envelope.requestId = d.envelope.requestId ∧ c.references = d.references ∧
      c.identity.tenantId = d.identity.tenantId ∧ c.envelope.origin = d.envelope.origin ∧
        c.service = d.service := by
  obtain ⟨readout, hr, hreq, hsvc⟩ := hc
  obtain ⟨readout', hr', hreq', hsvc'⟩ := hd
  obtain rfl := Validated.ok.inj (hr.symm.trans hr')
  exact ComputeContext.blocks_inj (hreq.symm.trans hreq') (hsvc.symm.trans hsvc')

theorem checkReadoutIdentity_eq_ok {readout : ModelReadout} {c : ContractFields P}
    {now : Datetime} :
    Steps.checkReadoutIdentity readout (ComputeContext.ofContract c now) = .ok () ↔
      readout.request = ComputeContext.requestBlock c ∧
        readout.service = ComputeContext.serviceBlock c := by
  unfold Steps.checkReadoutIdentity
  rw [ComputeContext.readoutRequest_ofContract, ComputeContext.readoutService_ofContract]
  show (if _ then _ else _) = _ ↔ _
  split <;> simp [*]

/-- **What the readout gate lets through**: a readout of the run's contract. -/
theorem validateReadout_eq_ok {result : ComputeResult} {c : ContractFields P} {now : Datetime}
    {readout : ModelReadout} :
    Steps.validateReadout result (ComputeContext.ofContract c now) = .ok readout ↔
      ∃ payload, result.byRole.get? readoutOutputRole = some payload ∧
        ModelReadout.validateJson payload = .ok readout ∧
          readout.request = ComputeContext.requestBlock c ∧
            readout.service = ComputeContext.serviceBlock c := by
  unfold Steps.validateReadout
  rcases result.byRole.get? readoutOutputRole with - | payload
  · exact ⟨nofun, by rintro ⟨_, h, -⟩; exact nomatch h⟩
  · dsimp only
    rcases hp : ModelReadout.validateJson payload with readout' | es
    · dsimp only
      rcases hid : Steps.checkReadoutIdentity readout' (ComputeContext.ofContract c now) with e | ⟨⟩
      · refine ⟨nofun, ?_⟩
        rintro ⟨_, ⟨rfl⟩, h, hblocks⟩
        obtain rfl := Validated.ok.inj (hp.symm.trans h)
        exact absurd (hid.symm.trans (checkReadoutIdentity_eq_ok.mpr hblocks)) nofun
      · constructor
        · intro h
          obtain rfl := Except.ok.inj h
          exact ⟨payload, rfl, hp, checkReadoutIdentity_eq_ok.mp hid⟩
        · rintro ⟨_, ⟨rfl⟩, h, -⟩
          obtain rfl := Validated.ok.inj (hp.symm.trans h)
          rfl
    · refine ⟨nofun, ?_⟩
      rintro ⟨_, ⟨rfl⟩, h, -⟩
      exact absurd (hp.symm.trans h) nofun

/-- The gate lets these bytes through for a contract. -/
def PassesGate (payload : Bytes) (c : ContractFields P) : Prop :=
  ∃ result now readout, result.byRole.get? readoutOutputRole = some payload ∧
    Steps.validateReadout result (ComputeContext.ofContract c now) = .ok readout

theorem PassesGate.explains {payload : Bytes} {c : ContractFields P} (h : PassesGate payload c) :
    Explains payload c := by
  obtain ⟨result, now, readout, hpayload, hgate⟩ := h
  obtain ⟨payload', hpayload', hjson, hblocks⟩ := validateReadout_eq_ok.mp hgate
  obtain rfl := Option.some.inj (hpayload.symm.trans hpayload')
  exact ⟨readout, hjson, hblocks⟩

end Grabatus

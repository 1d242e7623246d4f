import Grabatus.Runner.Gate

/-!
# What a complete run leaves

Over `runner/steps.py`. Each step that returns is described by its calls, in order, with the
replies they got: the credentials of a spec are those its own reference resolved to, the bytes of
an input those read with them, the payload of an output the backend's under the output's own role.
Every hand-over is a dictionary keyed by role, and reads back what was put in because a contract's
roles are distinct (`BaseServiceContract.inputRoles_nodup`,
`BaseServiceContract.outputRoles_nodup`).
-/

namespace Grabatus

open Grabatus.Lib Grabatus.Python

variable [UnicodeData] {σ P : Type}

/-- The credentials kept for a role. -/
def credentialsOf (d : Dict String Credentials) (role : String) : Credentials :=
  (d.get? role).getD nullCredentials

/-- The call that resolves one `credential_ref`. -/
def resolveEvents (P : Type) : Option SecretRef → Credentials → List (Event P)
  | none, _ => []
  | some ref, c => [.resolve ref (.ok c)]

omit [UnicodeData] in
theorem resolveRef_ok {secrets : SecretsPort σ} {ref : Option SecretRef} {s : σ}
    {c : Credentials} (h : (Steps.resolveRef secrets ref s :
      Outcome (Event P) σ PyException Credentials).result = .ok c) :
    (Steps.resolveRef secrets ref s : Outcome (Event P) σ PyException Credentials).trace =
      resolveEvents P ref c ∧ (ref = none → c = nullCredentials) := by
  cases ref with
  | none => exact ⟨rfl, fun _ => (Except.ok.inj h).symm⟩
  | some ref => exact ⟨Traced.call_ok h, nofun⟩

omit [UnicodeData] in
/-- The lookup of a dictionary filled under distinct keys. -/
theorem credentialsOf_fill {S : Type} {role : S → String} {ps : List (S × Credentials)}
    (h : ((ps.map Prod.fst).map role).Nodup) {p : S × Credentials} (hp : p ∈ ps) :
    credentialsOf (Dict.fill role Dict.empty ps) (role p.1) = p.2 := by
  rw [List.map_map] at h
  unfold credentialsOf
  rw [Dict.get?_fill_of_mem h hp, Option.getD_some]

omit [UnicodeData] in
/-- The resolutions of one list of specs, in order. -/
theorem collectCredentials_ok {S : Type} {role : S → String} {ref : S → Option SecretRef}
    {secrets : SecretsPort σ} {specs : List S} (hnodup : (specs.map role).Nodup) {s : σ}
    {d : Dict String Credentials}
    (h : (Traced.collect role (fun x => Steps.resolveRef secrets (ref x)) specs s :
      Outcome (Event P) σ PyException _).result = .ok d) :
    (Traced.collect role (fun x => Steps.resolveRef secrets (ref x)) specs s :
        Outcome (Event P) σ PyException _).trace =
      specs.flatMap (fun x => resolveEvents P (ref x) (credentialsOf d (role x))) ∧
    ∀ x ∈ specs, d.get? (role x) = some (credentialsOf d (role x)) ∧
      (ref x = none → credentialsOf d (role x) = nullCredentials) := by
  obtain ⟨ps, rfl, rfl, htr, hall⟩ := Traced.collect_ok
    (fun x c => resolveEvents P (ref x) c) (fun x c => ref x = none → c = nullCredentials)
    (fun _ _ _ => resolveRef_ok) h
  have hkey : ∀ p ∈ ps, credentialsOf (Dict.fill role Dict.empty ps) (role p.1) = p.2 :=
    fun p hp => credentialsOf_fill hnodup hp
  constructor
  · rw [htr, List.flatMap_map]
    exact List.flatMap_congr fun p hp => by rw [hkey p hp]
  · intro x hx
    obtain ⟨p, hp, rfl⟩ := List.mem_map.mp hx
    rw [hkey p hp]
    refine ⟨Dict.get?_fill_of_mem ?_ hp, hall p hp⟩
    simpa [Function.comp_def] using hnodup

/-! ## Steps that return -/

theorem getItem_eq_ok {α : Type} {d : Dict String α} {role : String} {a : α} :
    getItem d role = .ok a ↔ d.get? role = some a := by
  unfold getItem
  split <;> simp [*]

/-- The credentials of every spec, and the calls that resolved them. -/
theorem resolveCredentials_ok {contract : BaseServiceContract P} {secrets : SecretsPort σ}
    {s s' : σ} {b : CredentialBundle} {t : List (Event P)}
    (h : Steps.resolveCredentials contract secrets s = ⟨.ok b, s', t⟩) :
    t = contract.inputs.toList.flatMap
          (fun x => resolveEvents P x.credentialRef (credentialsOf b.inputs x.role.val)) ++
        contract.outputs.toList.flatMap
          (fun x => resolveEvents P x.credentialRef (credentialsOf b.outputs x.role.val)) ∧
    (∀ x ∈ contract.inputs.toList,
      b.inputs.get? x.role.val = some (credentialsOf b.inputs x.role.val) ∧
        (x.credentialRef = none → credentialsOf b.inputs x.role.val = nullCredentials)) ∧
    ∀ x ∈ contract.outputs.toList,
      b.outputs.get? x.role.val = some (credentialsOf b.outputs x.role.val) ∧
        (x.credentialRef = none → credentialsOf b.outputs x.role.val = nullCredentials) := by
  obtain ⟨inputs, s₁, t₁, hin, hrest, htr, -⟩ := Traced.bind_ok
    (show (Steps.resolveCredentials contract secrets s).result = .ok b by rw [h])
  obtain ⟨outputs, s₂, t₂, hout, hret, htr', -⟩ := Traced.bind_ok hrest
  obtain rfl := Except.ok.inj hret
  obtain ⟨hti, hci⟩ := collectCredentials_ok contract.inputRoles_nodup (by rw [hin])
  obtain ⟨hto, hco⟩ := collectCredentials_ok contract.outputRoles_nodup (by rw [hout])
  rw [hin] at hti
  rw [hout] at hto
  refine ⟨?_, hci, hco⟩
  rw [show t = (Steps.resolveCredentials contract secrets s).trace by rw [h], ← hti, ← hto]
  exact htr.trans (by rw [htr', Traced.run_pure, List.append_nil])

/-- One input read with its own credentials. -/
theorem loadInput_ok {b : CredentialBundle} {storage : StoragePort σ} {spec : InputSpec} {s : σ}
    {bytes : Bytes} (h : (Steps.loadInput b storage spec s :
      Outcome (Event P) σ PyException Bytes).result = .ok bytes) :
    (Steps.loadInput b storage spec s : Outcome (Event P) σ PyException Bytes).trace =
      [.read spec (credentialsOf b.inputs spec.role.val) (.ok bytes)] := by
  unfold Steps.loadInput at h ⊢
  obtain ⟨c, hc, hcall, htr⟩ := Traced.lift_bind_ok h
  rw [htr, Traced.call_ok hcall, credentialsOf, getItem_eq_ok.mp hc, Option.getD_some]

/-- The bytes of every input, and the calls that read them. -/
theorem loadInputs_ok {contract : BaseServiceContract P} {b : CredentialBundle}
    {storage : StoragePort σ} {s s' : σ} {inputs : LoadedInputs} {t : List (Event P)}
    (h : Steps.loadInputs contract b storage s = ⟨.ok inputs, s', t⟩) :
    ∃ loads : List (InputSpec × Bytes), loads.map Prod.fst = contract.inputs.toList ∧
      inputs.byRole.entries = loads.map (fun p => (p.1.role.val, p.2)) ∧
        t = loads.map fun p => .read p.1 (credentialsOf b.inputs p.1.role.val) (.ok p.2) := by
  obtain ⟨byRole, s₁, t₁, hloop, hret, htr, -⟩ := Traced.bind_ok
    (show (Steps.loadInputs contract b storage s).result = .ok inputs by rw [h])
  obtain rfl := Except.ok.inj hret
  obtain ⟨loads, hloads, rfl, htl, -⟩ := Traced.collect_ok
    (fun x bytes => [Event.read x (credentialsOf b.inputs x.role.val) (.ok bytes)])
    (fun _ _ => True) (fun _ _ _ hx => ⟨loadInput_ok hx, trivial⟩)
    (congrArg Outcome.result hloop)
  refine ⟨loads, hloads, Dict.fill_entries ?_, ?_⟩
  · have hnodup := contract.inputRoles_nodup
    unfold ContractFields.inputRoles at hnodup
    rw [← hloads, List.map_map] at hnodup
    exact hnodup
  · rw [show t = (Steps.loadInputs contract b storage s).trace by rw [h], List.map_eq_flatMap,
      ← htl, hloop]
    exact htr.trans (List.append_nil _)

/-- The backend's bytes for a role. -/
def payloadOf (result : ComputeResult) (role : String) : Bytes :=
  (result.byRole.get? role).getD ByteArray.empty

/-- One output written with its own payload and credentials. -/
theorem saveOutput_ok {b : CredentialBundle} {result : ComputeResult} {storage : StoragePort σ}
    {spec : OutputSpec} {s : σ} {receipt : WriteReceipt}
    (h : (Steps.saveOutput b result storage spec s :
      Outcome (Event P) σ PyException WriteReceipt).result = .ok receipt) :
    (Steps.saveOutput b result storage spec s :
        Outcome (Event P) σ PyException WriteReceipt).trace =
      [.write spec (payloadOf result spec.role.val) (credentialsOf b.outputs spec.role.val)
        (.ok receipt)] ∧
      result.byRole.get? spec.role.val = some (payloadOf result spec.role.val) := by
  unfold Steps.saveOutput at h ⊢
  obtain ⟨payload, hp, h, htr⟩ := Traced.lift_bind_ok h
  obtain ⟨c, hc, hcall, htr'⟩ := Traced.lift_bind_ok h
  rw [htr, htr', Traced.call_ok hcall, credentialsOf, payloadOf, getItem_eq_ok.mp hc,
    getItem_eq_ok.mp hp, Option.getD_some, Option.getD_some]
  exact ⟨rfl, rfl⟩

/-- The receipts of every output, and the calls that wrote them. -/
theorem saveOutputs_ok {contract : BaseServiceContract P} {b : CredentialBundle}
    {result : ComputeResult} {storage : StoragePort σ} {s s' : σ} {receipts : WriteReceipts}
    {t : List (Event P)}
    (h : Steps.saveOutputs contract b result storage s = ⟨.ok receipts, s', t⟩) :
    ∃ saves : List (OutputSpec × WriteReceipt), saves.map Prod.fst = contract.outputs.toList ∧
      receipts.byRole.entries = saves.map (fun p => (p.1.role.val, p.2)) ∧
      t = saves.map (fun p => .write p.1 (payloadOf result p.1.role.val)
        (credentialsOf b.outputs p.1.role.val) (.ok p.2)) ∧
      ∀ p ∈ saves, result.byRole.get? p.1.role.val = some (payloadOf result p.1.role.val) := by
  obtain ⟨byRole, s₁, t₁, hloop, hret, htr, -⟩ := Traced.bind_ok
    (show (Steps.saveOutputs contract b result storage s).result = .ok receipts by rw [h])
  obtain rfl := Except.ok.inj hret
  obtain ⟨saves, hsaves, rfl, hts, hall⟩ := Traced.collect_ok
    (fun x receipt => [Event.write x (payloadOf result x.role.val)
      (credentialsOf b.outputs x.role.val) (.ok receipt)])
    (fun x _ => result.byRole.get? x.role.val = some (payloadOf result x.role.val))
    (fun _ _ _ => saveOutput_ok) (congrArg Outcome.result hloop)
  refine ⟨saves, hsaves, Dict.fill_entries ?_, ?_, hall⟩
  · have hnodup := contract.outputRoles_nodup
    unfold ContractFields.outputRoles at hnodup
    rw [← hsaves, List.map_map] at hnodup
    exact hnodup
  · rw [show t = (Steps.saveOutputs contract b result storage s).trace by rw [h],
      List.map_eq_flatMap, ← hts, hloop]
    exact htr.trans (List.append_nil _)

/-- The context of a run carries the clock's reply. -/
theorem makeComputeContext_ok {contract : BaseServiceContract P} {clock : ClockPort σ} {s s' : σ}
    {context : ComputeContext} {t : List (Event P)}
    (h : Steps.makeComputeContext contract clock s = ⟨.ok context, s', t⟩) :
    ∃ now, t = [.now (.ok now)] ∧
      context = ComputeContext.ofContract contract.toContractFields now := by
  obtain ⟨now, s₁, t₁, hnow, hret, htr, -⟩ := Traced.bind_ok
    (show (Steps.makeComputeContext contract clock s).result = .ok context by rw [h])
  obtain rfl := Except.ok.inj hret
  refine ⟨now, ?_, rfl⟩
  rw [show t = (Steps.makeComputeContext contract clock s).trace by rw [h],
    ← Traced.trace_of_call hnow]
  exact htr.trans (List.append_nil _)

/-! ## The two stretches -/

/-- What a returning `prepare` did. -/
structure PreparedBy (contract : BaseServiceContract P) (prepared : ServiceRunner.Prepared)
    (t : List (Event P)) : Prop where
  inputCredentials : ∀ x ∈ contract.inputs.toList, x.credentialRef = none →
    credentialsOf prepared.credentials.inputs x.role.val = nullCredentials
  outputCredentials : ∀ x ∈ contract.outputs.toList,
    prepared.credentials.outputs.get? x.role.val =
        some (credentialsOf prepared.credentials.outputs x.role.val) ∧
      (x.credentialRef = none →
        credentialsOf prepared.credentials.outputs x.role.val = nullCredentials)
  calls : ∃ (loads : List (InputSpec × Bytes)) (now : Datetime),
    loads.map Prod.fst = contract.inputs.toList ∧
      prepared.inputs.byRole.entries = loads.map (fun p => (p.1.role.val, p.2)) ∧
      prepared.context = ComputeContext.ofContract contract.toContractFields now ∧
      t = contract.inputs.toList.flatMap (fun x => resolveEvents P x.credentialRef
            (credentialsOf prepared.credentials.inputs x.role.val)) ++
          contract.outputs.toList.flatMap (fun x => resolveEvents P x.credentialRef
            (credentialsOf prepared.credentials.outputs x.role.val)) ++
          loads.map (fun p => .read p.1
            (credentialsOf prepared.credentials.inputs p.1.role.val) (.ok p.2)) ++
          [.now (.ok now)]

/-- **What a returning `prepare` did.** -/
theorem prepare_ok {r : ServiceRunner σ P} {contract : BaseServiceContract P} {s s' : σ}
    {prepared : ServiceRunner.Prepared} {t : List (Event P)}
    (h : r.prepare contract s = ⟨.ok prepared, s', t⟩) : PreparedBy contract prepared t := by
  obtain ⟨b, s₁, t₁, hcred, h₁, htr₁, -⟩ := Traced.bind_ok
    (show (r.prepare contract s).result = .ok prepared by rw [h])
  obtain ⟨inputs, s₂, t₂, hload, h₂, htr₂, -⟩ := Traced.bind_ok h₁
  obtain ⟨context, s₃, t₃, hctx, h₃, htr₃, -⟩ := Traced.bind_ok h₂
  obtain ⟨now, rfl, rfl⟩ := makeComputeContext_ok hctx
  obtain rfl := Except.ok.inj h₃
  obtain ⟨rfl, hin, hout⟩ := resolveCredentials_ok hcred
  obtain ⟨loads, hloads, hentries, rfl⟩ := loadInputs_ok hload
  refine {
    inputCredentials := fun x hx => (hin x hx).2
    outputCredentials := hout
    calls := ⟨loads, now, hloads, hentries, rfl, ?_⟩ }
  rw [show t = (r.prepare contract s).trace by rw [h]]
  refine htr₁.trans ?_
  rw [htr₂, htr₃, Traced.run_pure]
  simp only [List.append_assoc, List.append_nil]

section

variable [Pydantic]

/-- **A run of `produce` stops before the backend, or is decided by its reply**: an exception
comes out, and a result goes through the gate. -/
theorem produce_cases (r : ServiceRunner σ P) (contract : BaseServiceContract P) (s : σ) :
    (∃ e s' t, r.prepare contract s = ⟨.error e, s', t⟩ ∧
      r.produce contract s = ⟨.error e, s', t⟩) ∨
    ∃ prepared s₁ t reply s', r.prepare contract s = ⟨.ok prepared, s₁, t⟩ ∧
      r.compute.run prepared.inputs contract.parameters prepared.context s₁ = (reply, s') ∧
      r.produce contract s =
        ⟨reply.bind fun result => (Steps.validateReadout result prepared.context).map fun _ =>
            ⟨prepared.credentials, result⟩, s',
          t ++ [.run prepared.inputs contract.parameters prepared.context reply]⟩ := by
  rcases hp : r.prepare contract s with ⟨e | prepared, s₁, t⟩
  · exact .inl ⟨e, s₁, t, rfl, Traced.run_bind_error _ hp⟩
  · rcases hrun : r.compute.run prepared.inputs contract.parameters prepared.context s₁ with
      ⟨reply, s'⟩
    refine .inr ⟨prepared, s₁, t, reply, s', rfl, hrun, ?_⟩
    have hcall : Steps.runCompute contract prepared.inputs r.compute prepared.context s₁ =
        ⟨reply, s', [.run prepared.inputs contract.parameters prepared.context reply]⟩ := by
      simp [Steps.runCompute, Traced.call, hrun]
    unfold ServiceRunner.produce
    rw [Traced.run_bind_ok _ hp]
    rcases reply with e | result
    · rw [Traced.run_bind_error _ hcall]
      rfl
    · rw [Traced.run_bind_ok _ hcall]
      rcases hgate : Steps.validateReadout result prepared.context with e | readout
      · rw [Traced.run_bind_error _ (Traced.run_lift _ _)]
        simp [Except.bind, Except.map, hgate]
      · rw [Traced.run_bind_ok _ (Traced.run_lift _ _)]
        simp [Except.bind, Except.map, hgate]

/-- What a returning `produce` did. -/
structure ProducedBy (contract : BaseServiceContract P) (produced : ServiceRunner.Produced)
    (t : List (Event P)) : Prop where
  gate : ∃ payload, produced.result.byRole.get? readoutOutputRole = some payload ∧
    Explains payload contract.toContractFields
  calls : ∃ prepared now readout t', PreparedBy contract prepared t' ∧
    prepared.credentials = produced.credentials ∧
      prepared.context = ComputeContext.ofContract contract.toContractFields now ∧
        Steps.validateReadout produced.result prepared.context = .ok readout ∧
        t = t' ++ [.run prepared.inputs contract.parameters prepared.context
          (.ok produced.result)]

/-- **What a returning `produce` did.** -/
theorem produce_ok {r : ServiceRunner σ P} {contract : BaseServiceContract P} {s s' : σ}
    {produced : ServiceRunner.Produced} {t : List (Event P)}
    (h : r.produce contract s = ⟨.ok produced, s', t⟩) : ProducedBy contract produced t := by
  rcases produce_cases r contract s with
    ⟨e, s₁, t₁, -, hx⟩ | ⟨prepared, s₁, t₁, reply, s₂, hp, -, hx⟩
  · exact absurd (congrArg Outcome.result (h.symm.trans hx)) nofun
  · have hprepared := prepare_ok hp
    obtain ⟨-, now, -, -, hcontext, -⟩ := hprepared.calls
    rcases reply with e | result
    · exact absurd (congrArg Outcome.result (h.symm.trans hx)) nofun
    · rcases hgate : Steps.validateReadout result prepared.context with e | readout
      · simp [h, hgate, Except.bind, Except.map] at hx
      · simp only [h, hgate, Except.bind, Except.map, Outcome.mk.injEq, Except.ok.injEq] at hx
        obtain ⟨rfl, -, rfl⟩ := hx
        obtain ⟨payload, hpayload, hjson, hblocks⟩ :=
          validateReadout_eq_ok.mp (hcontext ▸ hgate)
        exact {
          gate := ⟨payload, hpayload, readout, hjson, hblocks⟩
          calls := ⟨prepared, now, readout, t₁, hprepared, rfl, hcontext, hgate, rfl⟩ }

end

end Grabatus

import Grabatus.Contract.Readout.Rules
import Grabatus.Runner.Artifacts
import Grabatus.Runner.Success

/-!
# What an accepted readout says of its run

Over `validate_readout` and `_check_readout_identity` (`runner/steps.py`). The gate compares the
two identity blocks of a readout with those of the run. For every contract that validates, the
blocks are valid and a document that carries their dumps passes (`identityBlocks_pass`).

Nothing compares the rest, which is the backend's own statement. **The readout of a run that ends
with `ok` has the identity blocks of the contract; it names the run's own files exactly when the
backend took them from what it was handed** (`names_own_files_iff`): each artifact from
`ComputeContext.artifact_uri`, each digest from the inputs it was given.

Out of scope: whether a digest is the digest of anything; the gate does not ask.
-/

namespace Grabatus

open Grabatus.Lib Grabatus.Python

section

variable [UnicodeData] [Pydantic] {σ P : Type}

/-! ## The identity blocks -/

/-- **Every contract's identity blocks are valid, and pass the gate after a round trip**: they
read back from their dumps, and any readout whose document carries the dumps is let through. -/
theorem identityBlocks_pass (c : BaseServiceContract P) (now : Datetime) :
    ∃ request service,
      (ComputeContext.ofContract c.toContractFields now).readoutRequest = .ok request ∧
      (ComputeContext.ofContract c.toContractFields now).readoutService = .ok service ∧
      ReadoutRequest.validate request.dump = .ok request ∧
      ReadoutService.validate service.dump = .ok service ∧
      ∀ payload o readout, Pydantic.fromJson payload = some (.obj o) →
        Dict.lookup "request" o = some request.dump →
          Dict.lookup "service" o = some service.dump →
            ModelReadout.validateJson payload = .ok readout →
              Steps.checkReadoutIdentity readout
                (ComputeContext.ofContract c.toContractFields now) = .ok () := by
  refine ⟨_, _, ComputeContext.readoutRequest_ofContract _ now,
    ComputeContext.readoutService_ofContract _ now, ReadoutRequest.validate_dump _,
    ReadoutService.validate_dump _, fun payload o readout hjson hrequest hservice hreadout => ?_⟩
  have hfields := ModelReadout.fields_of_validateJson hjson hreadout
  obtain ⟨-, -, hreq, hsvc, -⟩ := ReadoutFields.validate_eq_ok.mp hfields
  obtain ⟨jr, hjr, hreq⟩ := field_eq_ok.mp hreq
  obtain ⟨js, hjs, hsvc⟩ := field_eq_ok.mp hsvc
  obtain rfl := Option.some.inj (hrequest.symm.trans hjr)
  obtain rfl := Option.some.inj (hservice.symm.trans hjs)
  refine checkReadoutIdentity_eq_ok.mpr ⟨?_, ?_⟩
  · exact Validated.ok.inj (hreq.symm.trans (ReadoutRequest.validate_dump _))
  · exact Validated.ok.inj (hsvc.symm.trans (ReadoutService.validate_dump _))

/-! ## The artifacts and the digests -/

omit [Pydantic] in
/-- The readout names outputs of the contract, each where it goes, and inputs of the contract. -/
structure ModelReadout.NamesFilesOf (readout : ModelReadout) (c : ContractFields P) : Prop where
  artifacts : ∀ a ∈ readout.artifacts.toList, ∃ spec ∈ c.outputs.toList,
    a.role = spec.role ∧ a.uri.url = spec.destinationUri
  digests : ∀ d ∈ readout.reproducibility.inputDigests.val.toList, ∃ spec ∈ c.inputs.toList,
    d.role = spec.role

omit [Pydantic] in
/-- The readout repeats what the backend was handed: for each artifact the URI `artifact_uri`
returns, and a digest only for an input it was given. -/
structure ModelReadout.TakenFrom (readout : ModelReadout) (context : ComputeContext)
    (inputs : LoadedInputs) : Prop where
  artifacts : ∀ a ∈ readout.artifacts.toList,
    context.artifactUri a.role.val = .ok a.uri.url.text
  digests : ∀ d ∈ readout.reproducibility.inputDigests.val.toList,
    (inputs.byRole.get? d.role.val).isSome = true

omit [Pydantic] in
/-- **`artifact_uri` returns the destinations of the contract**, and no other URI. -/
theorem artifactUri_eq_ok (c : BaseServiceContract P) (now : Datetime) {role uri : String} :
    (ComputeContext.ofContract c.toContractFields now).artifactUri role = .ok uri ↔
      ∃ spec ∈ c.outputs.toList, spec.role.val = role ∧ spec.destinationUri.text = uri := by
  constructor
  · intro h
    unfold ComputeContext.artifactUri at h
    split at h
    · rename_i found hget
      obtain rfl := Except.ok.inj h
      obtain ⟨key, hmem, rfl⟩ := Dict.mem_of_fill hget
      obtain ⟨spec, hspec, heq⟩ := List.mem_map.mp hmem
      simp only [Prod.mk.injEq] at heq
      exact ⟨spec, hspec, heq.1, heq.2⟩
    · exact absurd h nofun
  · rintro ⟨spec, hspec, rfl, rfl⟩
    exact artifactUri_ofContract c now hspec

omit [Pydantic] in
/-- The backend is given the inputs of the contract, by role. -/
theorem given_iff {c : BaseServiceContract P} {inputs : LoadedInputs}
    {loads : List (InputSpec × Bytes)} (hloads : loads.map Prod.fst = c.inputs.toList)
    (hentries : inputs.byRole.entries = loads.map fun p => (p.1.role.val, p.2)) {role : String} :
    (inputs.byRole.get? role).isSome = true ↔ ∃ spec ∈ c.inputs.toList, spec.role.val = role := by
  rw [Dict.get?_isSome]
  unfold Dict.keys
  rw [hentries, ← hloads, List.map_map]
  simp only [List.mem_map, Function.comp_apply, exists_exists_and_eq_and]

omit [Pydantic] in
/-- What the backend was handed is what the contract declares. -/
theorem ModelReadout.namesFilesOf_iff {readout : ModelReadout} {c : BaseServiceContract P}
    {now : Datetime} {inputs : LoadedInputs} {loads : List (InputSpec × Bytes)}
    (hloads : loads.map Prod.fst = c.inputs.toList)
    (hentries : inputs.byRole.entries = loads.map fun p => (p.1.role.val, p.2)) :
    readout.NamesFilesOf c.toContractFields ↔
      readout.TakenFrom (ComputeContext.ofContract c.toContractFields now) inputs := by
  constructor
  · intro h
    refine ⟨fun a ha => ?_, fun d hd => ?_⟩
    · obtain ⟨spec, hspec, hrole, huri⟩ := h.artifacts a ha
      exact (artifactUri_eq_ok c now).mpr
        ⟨spec, hspec, congrArg Str.val hrole.symm, congrArg AnyUrl.text huri.symm⟩
    · obtain ⟨spec, hspec, hrole⟩ := h.digests d hd
      exact (given_iff hloads hentries).mpr ⟨spec, hspec, congrArg Str.val hrole.symm⟩
  · intro h
    refine ⟨fun a ha => ?_, fun d hd => ?_⟩
    · obtain ⟨spec, hspec, hrole, huri⟩ := (artifactUri_eq_ok c now).mp (h.artifacts a ha)
      exact ⟨spec, hspec, Str.ext hrole.symm, AnyUrl.ext huri.symm⟩
    · obtain ⟨spec, hspec, hrole⟩ := (given_iff hloads hentries).mp (h.digests d hd)
      exact ⟨spec, hspec, Str.ext hrole.symm⟩

omit [UnicodeData] [Pydantic] in
theorem resolveEvents_stage (ref : Option SecretRef) (c : Credentials) :
    ∀ e ∈ resolveEvents P ref c, e.stage = .prepare := by
  cases ref with
  | none => exact fun _ he => absurd he List.not_mem_nil
  | some ref =>
    intro e he
    obtain rfl := List.mem_singleton.mp he
    rfl

omit [Pydantic] in
/-- Nothing `prepare` calls is the backend. -/
theorem PreparedBy.stage {contract : BaseServiceContract P} {prepared : ServiceRunner.Prepared}
    {t : List (Event P)} (h : PreparedBy contract prepared t) : ∀ e ∈ t, e.stage = .prepare := by
  obtain ⟨loads, now, -, -, -, rfl⟩ := h.calls
  intro e he
  simp only [List.mem_append, List.mem_flatMap, List.mem_map, List.mem_singleton] at he
  rcases he with ((⟨x, -, he⟩ | ⟨x, -, he⟩) | ⟨p, -, rfl⟩) | rfl
  · exact resolveEvents_stage _ _ e he
  · exact resolveEvents_stage _ _ e he
  · rfl
  · rfl

variable [JsonText]

/-- **What a run that ends with `ok` asked of its backend**: one call, over the context and the
inputs of the contract, and the gate passed the readout in its result. -/
theorem backend_call_of_ok {r : ServiceRunner σ P} {raw : RawMessage} {s : σ}
    {res : ExecutionResult P} (hmode : r.mode ≠ .receiver)
    (h : (r.execute raw s).result = .ok res) (hstatus : res.status = .ok) :
    ∃ contract now inputs result readout, ∃ loads : List (InputSpec × Bytes),
      res.contract = some contract ∧ loads.map Prod.fst = contract.inputs.toList ∧
      (inputs.byRole.entries = loads.map fun p => (p.1.role.val, p.2)) ∧
      (r.execute raw s).trace.filter (fun e => e.stage = .compute) =
        [.run inputs contract.parameters (ComputeContext.ofContract contract.toContractFields now)
          (.ok result)] ∧
      Steps.validateReadout result
        (ComputeContext.ofContract contract.toContractFields now) = .ok readout := by
  obtain ⟨s₀, contract, s₁, t, hreceive, hserve, htrace, -⟩ :=
    ServiceRunner.served_of_ok hmode h hstatus
  obtain ⟨s₂, t₂, produced, s₃, t₃, hcheck, hproduce, hpublish, htr, -⟩ :=
    ServiceRunner.serve_ok hserve
  obtain ⟨prepared, now, readout, t', hprepared, -, hcontext, hgate, rfl⟩ :=
    (produce_ok hproduce).calls
  obtain ⟨loads, -, hloads, hentries, -, -⟩ := hprepared.calls
  obtain ⟨-, -, -, -, -, -, -, rfl⟩ := publish_ok hpublish
  refine ⟨contract, now, prepared.inputs, produced.result, readout, loads, rfl, hloads, hentries,
    ?_, hcontext ▸ hgate⟩
  have hnone : ∀ {l : List (Event P)} {stage : Stage}, (∀ e ∈ l, e.stage = stage) →
      stage ≠ .compute → l.filter (fun e => e.stage = .compute) = [] := fun hl hne =>
    List.filter_eq_nil_iff.mpr fun e he => by simpa [hl e he] using hne
  have hreceived := r.receive_stage raw s₀
  have hchecked := r.check_stage contract s₁
  rw [hreceive] at hreceived
  rw [hcheck] at hchecked
  rw [htrace, htr, ← hcontext]
  simp only [List.filter_cons, List.filter_append, hnone hreceived nofun, hnone hchecked nofun,
    hnone hprepared.stage nofun, hnone (r.publish_stage contract produced s₃) nofun]
  rfl

/-- **What the readout of a run that ends with `ok` says of the run.** There is one call of the
backend; the readout in its result is valid and has the identity blocks of the contract. Its
artifacts and digests are compared with nothing: they are the run's own files exactly when the
backend took them from the context and the inputs it was handed. -/
theorem names_own_files_iff {r : ServiceRunner σ P} {raw : RawMessage} {s : σ}
    {res : ExecutionResult P} (hmode : r.mode ≠ .receiver)
    (h : (r.execute raw s).result = .ok res) (hstatus : res.status = .ok) :
    ∃ contract inputs context result payload readout, res.contract = some contract ∧
      (r.execute raw s).trace.filter (fun e => e.stage = .compute) =
        [.run inputs contract.parameters context (.ok result)] ∧
      result.byRole.get? readoutOutputRole = some payload ∧
      ModelReadout.validateJson payload = .ok readout ∧
      readout.request = ComputeContext.requestBlock contract.toContractFields ∧
      readout.service = ComputeContext.serviceBlock contract.toContractFields ∧
      (readout.NamesFilesOf contract.toContractFields ↔ readout.TakenFrom context inputs) := by
  obtain ⟨contract, now, inputs, result, readout, loads, hcontract, hloads, hentries, hcall,
      hgate⟩ :=
    backend_call_of_ok hmode h hstatus
  obtain ⟨payload, hpayload, hvalid, hrequest, hservice⟩ := validateReadout_eq_ok.mp hgate
  exact ⟨contract, inputs, _, result, payload, readout, hcontract, hcall, hpayload, hvalid,
    hrequest, hservice, ModelReadout.namesFilesOf_iff hloads hentries⟩

end

/-! ## A readout of its own files, and one of another service's -/

attribute [local instance] UnicodeData.ascii

/-- The files a readout names: the role and the URI of each artifact, the role of each digest. -/
def ModelReadout.named (readout : ModelReadout) : List (String × String) × List String :=
  (readout.artifacts.toList.map fun a => (a.role.val, a.uri.url.text),
    readout.reproducibility.inputDigests.val.toList.map fun d => d.role.val)

/-- The files a document describes, as its fields `artifacts` and `reproducibility` are read. -/
def described [Pydantic] : Json → Option (List (String × String) × List String)
  | .obj o =>
    match field o "artifacts" (items 1 maxServiceOutputs ArtifactDescription.validate),
      field o "reproducibility" Reproducibility.validate with
    | .ok artifacts, .ok reproducibility =>
      some (artifacts.toList.map fun a => (a.role.val, a.uri.url.text),
        reproducibility.inputDigests.val.toList.map fun d => d.role.val)
    | _, _ => none
  | _ => none

/-- An accepted readout names what its document describes. -/
theorem described_eq_named [Pydantic] {payload : Bytes} {document : Json} {readout : ModelReadout}
    (hjson : Pydantic.fromJson payload = some document)
    (h : ModelReadout.validateJson payload = .ok readout) :
    described document = some readout.named := by
  cases document with
  | obj o =>
    obtain ⟨-, -, -, -, -, -, -, hartifacts, -, -, -, -, -, hreproducibility⟩ :=
      ReadoutFields.validate_eq_ok.mp (ModelReadout.fields_of_validateJson hjson h)
    simp only [described, hartifacts, hreproducibility]
    rfl
  | _ =>
    unfold ModelReadout.validateJson at h
    rw [hjson] at h
    exact absurd h nofun

/-- A readout that names files of the contract only. -/
theorem namesFilesOf_of_named {P : Type} {readout : ModelReadout} {c : ContractFields P}
    (hartifacts : readout.named.1 ⊆ c.files.1) (hdigests : readout.named.2 ⊆ c.files.2) :
    readout.NamesFilesOf c := by
  refine ⟨fun a ha => ?_, fun d hd => ?_⟩
  · obtain ⟨spec, hspec, hsame⟩ := List.mem_map.mp (hartifacts (List.mem_map_of_mem ha))
    obtain ⟨hrole, huri⟩ := Prod.mk.inj hsame
    exact ⟨spec, hspec, Str.ext hrole.symm, AnyUrl.ext huri.symm⟩
  · obtain ⟨spec, hspec, hrole⟩ := List.mem_map.mp (hdigests (List.mem_map_of_mem hd))
    exact ⟨spec, hspec, Str.ext hrole.symm⟩

section

attribute [local instance] Sample.widePydantic Sample.jsonText

/-- The files the wide readout describes. -/
theorem wide_described : described Sample.wideReadout =
    some ([("result_json", "gs://gbt-storage-grabatus/user_999/out.json"),
      ("rules_json", "gs://gbt-storage-grabatus/user_999/rules.json")],
      ["timeseries", "rules_json"]) := by decide +kernel

/-- A run whose readout names its own files, which the backend was handed. -/
theorem names_own_files_iff_sample : ∃ res, Sample.wideRun.result = .ok res ∧ res.status = .ok ∧
    ∃ (contract : BaseServiceContract OpaqueParameters) (inputs : LoadedInputs)
      (context : ComputeContext) (readout : ModelReadout), res.contract = some contract ∧
      readout.NamesFilesOf contract.toContractFields ∧ readout.TakenFrom context inputs := by
  obtain ⟨res, hres, hok⟩ := statusOf?_eq_some.mp wide_status
  obtain ⟨contract, inputs, context, -, payload, readout, hcontract, -, -, hvalid, -, -, hiff⟩ :=
    names_own_files_iff (by decide) hres hok
  have hfiles := wide_files
  rw [hres] at hfiles
  have hfiles : some contract.toContractFields.files = _ :=
    (congrArg (Option.map fun c : BaseServiceContract OpaqueParameters =>
      c.toContractFields.files) hcontract).symm.trans hfiles
  have hnamed := (described_eq_named rfl hvalid).symm.trans wide_described
  have hnames : readout.NamesFilesOf contract.toContractFields := by
    refine namesFilesOf_of_named ?_ ?_
    · rw [Option.some.inj hfiles, Option.some.inj hnamed]
      decide
    · rw [Option.some.inj hfiles, Option.some.inj hnamed]
      decide
  exact ⟨res, hres, hok, contract, inputs, context, readout, hcontract, hnames, hiff.mp hnames⟩

end

attribute [local instance] Sample.pydantic Sample.jsonText

/-- The files the readout of the sample describes: another service's artefact. -/
theorem sample_described : described Sample.readout =
    some ([("rules_json", "gs://b/r.json")], ["t"]) := by decide +kernel

/-- A readout that names another service's artefact: the run ends with `ok` all the same. -/
theorem foreign_artifact_passes : ∃ res, Sample.run.result = .ok res ∧ res.status = .ok ∧
    ∃ (contract : BaseServiceContract OpaqueParameters) (inputs : LoadedInputs)
      (context : ComputeContext) (result : ComputeResult) (readout : ModelReadout),
      res.contract = some contract ∧
      .run inputs contract.parameters context (.ok result) ∈ Sample.run.trace ∧
      Steps.validateReadout result context = .ok readout ∧
      ¬ readout.NamesFilesOf contract.toContractFields := by
  obtain ⟨res, hres, hok⟩ := statusOf?_eq_some.mp (Prod.mk.inj sample_run).1
  obtain ⟨contract, now, inputs, result, readout, -, hcontract, -, -, hcall, hgate⟩ :=
    backend_call_of_ok (by decide) hres hok
  refine ⟨res, hres, hok, contract, inputs, _, result, readout, hcontract, ?_, hgate,
    fun hnames => ?_⟩
  · exact (List.mem_filter.mp (hcall ▸ List.mem_singleton.mpr rfl)).1
  · obtain ⟨payload, -, hread, -⟩ := validateReadout_eq_ok.mp hgate
    have houtputs : contract.outputRoles = ["result_json"] := by
      have hroles := (Prod.mk.inj sample_run).2
      rw [hres] at hroles
      simpa only [Except.toOption, Option.bind_some, hcontract, Option.map_some,
        Option.some.injEq] using hroles
    have hnamed := (described_eq_named rfl hread).symm.trans sample_described
    have hforeign : ("rules_json", "gs://b/r.json") ∈ readout.named.1 := by
      rw [Option.some.inj hnamed]
      exact List.mem_singleton_self _
    obtain ⟨a, ha, hsays⟩ := List.mem_map.mp hforeign
    obtain ⟨hrole, -⟩ := Prod.mk.inj hsays
    obtain ⟨spec, hspec, hsame, -⟩ := hnames.artifacts a ha
    have hdeclared : "rules_json" ∈ contract.outputRoles :=
      List.mem_map.mpr ⟨spec, hspec, by rw [← hsame, hrole]⟩
    rw [houtputs] at hdeclared
    exact absurd hdeclared (by decide)

end Grabatus

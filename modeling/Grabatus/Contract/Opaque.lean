import Grabatus.Contract.Base

/-!
# `OpaqueServiceContract`

Over `contract/opaque.py` and `contract/base.py`. The receiver's contract: every section
validated, the parameters any object. What it dumps is what the worker validates again under its
own parameters.

* **The same sections** (`validate_of_accepted`): a document the receiver accepts is a contract over
  `P` iff `P` accepts its `parameters`, and then its sections are the receiver's.
* **After the dump** (`validate_dump_eq_ok`): the dumped contract is a contract over `P` iff `P`
  accepts the same `parameters`, and its sections are the receiver's up to the credentials, each
  of which is what its collapsed URI parses to.
* **So nothing is lost when every credential is `UriSafe`** (`validate_dump_iff`); and whatever is
  read from a dump has only such credentials (`uriSafe_of_validate_dump`).

Out of scope: which nesting the serializer and `json.dumps` take, which are parameters; a dump may
raise.
-/

namespace Grabatus

open Grabatus.Lib Grabatus.Python

/-- Parameters as a free-form mapping. -/
structure OpaqueParameters where
  entries : JsonObject

/-- `OpaqueParameters.model_validate`, with `extra="allow"`. -/
def OpaqueParameters.validate : Json → Validated OpaqueParameters
  | .obj o => .ok ⟨o⟩
  | _ => .fail .modelType

theorem OpaqueParameters.validate_eq_ok {j : Json} {p : OpaqueParameters} :
    OpaqueParameters.validate j = .ok p ↔ j = .obj p.entries := by
  constructor
  · intro h
    cases j with
    | obj o =>
      obtain rfl := Validated.ok.inj h
      rfl
    | _ => exact absurd h (Validated.fail_ne_ok _ _)
  · rintro rfl
    rfl

/-- The contract the shared receiver validates. -/
abbrev OpaqueServiceContract [UnicodeData] := BaseServiceContract OpaqueParameters

variable [UnicodeData] [Pydantic] {P : Type}

/-- The document of a contract in JSON mode, over how the parameters are dumped. -/
def ContractFields.dumpObject (dumpParameters : P → Json) (c : ContractFields P) : JsonObject :=
  [("envelope", c.envelope.dump), ("identity", c.identity.dump),
    ("references", c.references.dump), ("service", c.service.dump),
    ("inputs", .arr (c.inputs.toList.map InputSpec.dump)),
    ("outputs", .arr (c.outputs.toList.map OutputSpec.dump)), ("callback", c.callback.dump),
    ("parameters", dumpParameters c.parameters)]

/-- The document of an `OpaqueServiceContract` in JSON mode. -/
def OpaqueServiceContract.dumpObject (c : OpaqueServiceContract) : JsonObject :=
  c.toContractFields.dumpObject fun p => .obj p.entries

/-- `model_dump(mode="json")` as the serializer performs it: the parameters are dumped, and a
document that it takes for circular is refused. -/
def ContractFields.modelDump (dumpParameters : P → Except PyException Json)
    (c : ContractFields P) : Except PyException JsonObject := do
  let parameters ← dumpParameters c.parameters
  let document := c.dumpObject fun _ => parameters
  match Pydantic.circular (.obj document) with
  | some e => .error e
  | none => .ok document

/-- `contract.model_dump(mode="json")` of an `OpaqueServiceContract`. -/
def OpaqueServiceContract.modelDump (c : OpaqueServiceContract) : Except PyException JsonObject :=
  c.toContractFields.modelDump fun p => .ok (.obj p.entries)

theorem OpaqueServiceContract.modelDump_eq_ok {c : OpaqueServiceContract} {document : JsonObject} :
    c.modelDump = .ok document ↔
      Pydantic.circular (.obj c.dumpObject) = none ∧ document = c.dumpObject := by
  show (match Pydantic.circular (.obj c.dumpObject) with
    | some e => .error e
    | none => .ok c.dumpObject) = Except.ok document ↔ _
  rcases Pydantic.circular (.obj c.dumpObject) with - | e
  · exact ⟨fun h => ⟨rfl, (Except.ok.inj h).symm⟩, fun h => congrArg Except.ok h.2.symm⟩
  · exact ⟨nofun, fun h => absurd h.1 nofun⟩

/-- The leaf values of a contract survive dump and re-validation. -/
structure ContractFields.LeavesSurvive (c : ContractFields P) : Prop where
  envelope : c.envelope.LeavesSurvive
  inputs : ∀ s ∈ c.inputs.toList, s.LeavesSurvive
  outputs : ∀ s ∈ c.outputs.toList, s.LeavesSurvive
  callback : Pydantic.httpUrl (.str c.callback.url.text) = some c.callback.url

instance (c : ContractFields P) : Decidable c.LeavesSurvive :=
  decidable_of_iff (c.envelope.LeavesSurvive ∧ (∀ s ∈ c.inputs.toList, s.LeavesSurvive) ∧
      (∀ s ∈ c.outputs.toList, s.LeavesSurvive) ∧
        Pydantic.httpUrl (.str c.callback.url.text) = some c.callback.url)
    ⟨fun h => ⟨h.1, h.2.1, h.2.2.1, h.2.2.2⟩,
      fun h => ⟨h.envelope, h.inputs, h.outputs, h.callback⟩⟩

/-- A document the receiver accepts, read as a contract over `P`. -/
theorem validate_of_accepted {params : Json → Validated P} {j : Json} {c : OpaqueServiceContract}
    (hc : BaseServiceContract.validate OpaqueParameters.validate j = .ok c)
    {d : BaseServiceContract P} :
    BaseServiceContract.validate params j = .ok d ↔
      params (.obj c.parameters.entries) = .ok d.parameters ∧
        d.toContractFields = c.toContractFields.withParameters d.parameters := by
  obtain ⟨o, rfl, hall, hf⟩ := BaseServiceContract.validate_eq_ok.mp hc
  obtain ⟨he, hi, hr, hs, hin, hout, hcb, hp⟩ := validateFields_eq_ok.mp hf
  obtain ⟨jp, hlookup, hjp⟩ := field_eq_ok.mp hp
  obtain rfl := OpaqueParameters.validate_eq_ok.mp hjp
  rw [BaseServiceContract.validate_eq_ok]
  constructor
  · rintro ⟨_, ⟨rfl⟩, -, hd⟩
    obtain ⟨he', hi', hr', hs', hin', hout', hcb', hp'⟩ := validateFields_eq_ok.mp hd
    obtain ⟨_, hlookup', hd⟩ := field_eq_ok.mp hp'
    rw [hlookup] at hlookup'
    obtain rfl := Option.some.inj hlookup'
    refine ⟨hd, ?_⟩
    rw [he] at he'
    rw [hi] at hi'
    rw [hr] at hr'
    rw [hs] at hs'
    rw [hin] at hin'
    rw [hout] at hout'
    rw [hcb] at hcb'
    rcases d with ⟨⟨_, _, _, _, _, _, _, _⟩, _, _⟩
    simp only [Validated.ok.injEq] at he' hi' hr' hs' hin' hout' hcb'
    simp only [ContractFields.withParameters, he', hi', hr', hs', hin', hout', hcb']
  · rintro ⟨hd, heq⟩
    refine ⟨o, rfl, hall, ?_⟩
    rw [heq]
    exact validateFields_eq_ok.mpr
      ⟨he, hi, hr, hs, hin, hout, hcb, field_eq_ok.mpr ⟨_, hlookup, hd⟩⟩

/-- A list of specs whose sections survive but for the credentials. -/
def ReadBack {S : Type} (credential : S → Option SecretRef)
    (put : S → Option SecretRef → S) (xs ys : List S) : Prop :=
  List.Forall₂ (fun x y => reread (credential x) = .ok (credential y) ∧ y = put x (credential y))
    xs ys

/-- The inputs of a dumped contract, read back. -/
abbrev InputsReadBack (xs ys : List InputSpec) : Prop :=
  ReadBack InputSpec.credentialRef (fun s r => { s with credentialRef := r }) xs ys

/-- The outputs of a dumped contract, read back. -/
abbrev OutputsReadBack (xs ys : List OutputSpec) : Prop :=
  ReadBack OutputSpec.credentialRef (fun s r => { s with credentialRef := r }) xs ys

/-- **What a dumped contract reads back as.** -/
theorem validate_dump_eq_ok {params : Json → Validated P} {c : OpaqueServiceContract}
    (h : c.toContractFields.LeavesSurvive) {d : BaseServiceContract P} :
    BaseServiceContract.validate params (.obj c.dumpObject) = .ok d ↔
      params (.obj c.parameters.entries) = .ok d.parameters ∧
        InputsReadBack c.inputs.toList d.inputs.toList ∧
        OutputsReadBack c.outputs.toList d.outputs.toList ∧
        d.toContractFields =
          { c.toContractFields.withParameters d.parameters with
            inputs := d.inputs, outputs := d.outputs } := by
  have hin : ∀ ys : Items 1 10 InputSpec,
      items 1 10 InputSpec.validate (.arr (c.inputs.toList.map InputSpec.dump)) = .ok ys ↔
        InputsReadBack c.inputs.toList ys.toList := fun ys =>
    items_dump_eq_ok fun s hs s' => InputSpec.validate_dump_eq_ok (h.inputs s hs)
  have hout : ∀ ys : Items 1 (maxServiceOutputs + 1) OutputSpec,
      items 1 (maxServiceOutputs + 1) OutputSpec.validate
          (.arr (c.outputs.toList.map OutputSpec.dump)) = .ok ys ↔
        OutputsReadBack c.outputs.toList ys.toList := fun ys =>
    items_dump_eq_ok fun s hs s' => OutputSpec.validate_dump_eq_ok (h.outputs s hs)
  have hkeys : ∀ e ∈ c.dumpObject, e.1 ∈ contractFieldNames := by
    simp [OpaqueServiceContract.dumpObject, ContractFields.dumpObject, contractFieldNames]
  simp only [BaseServiceContract.validate_eq_ok, Json.obj.injEq, exists_eq_left',
    validateFields_eq_ok]
  simp only [OpaqueServiceContract.dumpObject, ContractFields.dumpObject, field, Dict.lookup,
    String.reduceEq, if_true,
    if_false, Validated.under_eq_ok, Envelope.validate_dump h.envelope, Identity.validate_dump,
    References.validate_dump, ServiceDescriptor.validate_dump, Callback.validate_dump h.callback,
    hin, hout, Validated.ok.injEq]
  constructor
  · rintro ⟨-, he, hi, hr, hs, hI, hO, hcb, hp⟩
    refine ⟨hp, hI, hO, ?_⟩
    rcases d with ⟨⟨_, _, _, _, _, _, _, _⟩, _, _⟩
    simp only at he hi hr hs hcb
    simp only [ContractFields.withParameters, he, hi, hr, hs, hcb]
  · rintro ⟨hp, hI, hO, hd⟩
    rw [hd]
    exact ⟨hkeys, rfl, rfl, rfl, rfl, hI, hO, rfl, hp⟩

/-! ## The credentials of a dump -/

omit [Pydantic] in
/-- The credentials of a contract, the inputs' first. -/
def ContractFields.credentials (c : ContractFields P) : List SecretRef :=
  c.inputs.toList.filterMap InputSpec.credentialRef ++
    c.outputs.toList.filterMap OutputSpec.credentialRef

omit [Pydantic] in
theorem ContractFields.mem_credentials {c : ContractFields P} {ref : SecretRef} :
    ref ∈ c.credentials ↔ (∃ s ∈ c.inputs.toList, s.credentialRef = some ref) ∨
      ∃ s ∈ c.outputs.toList, s.credentialRef = some ref := by
  simp [credentials]

omit [Pydantic] in
/-- What a collapsed credential reads back as is safe. -/
theorem reread_uriSafe {ref ref' : Option SecretRef} (h : reread ref = .ok ref') :
    ∀ r ∈ ref', r.UriSafe := by
  rintro r ⟨⟩
  rcases ref with - | r₀
  · exact nomatch h
  · exact SecretRef.uriSafe_of_validate (nullable_eq_some h)

section

variable {S : Type} {credential : S → Option SecretRef} {put : S → Option SecretRef → S}
  {xs ys : List S}

omit [Pydantic] in
theorem ReadBack.uriSafe (h : ReadBack credential put xs ys) :
    ∀ y ∈ ys, ∀ r ∈ credential y, r.UriSafe := by
  induction h with
  | nil => exact fun y hy => absurd hy List.not_mem_nil
  | cons hxy _ ih =>
    intro y hy
    rcases List.mem_cons.mp hy with rfl | hy
    · exact reread_uriSafe hxy.1
    · exact ih y hy

omit [Pydantic] in
/-- What does not look at the credential reads back. -/
theorem ReadBack.map_eq {α : Type} {f : S → α} (h : ReadBack credential put xs ys)
    (hput : ∀ x ref, f (put x ref) = f x) : ys.map f = xs.map f := by
  induction h with
  | nil => rfl
  | cons hxy _ ih =>
    rw [List.map_cons, List.map_cons, ih, hxy.2, hput]

omit [Pydantic] in
/-- Specs with safe credentials read back as they are. -/
theorem readBack_iff_eq (hput : ∀ x, put x (credential x) = x)
    (hsafe : ∀ x ∈ xs, ∀ r ∈ credential x, r.UriSafe) :
    ReadBack credential put xs ys ↔ xs = ys := by
  rw [← List.forall₂_eq_eq_eq]
  refine forall₂_congr_of_mem fun x hx y => ?_
  have hself := reread_eq_ok_self.mpr (hsafe x hx)
  constructor
  · rintro ⟨hread, hy⟩
    rw [← Validated.ok.inj (hself.symm.trans hread), hput] at hy
    exact hy.symm
  · rintro rfl
    exact ⟨hself, (hput x).symm⟩

end

/-- The credentials read from a dump are safe. -/
theorem uriSafe_of_validate_dump {params : Json → Validated P} {c : OpaqueServiceContract}
    (h : c.toContractFields.LeavesSurvive) {d : BaseServiceContract P}
    (hd : BaseServiceContract.validate params (.obj c.dumpObject) = .ok d) :
    ∀ ref ∈ d.credentials, ref.UriSafe := by
  obtain ⟨-, hin, hout, -⟩ := (validate_dump_eq_ok h).mp hd
  intro ref href
  rcases ContractFields.mem_credentials.mp href with ⟨s, hs, hr⟩ | ⟨s, hs, hr⟩
  · exact hin.uriSafe s hs ref hr
  · exact hout.uriSafe s hs ref hr

/-- The version and the output roles read from a dump are the contract's. -/
theorem roles_of_validate_dump {params : Json → Validated P} {c : OpaqueServiceContract}
    (h : c.toContractFields.LeavesSurvive) {d : BaseServiceContract P}
    (hd : BaseServiceContract.validate params (.obj c.dumpObject) = .ok d) :
    d.envelope = c.envelope ∧ d.outputRoles = c.outputRoles := by
  obtain ⟨-, -, hout, hfields⟩ := (validate_dump_eq_ok h).mp hd
  exact ⟨congrArg ContractFields.envelope hfields, hout.map_eq fun _ _ => rfl⟩

/-- The identity and the URIs read from a dump are the contract's. -/
theorem uris_of_validate_dump {params : Json → Validated P} {c : OpaqueServiceContract}
    (h : c.toContractFields.LeavesSurvive) {d : BaseServiceContract P}
    (hd : BaseServiceContract.validate params (.obj c.dumpObject) = .ok d) :
    d.identity = c.identity ∧
      (d.inputs.toList.map fun s => s.sourceUri.text) =
          (c.inputs.toList.map fun s => s.sourceUri.text) ∧
        (d.outputs.toList.map fun s => s.destinationUri.text) =
          (c.outputs.toList.map fun s => s.destinationUri.text) := by
  obtain ⟨-, hin, hout, hfields⟩ := (validate_dump_eq_ok h).mp hd
  exact ⟨congrArg ContractFields.identity hfields, hin.map_eq fun _ _ => rfl,
    hout.map_eq fun _ _ => rfl⟩

/-- **A document and the dump of its contract are read alike**, over any parameters, when the
credentials are safe. -/
theorem validate_dump_iff {params : Json → Validated P} {j : Json} {c : OpaqueServiceContract}
    (hc : BaseServiceContract.validate OpaqueParameters.validate j = .ok c)
    (h : c.toContractFields.LeavesSurvive) (hsafe : ∀ ref ∈ c.credentials, ref.UriSafe)
    {d : BaseServiceContract P} :
    BaseServiceContract.validate params (.obj c.dumpObject) = .ok d ↔
      BaseServiceContract.validate params j = .ok d := by
  have hin : ∀ ys, InputsReadBack c.inputs.toList ys ↔ c.inputs.toList = ys := fun ys =>
    readBack_iff_eq (fun _ => rfl) fun s hs ref hr =>
      hsafe ref (ContractFields.mem_credentials.mpr (.inl ⟨s, hs, hr⟩))
  have hout : ∀ ys, OutputsReadBack c.outputs.toList ys ↔ c.outputs.toList = ys := fun ys =>
    readBack_iff_eq (fun _ => rfl) fun s hs ref hr =>
      hsafe ref (ContractFields.mem_credentials.mpr (.inr ⟨s, hs, hr⟩))
  rw [validate_dump_eq_ok h, validate_of_accepted hc, hin, hout]
  refine and_congr_right fun _ => ⟨?_, fun hd => ?_⟩
  · rintro ⟨hin, hout, hd⟩
    rw [hd, Items.ext hin.symm, Items.ext hout.symm]
    rfl
  · rw [hd]
    exact ⟨rfl, rfl, rfl⟩

end Grabatus

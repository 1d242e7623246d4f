import Grabatus.Runner.Order
import Grabatus.Security.TenantPrefixPolicy
import Grabatus.Testing.Fakes

/-!
# The artifacts block of a run

Over `runner/runner.py`, `ports/compute_context.py` and `contract/readout/`. A readout names every
artefact of the run, and a service that is honest takes role, format and URI from the contract:
the URI is where `ComputeContext.artifact_uri` says the runner will write it. The contract and the
readout are two schemas, and a contract the runner lets through need not leave an honest block
that the readout accepts.

**The readout accepts it exactly when the protocol is 1.1 or the contract declares at most ten
outputs, and every service output goes to `gs` under a URI of at most 2048 bytes**
(`honest_artifacts_iff`): `s3` is missing from the artifact schemes, and neither the number of
outputs under protocol 1.0 nor the length of a destination is bounded by what a readout can hold.

Out of scope: the description and the fields of an artefact, which are the service's own.
-/

namespace Grabatus

open Grabatus.Lib Grabatus.Lib.Text Grabatus.Python

section

variable [UnicodeData] {σ P : Type}

/-! ## The honest block -/

/-- The declared outputs but the readout. -/
def ContractFields.serviceOutputs (c : ContractFields P) : List OutputSpec :=
  c.outputs.toList.filter fun s => s.role.val ≠ readoutOutputRole

/-- The honest description of an output; the description and the fields are the service's own. -/
def honestArtifact (context : ComputeContext) (description fields : OutputSpec → Json)
    (spec : OutputSpec) : Except PyException Json := do
  let uri ← context.artifactUri spec.role.val
  return .obj [("role", .str spec.role.val), ("uri", .str uri), ("format", .str spec.format.name),
    ("description", description spec), ("fields", fields spec)]

/-- The honest artifacts block of a contract. -/
def honestArtifacts (c : ContractFields P) (context : ComputeContext)
    (description fields : OutputSpec → Json) : Except PyException (List Json) :=
  c.serviceOutputs.mapM (honestArtifact context description fields)

/-- What a `ModelReadout` asks of its artifacts. -/
def ArtifactsAccepted [Pydantic] (docs : List Json) : Prop :=
  ∃ artifacts, items 1 maxServiceOutputs ArtifactDescription.validate (.arr docs) = .ok artifacts ∧
    duplicated (artifacts.toList.map fun a => a.role.val) = []

/-- An output whose URI a readout can name. -/
def OutputSpec.FitsReadout (spec : OutputSpec) : Prop :=
  spec.destinationUri.scheme ∈ allowedArtifactSchemes ∧
    spec.destinationUri.text.utf8ByteSize ≤ maxUriLength

/-- The document of an output, with the URI of its spec. -/
def artifactDocument (description fields : OutputSpec → Json) (spec : OutputSpec) : Json :=
  .obj [("role", .str spec.role.val), ("uri", .str spec.destinationUri.text),
    ("format", .str spec.format.name), ("description", description spec),
    ("fields", fields spec)]

omit [UnicodeData] in
theorem mapM_eq_ok {α β ε : Type} {f : α → Except ε β} {g : α → β} :
    ∀ {xs : List α}, (∀ x ∈ xs, f x = .ok (g x)) → xs.mapM f = .ok (xs.map g)
  | [], _ => rfl
  | x :: xs, h => by
    rw [List.mapM_cons, h x List.mem_cons_self,
      mapM_eq_ok fun y hy => h y (List.mem_cons_of_mem x hy)]
    rfl

/-- The URI a backend is told for a declared output is the one the runner writes to. -/
theorem artifactUri_ofContract (contract : BaseServiceContract P) (now : Datetime)
    {spec : OutputSpec} (h : spec ∈ contract.outputs.toList) :
    (ComputeContext.ofContract contract.toContractFields now).artifactUri spec.role.val =
      .ok spec.destinationUri.text := by
  have hnodup : ((contract.outputs.toList.map fun s => (s.role.val, s.destinationUri.text)).map
      fun p => id p.1).Nodup := by
    rw [List.map_map]
    exact contract.outputRoles_nodup
  have hget := Dict.get?_fill_of_mem hnodup
    (List.mem_map_of_mem (f := fun s => (s.role.val, s.destinationUri.text)) h)
  unfold ComputeContext.artifactUri ComputeContext.ofContract
  simp only [id_eq] at hget
  rw [hget]

/-- **The honest block of a contract** is one document per service output, with its own URI. -/
theorem honestArtifacts_ofContract (contract : BaseServiceContract P) (now : Datetime)
    (description fields : OutputSpec → Json) :
    honestArtifacts contract.toContractFields
        (ComputeContext.ofContract contract.toContractFields now) description fields =
      .ok (contract.serviceOutputs.map (artifactDocument description fields)) := by
  refine mapM_eq_ok fun spec hspec => ?_
  unfold honestArtifact
  rw [artifactUri_ofContract contract now (List.mem_filter.mp hspec).1]
  rfl

/-! ## What a readout takes -/

section

variable [Pydantic]

omit [UnicodeData] in
/-- A URI that reads back as itself is taken exactly when it fits. -/
theorem artifactUri_validates {u : AnyUrl} (h : Pydantic.anyUrl (.str u.text) = some u) :
    (∃ uri, ArtifactUri.validate (.str u.text) = .ok uri) ↔
      u.scheme ∈ allowedArtifactSchemes ∧ u.text.utf8ByteSize ≤ maxUriLength := by
  unfold ArtifactUri.validate
  dsimp only
  by_cases hlong : maxUriLength < u.text.utf8ByteSize
  · rw [if_pos hlong]
    constructor
    · rintro ⟨_, hu⟩
      exact absurd hu (Validated.fail_ne_ok _ _)
    · intro hu
      omega
  · have hleaf : leaf "url" Pydantic.anyUrl (.str u.text) = .ok u := by simp [leaf, h]
    rw [if_neg hlong, hleaf]
    by_cases hscheme : u.scheme ∈ allowedArtifactSchemes
    · simp only [Validated.andThen, dif_pos hscheme]
      exact ⟨fun _ => ⟨hscheme, Nat.not_lt.mp hlong⟩, fun _ => ⟨_, rfl⟩⟩
    · simp only [Validated.andThen, dif_neg hscheme]
      constructor
      · rintro ⟨_, hu⟩
        exact absurd hu (Validated.fail_ne_ok _ _)
      · exact fun hu => absurd hu.1 hscheme

/-- What a service says of an output is valid in itself. -/
structure Described (description fields : OutputSpec → Json) (spec : OutputSpec) : Prop where
  description : ∃ d : Text 500, str _ (description spec) = .ok d
  fields : ∃ fs, items 1 100 FieldDescription.validate (fields spec) = .ok fs

omit [UnicodeData] in
/-- The document of an output is taken exactly when its URI fits, and then keeps its role. -/
theorem artifactDocument_validates {description fields : OutputSpec → Json} {spec : OutputSpec}
    (hdescribed : Described description fields spec)
    (h : Pydantic.anyUrl (.str spec.destinationUri.text) = some spec.destinationUri) :
    ((∃ a, ArtifactDescription.validate (artifactDocument description fields spec) = .ok a) ↔
      spec.FitsReadout) ∧
    ∀ a, ArtifactDescription.validate (artifactDocument description fields spec) = .ok a →
      a.role = spec.role := by
  obtain ⟨⟨d, hd⟩, fs, hfs⟩ := hdescribed
  have hvalidate : ∀ a, ArtifactDescription.validate (artifactDocument description fields spec) =
      .ok a ↔ ∃ uri, ArtifactUri.validate (.str spec.destinationUri.text) = .ok uri ∧
        a = ⟨spec.role, uri, spec.format, d, fs⟩ := by
    intro a
    unfold ArtifactDescription.validate artifactDocument
    simp [model_eq_ok, field, Dict.lookup, hd, hfs,
      Undoes.literal DataFormat.lookup_name spec.format]
    constructor
    · rintro ⟨⟨uri, huri, rfl⟩, -⟩
      exact ⟨uri, huri, rfl⟩
    · rintro ⟨uri, huri, rfl⟩
      refine ⟨⟨uri, huri, rfl⟩, fun k j hk => ?_⟩
      rcases hk with ⟨rfl, -⟩ | ⟨rfl, -⟩ | ⟨rfl, -⟩ | ⟨rfl, -⟩ | ⟨rfl, -⟩ <;> simp
  constructor
  · unfold OutputSpec.FitsReadout
    rw [← artifactUri_validates h]
    constructor
    · rintro ⟨a, ha⟩
      obtain ⟨uri, huri, -⟩ := (hvalidate a).mp ha
      exact ⟨uri, huri⟩
    · rintro ⟨uri, huri⟩
      exact ⟨_, (hvalidate _).mpr ⟨uri, huri, rfl⟩⟩
  · intro a ha
    obtain ⟨uri, -, rfl⟩ := (hvalidate a).mp ha
    rfl

omit [UnicodeData] [Pydantic] in
theorem exists_forall₂_iff {α β : Type} {R : α → β → Prop} :
    ∀ {xs : List α}, (∃ ys, List.Forall₂ R xs ys) ↔ ∀ x ∈ xs, ∃ y, R x y
  | [] => by simp
  | x :: xs => by
    rw [List.forall_mem_cons, ← exists_forall₂_iff]
    constructor
    · rintro ⟨_, hall⟩
      obtain ⟨y, ys, hy, hys, -⟩ := List.forall₂_cons_left_iff.mp hall
      exact ⟨⟨y, hy⟩, ys, hys⟩
    · rintro ⟨⟨y, hy⟩, ys, hys⟩
      exact ⟨y :: ys, .cons hy hys⟩

omit [UnicodeData] in
/-- **What makes the honest block acceptable**: as many outputs as a readout holds, each with a URI
that fits. The roles are those of the contract, so they are distinct. -/
theorem artifactsAccepted_iff {description fields : OutputSpec → Json} {specs : List OutputSpec}
    (hdescribed : ∀ spec ∈ specs, Described description fields spec)
    (hurls : ∀ spec ∈ specs,
      Pydantic.anyUrl (.str spec.destinationUri.text) = some spec.destinationUri)
    (hnodup : (specs.map fun s => s.role.val).Nodup) :
    ArtifactsAccepted (specs.map (artifactDocument description fields)) ↔
      (1 ≤ specs.length ∧ specs.length ≤ maxServiceOutputs) ∧
        ∀ spec ∈ specs, spec.FitsReadout := by
  have hone : ∀ spec ∈ specs, _ := fun spec hspec =>
    artifactDocument_validates (hdescribed spec hspec) (hurls spec hspec)
  constructor
  · rintro ⟨artifacts, hitems, -⟩
    obtain ⟨docs, hdocs, hall⟩ := items_eq_ok.mp hitems
    obtain rfl := Json.arr.inj hdocs
    rw [List.forall₂_map_left_iff] at hall
    have hlength := hall.length_eq
    refine ⟨⟨hlength ▸ artifacts.lo_le, hlength ▸ artifacts.le_hi⟩, fun spec hspec => ?_⟩
    exact (hone spec hspec).1.mp (exists_forall₂_iff.mp ⟨_, hall⟩ spec hspec)
  · rintro ⟨⟨hlo, hhi⟩, hfits⟩
    obtain ⟨artifacts, hall⟩ :=
      exists_forall₂_iff.mpr fun spec hspec => (hone spec hspec).1.mpr (hfits spec hspec)
    have hlength := hall.length_eq
    refine ⟨⟨artifacts, hlength ▸ hlo, hlength ▸ hhi⟩,
      items_eq_ok.mpr ⟨_, rfl, List.forall₂_map_left_iff.mpr hall⟩, duplicated_eq_nil.mpr ?_⟩
    have hroles : List.Forall₂ (fun spec a => spec.role.val = a.role.val) specs artifacts :=
      ((List.forall₂_and_left _ _).mpr ⟨hone, hall⟩).imp
        fun _ _ h => (congrArg Str.val (h.1.2 _ h.2)).symm
    have hmap := List.forall₂_map_left_iff.mpr (List.forall₂_map_right_iff.mpr hroles)
    rw [List.forall₂_eq_eq_eq] at hmap
    rw [← hmap]
    exact hnodup

end

/-! ## What the runner lets through -/

omit [UnicodeData] in
/-- The artifact schemes are schemes, in lower case. -/
theorem allowedArtifactSchemes_lower : ∀ name ∈ allowedArtifactSchemes,
    isScheme name.toList = true ∧ name.toList.map Char.toLower = name.toList ∧
      name.toList.all isAscii = true := by decide

/-- Where `gs` and `s3` are all a URI may be, the artifact schemes leave `gs`. -/
theorem scheme_eq_gs_iff {u : AnyUrl} {a : SchemeAllowlist} (ha : a.allowed ⊆ {"gs", "s3"})
    (h : a.check u.text = .ok ()) : u.scheme ∈ allowedArtifactSchemes ↔ u.scheme = "gs" := by
  constructor
  · intro hmem
    obtain ⟨p, hp, hscheme⟩ := SchemeAllowlist.check_eq_ok.mp h
    obtain ⟨hvalid, hmap, hascii⟩ := allowedArtifactSchemes_lower u.scheme hmem
    have hcut : (cut ':' u.text.toList).1 = u.scheme.toList := by
      rw [AnyUrl.scheme, String.toList_ofList]
    have hlower := scheme_of_parseUri hp (hcut ▸ hvalid)
    rw [hcut, hmap, String.ofList_toList, lower, if_pos hascii, hmap,
      String.ofList_toList] at hlower
    have hbucket := ha (hlower ▸ hscheme)
    rw [Finset.mem_insert, Finset.mem_singleton] at hbucket
    rcases hbucket with hgs | hs3
    · exact hgs
    · rw [hs3] at hmem
      exact absurd hmem (by decide)
  · intro hgs
    rw [hgs]
    decide

/-- The outputs a contract declares are those of the backend, and the readout under 1.1. -/
theorem outputRoles_of_checkRoleCompatibility {r : ServiceRunner σ P}
    {contract : BaseServiceContract P} (h : r.checkRoleCompatibility contract = .ok ()) :
    contract.outputRoles.toFinset = r.expectedOutputRoles contract := by
  unfold ServiceRunner.checkRoleCompatibility at h
  simp only at h
  split at h
  · exact absurd h nofun
  · split at h
    · exact absurd h nofun
    · split at h
      · exact absurd h nofun
      · rename_i heq
        exact not_not.mp heq

/-- A backend with an output of its own leaves the readout something to describe; and there is
room for all of it under protocol 1.1, or where ten outputs are declared at most. -/
theorem serviceOutputs_length {r : ServiceRunner σ P} {contract : BaseServiceContract P}
    (hbackend : r.compute.outputRoles.Nonempty) (hown : readoutOutputRole ∉ r.compute.outputRoles)
    (h : r.checkRoleCompatibility contract = .ok ()) :
    1 ≤ contract.serviceOutputs.length ∧
      (contract.serviceOutputs.length ≤ maxServiceOutputs ↔
        contract.envelope.protocolVersion = readoutProtocolVersion ∨
          contract.outputs.toList.length ≤ maxServiceOutputs) := by
  have hroles := outputRoles_of_checkRoleCompatibility h
  unfold ServiceRunner.expectedOutputRoles at hroles
  have hdeclared : ∀ role, (∃ spec ∈ contract.outputs.toList, spec.role.val = role) ↔
      role ∈ contract.outputRoles.toFinset := by
    intro role
    rw [List.mem_toFinset]
    exact List.mem_map.symm
  constructor
  · obtain ⟨role, hrole⟩ := hbackend
    have hne : role ≠ readoutOutputRole := fun heq => hown (heq ▸ hrole)
    obtain ⟨spec, hspec, rfl⟩ := (hdeclared role).mpr (by
      rw [hroles]
      split
      · exact hrole
      · exact Finset.mem_insert_of_mem hrole)
    exact List.length_pos_of_mem (List.mem_filter.mpr ⟨hspec, by simpa using hne⟩)
  · by_cases hversion : contract.envelope.protocolVersion = readoutProtocolVersion
    · rw [if_neg (not_not.mpr hversion)] at hroles
      obtain ⟨spec, hspec, hrole⟩ := (hdeclared readoutOutputRole).mpr (by
        rw [hroles]
        exact Finset.mem_insert_self _ _)
      have hless : contract.serviceOutputs.length < contract.outputs.toList.length :=
        List.length_filter_lt_length_iff_exists.mpr ⟨spec, hspec, by simp [hrole]⟩
      have hhi := contract.outputs.le_hi
      exact ⟨fun _ => .inl hversion, fun _ => by omega⟩
    · rw [if_pos hversion] at hroles
      have hall : contract.serviceOutputs = contract.outputs.toList := by
        refine List.filter_eq_self.mpr fun spec hspec => ?_
        have hmem := (hdeclared spec.role.val).mp ⟨spec, hspec, rfl⟩
        rw [hroles] at hmem
        exact decide_eq_true fun heq => hown (heq ▸ hmem)
      rw [hall]
      exact ⟨.inr, fun hor => hor.resolve_left hversion⟩

/-- **For a contract the runner lets through, the honest block is accepted exactly when there is
room for every output and each goes to `gs` under a URI that is not too long.** -/
theorem honest_artifacts_iff [Pydantic] {r : ServiceRunner σ P} {contract : BaseServiceContract P}
    {s : σ} (hbackend : r.compute.outputRoles.Nonempty)
    (hown : readoutOutputRole ∉ r.compute.outputRoles)
    (hallowed : r.schemeAllowlist.allowed ⊆ {"gs", "s3"})
    (hcheck : (r.check contract s).result = .ok ()) (now : Datetime)
    {description fields : OutputSpec → Json}
    (hdescribed : ∀ spec ∈ contract.serviceOutputs, Described description fields spec)
    (hurls : ∀ spec ∈ contract.serviceOutputs,
      Pydantic.anyUrl (.str spec.destinationUri.text) = some spec.destinationUri) :
    ∃ docs, honestArtifacts contract.toContractFields
        (ComputeContext.ofContract contract.toContractFields now) description fields = .ok docs ∧
      (ArtifactsAccepted docs ↔
        (contract.envelope.protocolVersion = readoutProtocolVersion ∨
          contract.outputs.toList.length ≤ maxServiceOutputs) ∧
        ∀ spec ∈ contract.serviceOutputs, spec.destinationUri.scheme = "gs" ∧
          spec.destinationUri.text.utf8ByteSize ≤ maxUriLength) := by
  obtain ⟨hroles, -, houtputs⟩ := check_ok hcheck
  refine ⟨_, honestArtifacts_ofContract contract now description fields, ?_⟩
  have hnodup : (contract.serviceOutputs.map fun s => s.role.val).Nodup :=
    contract.outputRoles_nodup.sublist (List.filter_sublist.map _)
  obtain ⟨hlo, hhi⟩ := serviceOutputs_length hbackend hown hroles
  rw [artifactsAccepted_iff hdescribed hurls hnodup, hhi, and_iff_right hlo]
  refine and_congr_right' (forall₂_congr fun spec hspec => and_congr_left' ?_)
  exact scheme_eq_gs_iff hallowed (houtputs spec (List.mem_filter.mp hspec).1).1

end

end Grabatus

/-! ## Contracts that are let through: two outputs to one object, and an output to `s3` -/

namespace Grabatus

open Grabatus.Lib Grabatus.Python

/-- `TenantPrefixPolicy` as a port. -/
def TenantPrefixPolicy.port [UnicodeData] (σ : Type) (policy : TenantPrefixPolicy) :
    UriAuthorizationPort σ where
  authorize uri identity := Op.ofExcept (policy.authorize uri identity)

attribute [local instance] UnicodeData.ascii Sample.pydantic Sample.jsonText

namespace Sample

/-- The sample runner over a backend of these roles, under the default policy and with both bucket
schemes allowed. -/
def gated (outputRoles : Finset String) : ServiceRunner FakeWorld OpaqueParameters :=
  { fakeRunner ⟨fun _ => pure contract⟩ (TenantPrefixPolicy.port _ ⟨"gbt-storage", true⟩)
      Dict.empty { backend outputs true with outputRoles } now .monolith with
    schemeAllowlist := ⟨{"gs", "s3"}⟩ }

/-- The protocol version and the destinations of the service outputs of a document that the runner
lets through. -/
def letThrough (outputRoles : Finset String) (doc : JsonObject) :
    Option (ProtocolVersion × List String) :=
  match BaseServiceContract.validate OpaqueParameters.validate (.obj doc) with
  | .ok contract =>
    if ((gated outputRoles).check contract world).result.toOption = some () ∧
        ∀ spec ∈ contract.serviceOutputs,
          Pydantic.anyUrl (.str spec.destinationUri.text) = some spec.destinationUri then
      some (contract.envelope.protocolVersion,
        contract.serviceOutputs.map fun spec => spec.destinationUri.text)
    else none
  | .errors _ => none

/-- A contract that is let through: what its document says. -/
structure LetThrough (outputRoles : Finset String) (doc : JsonObject)
    (version : ProtocolVersion) (destinations : List String)
    (contract : BaseServiceContract OpaqueParameters) : Prop where
  validate : BaseServiceContract.validate OpaqueParameters.validate (.obj doc) = .ok contract
  check : ((gated outputRoles).check contract world).result = .ok ()
  urls : ∀ spec ∈ contract.serviceOutputs,
    Pydantic.anyUrl (.str spec.destinationUri.text) = some spec.destinationUri
  version : contract.envelope.protocolVersion = version
  destinations : contract.serviceOutputs.map (fun spec => spec.destinationUri.text) = destinations

theorem letThrough_eq_some {outputRoles : Finset String} {doc : JsonObject}
    {version : ProtocolVersion} {destinations : List String}
    (h : letThrough outputRoles doc = some (version, destinations)) :
    ∃ contract, LetThrough outputRoles doc version destinations contract := by
  unfold letThrough at h
  rcases hvalidate : BaseServiceContract.validate OpaqueParameters.validate (.obj doc) with
    contract | es
  · rw [hvalidate] at h
    dsimp only at h
    split at h
    · rename_i hpass
      obtain ⟨hversion, hdestinations⟩ := Prod.mk.inj (Option.some.inj h)
      refine ⟨contract, hvalidate, ?_, hpass.2, hversion, hdestinations⟩
      rcases hresult : ((gated outputRoles).check contract world).result with e | ⟨⟩
      · rw [hresult] at hpass
        exact absurd hpass.1 nofun
      · rfl
    · exact absurd h nofun
  · rw [hvalidate] at h
    exact absurd h nofun

/-- A contract of protocol 1.1 with three service outputs, the last two to one object. -/
def sharedContract : JsonObject :=
  makeContract "1.1" [input .null]
    [output, makeOutputSpec "table" "gs://gbt-storage-grabatus/user_999/table.json",
      makeOutputSpec "copy" "gs://gbt-storage-grabatus/user_999/table.json",
      makeOutputSpec readoutOutputRole "gs://gbt-storage-grabatus/user_999/readout.json"]

/-- The roles of its service outputs. -/
def sharedRoles : Finset String := {"result_json", "table", "copy"}

/-- The contract of the factories, with a second output to `s3`. -/
def s3Contract : JsonObject :=
  makeContract "1.0" [input .null]
    [output, makeOutputSpec "table" "s3://gbt-storage-grabatus/user_999/table.json"]

theorem letThrough_sharedContract : letThrough sharedRoles sharedContract =
    some (.v1_1, ["gs://gbt-storage-grabatus/user_999/out.json",
      "gs://gbt-storage-grabatus/user_999/table.json",
      "gs://gbt-storage-grabatus/user_999/table.json"]) := by decide +kernel

theorem letThrough_s3Contract : letThrough {"result_json", "table"} s3Contract =
    some (.v1_0, ["gs://gbt-storage-grabatus/user_999/out.json",
      "s3://gbt-storage-grabatus/user_999/table.json"]) := by decide +kernel

/-- A description. -/
def description (_ : OutputSpec) : Json := .str "d"

/-- One field. -/
def fields (_ : OutputSpec) : Json :=
  .arr [.obj [("name", .str "n"), ("type", .str "number"), ("meaning", .str "m"),
    ("read_as", .str "r")]]

theorem described (spec : OutputSpec) : Described description fields spec where
  description := ⟨⟨"d", by decide⟩, str_eq_ok.mpr rfl⟩
  fields := Validated.isOk_iff.mp <|
    show (items 1 100 FieldDescription.validate (.arr [.obj [("name", .str "n"),
      ("type", .str "number"), ("meaning", .str "m"), ("read_as", .str "r")]])).isOk = true by
      decide +kernel

/-- The honest block of a contract. -/
def honestBlock (contract : BaseServiceContract OpaqueParameters) :
    Except PyException (List Json) :=
  honestArtifacts contract.toContractFields
    (ComputeContext.ofContract contract.toContractFields now) description fields

end Sample

/-- A contract with an output to `s3` is let through, and its honest block is refused. -/
theorem honest_artifacts_refused :
    ∃ (contract : BaseServiceContract OpaqueParameters) (docs : List Json),
      BaseServiceContract.validate OpaqueParameters.validate (.obj Sample.s3Contract) =
          .ok contract ∧
        ((Sample.gated {"result_json", "table"}).check contract Sample.world).result = .ok () ∧
        Sample.honestBlock contract = .ok docs ∧ ¬ ArtifactsAccepted docs := by
  obtain ⟨contract, h⟩ := Sample.letThrough_eq_some Sample.letThrough_s3Contract
  refine ⟨contract, _, h.validate, h.check, honestArtifacts_ofContract contract _ _ _, ?_⟩
  intro haccepted
  have hnodup : (contract.serviceOutputs.map fun s => s.role.val).Nodup :=
    contract.outputRoles_nodup.sublist (List.filter_sublist.map _)
  have hfits := ((artifactsAccepted_iff (fun spec _ => Sample.described spec) h.urls
    hnodup).mp haccepted).2
  have hs3 : "s3://gbt-storage-grabatus/user_999/table.json" ∈
      contract.serviceOutputs.map fun spec => spec.destinationUri.text := by
    rw [h.destinations]
    decide
  obtain ⟨spec, hspec, htext⟩ := List.mem_map.mp hs3
  have hallowed := (hfits spec hspec).1
  unfold AnyUrl.scheme at hallowed
  rw [htext] at hallowed
  exact absurd hallowed (by decide)

/-- Three artefacts, two of them of one object: the honest block is accepted. -/
theorem honest_artifacts_iff_sample :
    ∃ (contract : BaseServiceContract OpaqueParameters) (docs : List Json),
      BaseServiceContract.validate OpaqueParameters.validate (.obj Sample.sharedContract) =
          .ok contract ∧
        Sample.honestBlock contract = .ok docs ∧ docs.length = 3 ∧ ArtifactsAccepted docs := by
  obtain ⟨contract, h⟩ := Sample.letThrough_eq_some Sample.letThrough_sharedContract
  obtain ⟨docs, hdocs, hiff⟩ := honest_artifacts_iff (r := Sample.gated Sample.sharedRoles)
    ⟨"result_json", by decide⟩ (by decide) (Finset.Subset.refl _) h.check Sample.now
    (fun spec _ => Sample.described spec) h.urls
  refine ⟨contract, docs, h.validate, hdocs, ?_, hiff.mpr ⟨.inl h.version, fun spec hspec => ?_⟩⟩
  · rw [honestArtifacts_ofContract] at hdocs
    obtain rfl := Except.ok.inj hdocs
    rw [List.length_map, ← List.length_map fun spec => spec.destinationUri.text, h.destinations]
    rfl
  · have htext : spec.destinationUri.text ∈ ["gs://gbt-storage-grabatus/user_999/out.json",
        "gs://gbt-storage-grabatus/user_999/table.json",
        "gs://gbt-storage-grabatus/user_999/table.json"] :=
      h.destinations ▸ List.mem_map_of_mem hspec
    have hgs : ∀ text ∈ ["gs://gbt-storage-grabatus/user_999/out.json",
        "gs://gbt-storage-grabatus/user_999/table.json",
        "gs://gbt-storage-grabatus/user_999/table.json"],
        String.ofList (Text.cut ':' text.toList).1 = "gs" ∧
          text.utf8ByteSize ≤ maxUriLength := by decide
    exact hgs _ htext

end Grabatus

import Grabatus.Adapters.StorageCompressed
import Grabatus.Lib.Store
import Grabatus.Runner.Success

/-!
# What the store holds after a run

Over `save_outputs` (`runner/steps.py`) and `adapters/storage_compressed.py`. A store is seen
through the objects under its URIs. Where a write replaces the object under its URI, with what the
codec makes of the payload when the store is wrapped, the writes of a run fold into one list of
replacements (`saveOutputs_objects`), so **a run that ends with `ok` leaves every output where it
was delivered exactly when outputs with one URI have one encoded payload** (`outputs_intact_iff`).
A contract's roles are distinct, its destinations need not be.
-/

namespace Grabatus

open Grabatus.Lib Grabatus.Python

section

variable [UnicodeData] {σ P : Type}

/-- What a store holds under a URI. -/
abbrev Objects (σ : Type) : Type := σ → String → Option Bytes

/-- A write that returns replaces the object under its URI by the encoded payload. -/
def Replaces (storage : StoragePort σ) (objects : Objects σ)
    (encode : OutputSpec → Bytes → Bytes) : Prop :=
  ∀ spec payload credentials s receipt s',
    storage.write spec payload credentials s = (.ok receipt, s') →
      objects s' = Store.put (objects s) spec.destinationUri.text (encode spec payload)

/-- The store as it is, or under the codecs. -/
def wrapped (codecs : Option Codecs) (inner : StoragePort σ) : StoragePort σ :=
  codecs.elim inner fun codecs => compressedStorage codecs inner

/-- What the store is given of a payload. -/
def encoded (codecs : Option Codecs) (spec : OutputSpec) (payload : Bytes) : Bytes :=
  codecs.elim payload fun codecs => codecs.encode spec.compression payload

/-- Under the codecs a store replaces by what they make of a payload. -/
theorem Replaces.wrapped {inner : StoragePort σ} {objects : Objects σ}
    (h : Replaces inner objects fun _ payload => payload) :
    ∀ codecs, Replaces (wrapped codecs inner) objects (encoded codecs)
  | none => h
  | some codecs => fun spec payload => h spec (codecs.encode spec.compression payload)

/-- What comes after the last write leaves the store alone: the webhook, and leaving the span. -/
structure NoOtherWriter (r : ServiceRunner σ P) (objects : Objects σ) : Prop where
  notify : ∀ callback payload s, objects (r.webhook.notify callback payload s).2 = objects s
  exit : ∀ name s, objects (r.observability.exit name s).2 = objects s

/-! ## The writes -/

/-- One output, written. -/
theorem saveOutput_objects {b : CredentialBundle} {result : ComputeResult}
    {storage : StoragePort σ} {objects : Objects σ} {encode : OutputSpec → Bytes → Bytes}
    (hstore : Replaces storage objects encode) (spec : OutputSpec) (s : σ) (receipt : WriteReceipt)
    (h : (Steps.saveOutput b result storage spec s :
      Outcome (Event P) σ PyException WriteReceipt).result = .ok receipt) :
    objects (Steps.saveOutput b result storage spec s :
        Outcome (Event P) σ PyException WriteReceipt).world =
      Store.put (objects s) spec.destinationUri.text
        (encode spec (payloadOf result spec.role.val)) := by
  unfold Steps.saveOutput at h ⊢
  obtain ⟨payload, hpayload, hrun⟩ := Traced.lift_bind_run h
  rw [hrun] at h ⊢
  obtain ⟨c, -, hrun⟩ := Traced.lift_bind_run h
  rw [hrun] at h ⊢
  rw [payloadOf, getItem_eq_ok.mp hpayload, Option.getD_some]
  exact hstore spec payload c s receipt _ (Prod.ext h rfl)

/-- The outputs, written one after the other. -/
theorem saveOutputs_objects {contract : BaseServiceContract P} {b : CredentialBundle}
    {result : ComputeResult} {storage : StoragePort σ} {objects : Objects σ}
    {encode : OutputSpec → Bytes → Bytes} (hstore : Replaces storage objects encode)
    {s s' : σ} {receipts : WriteReceipts} {t : List (Event P)}
    (h : Steps.saveOutputs contract b result storage s = ⟨.ok receipts, s', t⟩) :
    objects s' = Store.writes (fun spec : OutputSpec => spec.destinationUri.text)
      (fun spec => encode spec (payloadOf result spec.role.val)) (objects s)
      contract.outputs.toList := by
  obtain ⟨byRole, s₁, t₁, hloop, -, -, hworld⟩ := Traced.bind_ok
    (show (Steps.saveOutputs contract b result storage s).result = .ok receipts by rw [h])
  have hfold := Traced.collect_world objects
    (fun m (spec : OutputSpec) => Store.put m spec.destinationUri.text
      (encode spec (payloadOf result spec.role.val)))
    (saveOutput_objects (P := P) (b := b) hstore) (congrArg Outcome.result hloop)
  rw [hloop] at hfold
  rw [show s' = s₁ from (congrArg Outcome.world h).symm.trans hworld]
  exact hfold

/-! ## A run that ends with `ok` -/

/-- Under the destination of every output stands what the store makes of the payload of its
role. -/
def Delivered (codecs : Option Codecs) (objects : Objects σ) (contract : BaseServiceContract P)
    (result : ComputeResult) (s : σ) : Prop :=
  ∀ spec ∈ contract.outputs.toList, ∃ payload ∈ result.byRole.get? spec.role.val,
    objects s spec.destinationUri.text = some (encoded codecs spec payload)

/-- Outputs with one destination have one encoded payload. -/
def DestinationsAgree (codecs : Option Codecs) (contract : BaseServiceContract P)
    (result : ComputeResult) : Prop :=
  ∀ spec ∈ contract.outputs.toList, ∀ spec' ∈ contract.outputs.toList,
    spec.destinationUri.text = spec'.destinationUri.text →
      ∀ payload ∈ result.byRole.get? spec.role.val, ∀ payload' ∈ result.byRole.get? spec'.role.val,
        encoded codecs spec payload = encoded codecs spec' payload'

variable [Pydantic] [JsonText]

omit [Pydantic] [JsonText] in
/-- **What a returning `publish` leaves is what was delivered, exactly when the destinations
agree.** -/
theorem publish_delivered_iff {r : ServiceRunner σ P} {codecs : Option Codecs}
    {inner : StoragePort σ} {objects : Objects σ} (hstorage : r.storage = wrapped codecs inner)
    (hinner : Replaces inner objects fun _ payload => payload) (hother : NoOtherWriter r objects)
    {contract : BaseServiceContract P} {produced : ServiceRunner.Produced} {s : σ}
    {res : ExecutionResult P} (h : (r.publish contract produced s).result = .ok res) :
    Delivered codecs objects contract produced.result (r.publish contract produced s).world ↔
      DestinationsAgree codecs contract produced.result := by
  obtain ⟨receipts, s₁, t₁, hsave, h₁, -, hw₁⟩ := Traced.bind_ok h
  obtain ⟨ack, s₂, t₂, hnotify, -, -, hw₂⟩ := Traced.bind_ok h₁
  obtain ⟨saves, hsaves, -, -, hall⟩ := saveOutputs_ok hsave
  have hpayload : ∀ spec ∈ contract.outputs.toList, produced.result.byRole.get? spec.role.val =
      some (payloadOf produced.result spec.role.val) := by
    intro spec hspec
    rw [← hsaves] at hspec
    obtain ⟨p, hp, rfl⟩ := List.mem_map.mp hspec
    exact hall p hp
  have hobjects : objects (r.publish contract produced s).world =
      Store.writes (fun spec : OutputSpec => spec.destinationUri.text)
        (fun spec => encoded codecs spec (payloadOf produced.result spec.role.val)) (objects s)
        contract.outputs.toList := by
    have hnotified : objects s₂ = objects s₁ := by
      rw [← show (Steps.notifyWebhook contract.callback _ r.webhook s₁).world = s₂ from
        congrArg Outcome.world hnotify]
      exact hother.notify contract.callback _ s₁
    rw [show (r.publish contract produced s).world = s₂ from hw₁.trans hw₂, hnotified]
    exact saveOutputs_objects (hstorage ▸ hinner.wrapped codecs) hsave
  unfold Delivered DestinationsAgree
  rw [hobjects]
  have hintact := Store.writes_intact_iff (fun spec : OutputSpec => spec.destinationUri.text)
    (fun spec => encoded codecs spec (payloadOf produced.result spec.role.val)) (objects s)
    contract.outputs.toList
  refine ((forall₂_congr fun spec hspec => ?_).trans hintact).trans
    (forall₂_congr fun spec hspec => forall₂_congr fun spec' hspec' => ?_)
  · simp [hpayload spec hspec]
  · simp [hpayload spec hspec, hpayload spec' hspec']

/-- **A run that ends with `ok` leaves every output where it was delivered, exactly when outputs
with one destination have one encoded payload.** -/
theorem outputs_intact_iff {r : ServiceRunner σ P} {raw : RawMessage} {s : σ}
    {res : ExecutionResult P} {codecs : Option Codecs} {inner : StoragePort σ}
    {objects : Objects σ} (hstorage : r.storage = wrapped codecs inner)
    (hinner : Replaces inner objects fun _ payload => payload) (hother : NoOtherWriter r objects)
    (hmode : r.mode ≠ .receiver) (h : (r.execute raw s).result = .ok res)
    (hstatus : res.status = .ok) :
    ∃ contract inputs context result, res.contract = some contract ∧
      .run inputs contract.parameters context (.ok result) ∈ (r.execute raw s).trace ∧
        (Delivered codecs objects contract result (r.execute raw s).world ↔
          DestinationsAgree codecs contract result) := by
  obtain ⟨s₀, contract, s₁, t, -, hserve, htrace, hworld⟩ :=
    ServiceRunner.served_of_ok hmode h hstatus
  obtain ⟨s₂, t₂, produced, s₃, t₃, -, hproduce, hpublish, htr, hw⟩ :=
    ServiceRunner.serve_ok hserve
  obtain ⟨-, prepared, now, readout, t', -, -, -, -, rfl⟩ := produce_ok hproduce
  obtain ⟨saves, receipts, ack, -, -, -, -, rfl⟩ := publish_ok hpublish
  refine ⟨contract, prepared.inputs, prepared.context, produced.result, rfl, ?_, ?_⟩
  · rw [htrace, htr]
    simp
  · unfold Delivered
    rw [hworld, hother.exit, hw]
    exact publish_delivered_iff hstorage hinner hother hpublish

end

end Grabatus

/-! ## Outputs with several destinations, and two outputs with one -/

namespace Grabatus

open Grabatus.Lib Grabatus.Python

attribute [local instance] UnicodeData.ascii Sample.pydantic Sample.jsonText

/-- `InMemoryStorage` replaces. -/
theorem InMemoryStorage.replaces (supported : Finset String) :
    Replaces (inMemoryStorage supported) (fun w => w.objects.get?) fun _ payload => payload := by
  intro spec payload c w receipt w' h
  obtain ⟨-, rfl⟩ := write_ok (c := c) h
  funext uri
  show (w.objects.set spec.destinationUri.text payload).get? uri = _
  rw [Dict.get?_set, Store.put, Function.update_apply]
  exact if_congr eq_comm rfl rfl

/-- The fake webhook and the null observability hold no objects. -/
theorem fakeRunner_noOtherWriter (message : MessagePort FakeWorld)
    (authorizer : UriAuthorizationPort FakeWorld) (secrets : Dict String Credentials)
    (backend : FakeComputeBackend) (now : Datetime) (mode : RuntimeMode) :
    NoOtherWriter (fakeRunner message authorizer secrets backend now mode)
      fun w => w.objects.get? where
  notify _ _ _ := rfl
  exit _ _ := rfl

theorem Sample.wide_noOtherWriter :
    NoOtherWriter Sample.wideRunner fun w => w.objects.get? :=
  fakeRunner_noOtherWriter ..

/-- Outputs with a destination each agree. -/
theorem destinationsAgree_of_distinct {P : Type} {contract : BaseServiceContract P}
    {result : ComputeResult}
    (h : ∀ p ∈ contract.outputs.toList.map fun spec => (spec.role.val, spec.destinationUri.text),
      ∀ q ∈ contract.outputs.toList.map fun spec => (spec.role.val, spec.destinationUri.text),
        p.2 = q.2 → p.1 = q.1) : DestinationsAgree none contract result := by
  intro spec hspec spec' hspec' huri payload hpayload payload' hpayload'
  have hrole : spec.role.val = spec'.role.val :=
    h _ (List.mem_map_of_mem hspec) _ (List.mem_map_of_mem hspec') huri
  rw [hrole] at hpayload
  exact Option.some.inj (hpayload.symm.trans hpayload')

/-- A contract with two outputs under one URI. -/
def Sample.collision : JsonObject :=
  makeContract "1.0" [Sample.input .null] [Sample.output,
    makeOutputSpec "rules_json" "gs://gbt-storage-grabatus/user_999/out.json"]

/-- The sample runner on that contract, over a backend that makes both outputs. -/
abbrev Sample.collisionRunner : ServiceRunner FakeWorld OpaqueParameters :=
  fakeRunner ⟨fun _ => pure Sample.collision⟩ (allowAllPolicy _) Dict.empty
    { Sample.backend (Sample.outputs.set "rules_json" (encodeUtf8 "[]")) true with
      outputRoles := {"result_json", "rules_json"} } Sample.now .monolith

/-- Its run. -/
abbrev Sample.collisionRun : Outcome (Event OpaqueParameters) FakeWorld PyException
    (ExecutionResult OpaqueParameters) :=
  Sample.collisionRunner.execute Sample.raw Sample.world

/-- The payload a call to the backend returned for a role. -/
def Event.payload? {P : Type} (role : String) : Event P → Option Bytes
  | .run _ _ _ (.ok result) => result.byRole.get? role
  | _ => none

/-- Both outputs are reported; the second one is what the store holds. -/
theorem collision_run :
    (statusOf? Sample.collisionRun.result, filesOf? Sample.collisionRun.result,
      Sample.collisionRun.trace.filterMap (Event.payload? "result_json"),
      Sample.collisionRun.world.objects.get? "gs://gbt-storage-grabatus/user_999/out.json") =
    (some .ok, some ([("result_json", "gs://gbt-storage-grabatus/user_999/out.json"),
        ("rules_json", "gs://gbt-storage-grabatus/user_999/out.json")], ["timeseries"]),
      [encodeUtf8 "{}"], some (encodeUtf8 "[]")) := by decide +kernel

/-- Three outputs with a destination each are where they were delivered; with two outputs under one
URI it depends on their payloads. -/
theorem outputs_intact_iff_sample :
    (∃ res contract inputs context result, Sample.wideRun.result = .ok res ∧
      res.contract = some contract ∧ contract.outputs.toList.length = 3 ∧
        .run inputs contract.parameters context (.ok result) ∈ Sample.wideRun.trace ∧
          Delivered none (fun w : FakeWorld => w.objects.get?) contract result
            Sample.wideRun.world) ∧
    ∃ res contract inputs context result, Sample.collisionRun.result = .ok res ∧
      res.contract = some contract ∧
        .run inputs contract.parameters context (.ok result) ∈ Sample.collisionRun.trace ∧
          (Delivered none (fun w : FakeWorld => w.objects.get?) contract result
            Sample.collisionRun.world ↔ DestinationsAgree none contract result) := by
  constructor
  · let _ := Sample.widePydantic
    obtain ⟨res, hres, hok⟩ := statusOf?_eq_some.mp wide_status
    have hstorage : Sample.wideRunner.storage =
        wrapped none (inMemoryStorage defaultSupportedSchemes) := rfl
    obtain ⟨contract, inputs, context, result, hcontract, hrun, hiff⟩ :=
      outputs_intact_iff hstorage (InMemoryStorage.replaces _) Sample.wide_noOtherWriter nofun hres
        hok
    have hfiles := wide_files
    rw [hres] at hfiles
    obtain ⟨contract', hcontract', hlists⟩ := Option.map_eq_some_iff.mp
      (show res.contract.map _ = some _ from hfiles)
    obtain rfl := Option.some.inj (hcontract.symm.trans hcontract')
    obtain ⟨hlist, -⟩ := Prod.mk.inj hlists
    refine ⟨res, contract, inputs, context, result, hres, hcontract, ?_, hrun, hiff.mpr ?_⟩
    · exact (List.length_map ..).symm.trans (congrArg List.length hlist)
    · exact destinationsAgree_of_distinct (by rw [hlist]; decide)
  · obtain ⟨hstatus, -⟩ := Prod.mk.inj collision_run
    obtain ⟨res, hres, hok⟩ := statusOf?_eq_some.mp hstatus
    have hstorage : Sample.collisionRunner.storage =
        wrapped none (inMemoryStorage defaultSupportedSchemes) := rfl
    obtain ⟨contract, inputs, context, result, hcontract, hrun, hiff⟩ :=
      outputs_intact_iff hstorage (InMemoryStorage.replaces _) (fakeRunner_noOtherWriter ..) nofun
        hres hok
    exact ⟨res, contract, inputs, context, result, hres, hcontract, hrun, hiff⟩

/-- The output `result_json` is reported, and lost. -/
theorem outputs_overwritten :
    ∃ res contract inputs parameters context result, Sample.collisionRun.result = .ok res ∧
      res.status = .ok ∧ res.contract = some contract ∧
        .run inputs parameters context (.ok result) ∈ Sample.collisionRun.trace ∧
          ¬ Delivered none (fun w : FakeWorld => w.objects.get?) contract result
            Sample.collisionRun.world := by
  have hrun := collision_run
  simp only [Prod.mk.injEq] at hrun
  obtain ⟨hstatus, hfiles, hpayload, hobject⟩ := hrun
  obtain ⟨res, hres, hok⟩ := statusOf?_eq_some.mp hstatus
  rw [hres] at hfiles
  obtain ⟨contract, hcontract, hlists⟩ := Option.map_eq_some_iff.mp
    (show res.contract.map _ = some _ from hfiles)
  obtain ⟨hlist, -⟩ := Prod.mk.inj hlists
  have hmade : encodeUtf8 "{}" ∈ Sample.collisionRun.trace.filterMap
      (Event.payload? "result_json") := hpayload ▸ List.mem_cons_self
  obtain ⟨e, he, hevent⟩ := List.mem_filterMap.mp hmade
  obtain ⟨inputs, parameters, context, result, rfl⟩ : ∃ inputs parameters context result,
      e = .run inputs parameters context (.ok result) := by
    unfold Event.payload? at hevent
    split at hevent
    · exact ⟨_, _, _, _, rfl⟩
    · cases hevent
  refine ⟨res, contract, inputs, parameters, context, result, hres, hok, hcontract, he, ?_⟩
  intro hdelivered
  have hdeclared : ("result_json", "gs://gbt-storage-grabatus/user_999/out.json") ∈
      contract.outputs.toList.map fun spec => (spec.role.val, spec.destinationUri.text) :=
    hlist ▸ List.mem_cons_self
  obtain ⟨spec, hspec, hnames⟩ := List.mem_map.mp hdeclared
  obtain ⟨hrole, huri⟩ := Prod.mk.inj hnames
  obtain ⟨payload, hget, hstored⟩ := hdelivered spec hspec
  rw [hrole, show result.byRole.get? "result_json" = some (encodeUtf8 "{}") from hevent] at hget
  rw [huri] at hstored
  have hsame : encodeUtf8 "[]" = encodeUtf8 "{}" :=
    (Option.some.inj (hobject.symm.trans hstored)).trans (Option.some.inj hget).symm
  exact absurd hsame (by decide)

end Grabatus

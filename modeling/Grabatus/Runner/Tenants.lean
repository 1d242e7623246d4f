import Grabatus.Adapters.StorageAssembled
import Grabatus.Adapters.WriteMode
import Grabatus.Lib.Unwinding
import Grabatus.Runner.Artifacts
import Grabatus.Runner.Confined
import Mathlib.Logic.Relation

/-!
# Many workers, many tenants

Over `runner/runner.py`, `security/tenant_prefix_policy.py` and the storage adapters. A deployment
is one service runner per service, over one world: every message is run by one of them, in any
order. The workers are `Tenanted`: they ask the default policy, and their storage is put together
from the adapters of the package over one Cloud Storage client.

* **Integrity** (`object_of_others_kept`): in every state a deployment reaches, an object that none
  of the contracts' identities owns is as it was; so nothing but a run for the user of an object,
  in a related tenant, ever changes it.
* **Noninterference** (`others_unseen`): what a group of identities sees of a history, its results,
  its calls with their replies and its objects, is what its own messages alone give, in their
  order. The messages of others may come anywhere in between, or not at all.

Out of scope: two runs at the same time, which `Interleaved` adds.
-/

namespace Grabatus

open Grabatus.Lib Grabatus.Lib.Traced Grabatus.Python

variable {σ ν ι : Type} {P : ι → Type}

/-! ## What a client does to the objects -/

/-- A download changes no object, and an upload no other one. -/
structure GcsClient.KeepsOthers (client : GcsClient σ)
    (objects : σ → String × String → Option Bytes) : Prop where
  download : ∀ bucket blob, Op.Keeps objects (client.downloadAsBytes bucket blob)
  upload : ∀ bucket blob payload object, object ≠ (bucket, blob) →
    Op.Keeps (fun s => objects s object) (client.uploadFromString bucket blob payload)

/-- Two worlds that look the same. -/
def LookAlike (view : σ → ν) (s s' : σ) : Prop := view s = view s'

/-- A call on an object that is seen is answered by the view alone; one on any other object leaves
the view alone. -/
structure GcsClient.Separates (client : GcsClient σ) (view : σ → ν)
    (sees : String × String → Prop) : Prop where
  download : ∀ bucket blob, sees (bucket, blob) → Respects (LookAlike view)
    (client.downloadAsBytes bucket blob) (client.downloadAsBytes bucket blob)
  upload : ∀ bucket blob payload, sees (bucket, blob) → Respects (LookAlike view)
    (client.uploadFromString bucket blob payload) (client.uploadFromString bucket blob payload)
  downloadHidden : ∀ bucket blob, ¬ sees (bucket, blob) →
    Op.Keeps view (client.downloadAsBytes bucket blob)
  uploadHidden : ∀ bucket blob payload, ¬ sees (bucket, blob) →
    Op.Keeps view (client.uploadFromString bucket blob payload)

/-! ## The workers -/

section

variable [UnicodeData]

/-- The default policy, and a storage of the package over one client. -/
structure ServiceRunner.Tenanted {P : Type} (r : ServiceRunner σ P) (p : TenantPrefixPolicy)
    (client : GcsClient σ) : Prop where
  authorizer : r.authorizer = p.port σ
  storage : ∃ codecs, Assembled codecs (StorageAdapter client) r.storage

/-- URIs that passed under the default policy are URIs it authorized. -/
theorem authorized_of_urisPass {p : TenantPrefixPolicy} {schemeAllowlist : SchemeAllowlist}
    {identity : Identity} {uris : List String} {s s' : σ}
    (h : Steps.UrisPass (p.port σ) schemeAllowlist identity uris s s') :
    ∀ uri ∈ uris, p.authorize uri identity = .ok () := by
  induction h with
  | nil => exact fun uri huri => absurd huri List.not_mem_nil
  | cons _ hauth _ ih => exact List.forall_mem_cons.mpr ⟨congrArg Prod.fst hauth, ih⟩

/-- A contract that passed the check has no URI but those the policy authorized. -/
theorem ServiceRunner.Tenanted.authorized {P : Type} {r : ServiceRunner σ P}
    {p : TenantPrefixPolicy} {client : GcsClient σ} (h : r.Tenanted p client)
    {contract : BaseServiceContract P} {s : σ} (hcheck : (r.check contract s).result = .ok ()) :
    ∀ uri ∈ Steps.contractUris contract.toContractFields,
      p.authorize uri contract.identity = .ok () := by
  unfold ServiceRunner.check at hcheck
  rw [Steps.authorize_eq_each] at hcheck
  obtain ⟨⟨⟩, -, hall, -⟩ := Traced.lift_bind_ok hcheck
  rcases Steps.authorizeUris_cases (P := P) r.authorizer r.schemeAllowlist contract.identity
      (Steps.contractUris contract.toContractFields) s with ⟨s', t, hpass, -⟩ | ⟨e, s', t, -, hrun⟩
  · exact authorized_of_urisPass (h.authorizer ▸ hpass)
  · rw [hrun] at hall
    exact absurd hall nofun

/-- A storage of the package leaves a view alone at the specs of a contract whose URIs are
authorized, where the client does on the objects of its identity. -/
theorem ServiceRunner.keepsAt_of_authorized {P : Type} {r : ServiceRunner σ P}
    {p : TenantPrefixPolicy} {client : GcsClient σ} {codecs : Codecs}
    (hstorage : Assembled codecs (StorageAdapter client) r.storage) (hcolon : KeepsColon)
    (hreq : p.requireUserPathSegment = true) {view : σ → ν} {contract : BaseServiceContract P}
    (hauth : ∀ uri ∈ Steps.contractUris contract.toContractFields,
      p.authorize uri contract.identity = .ok ())
    (hdownload : ∀ bucket blob, p.Owns contract.identity (bucket, blob) →
      Op.Keeps view (client.downloadAsBytes bucket blob))
    (hupload : ∀ bucket blob payload, p.Owns contract.identity (bucket, blob) →
      Op.Keeps view (client.uploadFromString bucket blob payload)) : r.KeepsAt view contract where
  read _ hspec c := hstorage.read_closed (Op.Closed.keeps view) hcolon hreq
    (hauth _ (List.mem_append_left _ (List.mem_map_of_mem hspec))) hdownload c
  write _ hspec payload c := hstorage.write_closed (Op.Closed.keeps view) hcolon hreq
    (hauth _ (List.mem_append_right _ (List.mem_map_of_mem hspec))) hupload payload c

/-- The storage of a worker does so at the specs of a contract that passed the check. -/
theorem ServiceRunner.Tenanted.keepsAt {P : Type} {r : ServiceRunner σ P} {p : TenantPrefixPolicy}
    {client : GcsClient σ} (h : r.Tenanted p client) (hcolon : KeepsColon)
    (hreq : p.requireUserPathSegment = true) {view : σ → ν} {contract : BaseServiceContract P}
    {s : σ} (hcheck : (r.check contract s).result = .ok ())
    (hdownload : ∀ bucket blob, p.Owns contract.identity (bucket, blob) →
      Op.Keeps view (client.downloadAsBytes bucket blob))
    (hupload : ∀ bucket blob payload, p.Owns contract.identity (bucket, blob) →
      Op.Keeps view (client.uploadFromString bucket blob payload)) : r.KeepsAt view contract := by
  obtain ⟨codecs, hstorage⟩ := h.storage
  exact keepsAt_of_authorized hstorage hcolon hreq (h.authorized hcheck) hdownload hupload

variable [Pydantic] [JsonText]

/-! ## Integrity -/

/-- What happens in a deployment: a message is run by one of the workers, its contract being one
of an identity among `only`; or something else goes on and leaves the view alone. -/
inductive Happens (workers : ∀ i, ServiceRunner σ (P i)) (only : Identity → Prop) (view : σ → ν) :
    σ → σ → Prop
  | ran (i : ι) (raw : RawMessage) {s : σ}
    (honly : ∀ contract, (workers i).Reads raw contract → only contract.identity) :
    Happens workers only view s ((workers i).execute raw s).world
  | elsewhere {s s' : σ} (hkeep : view s' = view s) : Happens workers only view s s'

section

variable {workers : ∀ i, ServiceRunner σ (P i)} {p : TenantPrefixPolicy} {client : GcsClient σ}
  {objects : σ → String × String → Option Bytes} {only : Identity → Prop}
  {object : String × String}

/-- A run for an identity that does not own the object leaves it alone. -/
theorem object_kept_by_run {P : Type} {r : ServiceRunner σ P} (hcolon : KeepsColon)
    (hreq : p.requireUserPathSegment = true) (hclient : client.KeepsOthers objects)
    (hworker : r.Tenanted p client) (haround : r.KeepsAround objects) {raw : RawMessage}
    (hothers : ∀ contract, r.Reads raw contract → ¬ p.Owns contract.identity object) (s : σ) :
    objects (r.execute raw s).world object = objects s object := by
  refine ServiceRunner.execute_keeps (haround.comp fun all => all object)
    (fun contract hreads s₁ hcheck => ?_) s
  refine hworker.keepsAt hcolon hreq hcheck (fun bucket blob _ s => ?_) fun bucket blob payload
    howns => hclient.upload bucket blob payload object ?_
  · exact congrFun (hclient.download bucket blob s) object
  · rintro rfl
    exact hothers contract hreads howns

/-- **An object is changed by nobody but its owner**: a deployment that ran no contract of an
identity that owns it left it as it was; and only the same user, in a related tenant, owns what an
owner does. -/
theorem object_of_others_kept (hcolon : KeepsColon) (hreq : p.requireUserPathSegment = true)
    (hclient : client.KeepsOthers objects) (hworkers : ∀ i, (workers i).Tenanted p client)
    (haround : ∀ i, (workers i).KeepsAround objects) {s s' : σ}
    (hrun : Relation.ReflTransGen (Happens workers only fun s => objects s object) s s') :
    ((∀ identity, only identity → ¬ p.Owns identity object) →
        objects s' object = objects s object) ∧
      ∀ owner, p.Owns owner object → (∀ identity, only identity → ¬ SameOwner owner identity) →
        objects s' object = objects s object := by
  have hkept : (∀ identity, only identity → ¬ p.Owns identity object) →
      objects s' object = objects s object := fun hnone => by
    induction hrun with
    | refl => rfl
    | tail _ hstep ih =>
      refine Eq.trans ?_ ih
      cases hstep with
      | ran i raw honly =>
        exact object_kept_by_run hcolon hreq hclient (hworkers i) (haround i)
          (fun contract hreads => hnone _ (honly contract hreads)) _
      | elsewhere hkeep => exact hkeep
  exact ⟨hkept, fun owner howner hothers => hkept fun identity honly howns =>
    hothers identity honly (p.separated_of_owns howner howns)⟩

end

/-! ## Noninterference -/

/-- The ports around the storage leave the view alone and answer by it. -/
structure ServiceRunner.AnswersFrom {P : Type} (r : ServiceRunner σ P) (view : σ → ν) : Prop where
  keeps : r.KeepsAround view
  receives : r.ReceivesAlike (LookAlike view)
  resolves : ∀ ref, Respects (LookAlike view) (r.secrets.resolve ref) (r.secrets.resolve ref)
  nows : Respects (LookAlike view) r.clock.now r.clock.now
  runs : ∀ inputs parameters context, Respects (LookAlike view)
    (r.compute.run inputs parameters context) (r.compute.run inputs parameters context)
  notifies : ∀ callback payload, Respects (LookAlike view) (r.webhook.notify callback payload)
    (r.webhook.notify callback payload)

/-- What a deployment answers a message: the result of the run, and its calls. -/
def deployment (workers : ∀ i, ServiceRunner σ (P i)) :
    Machine σ (ι × RawMessage)
      (Σ i, Except PyException (ExecutionResult (P i)) × List (Event (P i))) := fun message s =>
  let outcome := (workers message.1).execute message.2 s
  (⟨message.1, outcome.result, outcome.trace⟩, outcome.world)

/-- The objects of a group of identities. -/
def TenantPrefixPolicy.OwnedBy (p : TenantPrefixPolicy) (group : Identity → Prop)
    (object : String × String) : Prop := ∃ identity, group identity ∧ p.Owns identity object

section

variable {workers : ∀ i, ServiceRunner σ (P i)} {p : TenantPrefixPolicy} {client : GcsClient σ}
  {group : Identity → Prop} {view : σ → ν}

omit [UnicodeData] [Pydantic] [JsonText] in
/-- The group owns no object of anybody else. -/
theorem hidden_of_owns (hgroup : ∀ a b, SameOwner a b → (group a ↔ group b)) {identity : Identity}
    (hother : ¬ group identity) {object : String × String} (howns : p.Owns identity object) :
    ¬ p.OwnedBy group object := by
  rintro ⟨member, hmember, howns'⟩
  exact hother ((hgroup member identity (p.separated_of_owns howns' howns)).mp hmember)

/-- A run for an identity outside the group leaves alone what the group sees. -/
theorem unseen_by_group {P : Type} {r : ServiceRunner σ P} (hcolon : KeepsColon)
    (hreq : p.requireUserPathSegment = true) (hgroup : ∀ a b, SameOwner a b → (group a ↔ group b))
    (hclient : client.Separates view (p.OwnedBy group)) (hworker : r.Tenanted p client)
    (hports : r.AnswersFrom view) {raw : RawMessage}
    (hothers : ∀ contract, r.Reads raw contract → ¬ group contract.identity) (s : σ) :
    view (r.execute raw s).world = view s := by
  refine ServiceRunner.execute_keeps hports.keeps (fun contract hreads s₁ hcheck => ?_) s
  have hforeign := hothers contract hreads
  exact hworker.keepsAt hcolon hreq hcheck
    (fun bucket blob howns =>
      hclient.downloadHidden bucket blob (hidden_of_owns hgroup hforeign howns))
    fun bucket blob payload howns =>
      hclient.uploadHidden bucket blob payload (hidden_of_owns hgroup hforeign howns)

/-- A run for an identity of the group is answered by what the group sees. -/
theorem answered_by_group {P : Type} {r : ServiceRunner σ P} (hcolon : KeepsColon)
    (hreq : p.requireUserPathSegment = true)
    (hclient : client.Separates view (p.OwnedBy group)) (hworker : r.Tenanted p client)
    (hports : r.AnswersFrom view) {raw : RawMessage}
    (hown : ∀ contract, r.Reads raw contract → group contract.identity) :
    InStep (LookAlike view) some Eq Eq (r.execute raw) (r.execute raw) := by
  refine ServiceRunner.execute_alike (r := r) (C := Eq) hports.receives ⟨rfl, rfl, rfl⟩
    fun contract hreads s hcheck => ?_
  have hsees : ∀ object, p.Owns contract.identity object → p.OwnedBy group object :=
    fun object howns => ⟨contract.identity, hown contract hreads, howns⟩
  have hauth := hworker.authorized hcheck
  obtain ⟨codecs, hstorage⟩ := hworker.storage
  exact
    { null := rfl
      resolve := fun ref s s' hs => by
        obtain ⟨hreply, hworld⟩ := hports.resolves ref s s' hs
        exact ⟨hreply ▸ Alike.refl _, hworld⟩
      read := fun spec hspec c c' hc => by
        subst hc
        exact hstorage.read_closed (Respects.closed _) hcolon hreq
          (hauth _ (List.mem_append_left _ (List.mem_map_of_mem hspec)))
          (fun bucket blob howns => hclient.download bucket blob (hsees _ howns)) c
      now := hports.nows
      run := fun inputs context => hports.runs inputs _ context
      write := fun spec hspec payload c c' hc => by
        subst hc
        exact hstorage.write_closed (Respects.closed _) hcolon hreq
          (hauth _ (List.mem_append_right _ (List.mem_map_of_mem hspec)))
          (fun bucket blob payload howns => hclient.upload bucket blob payload (hsees _ howns))
          payload c
      notify := fun payload => hports.notifies _ payload
      markResolve := fun ref reply reply' h => by rw [h.eq]
      markRead := fun spec c c' reply hc => by rw [hc]
      markWrite := fun spec payload c c' reply hc => by rw [hc] }

/-- **What a group of identities sees of a history is what its own messages give.** -/
theorem others_unseen (hcolon : KeepsColon) (hreq : p.requireUserPathSegment = true)
    (hgroup : ∀ a b, SameOwner a b → (group a ↔ group b))
    (hclient : client.Separates view (p.OwnedBy group))
    (hworkers : ∀ i, (workers i).Tenanted p client) (hports : ∀ i, (workers i).AnswersFrom view)
    {mine : ι × RawMessage → Bool}
    (hmine : ∀ i raw contract, (workers i).Reads raw contract →
      (mine (i, raw) = true ↔ group contract.identity))
    {history history' : List (ι × RawMessage)} {s s' : σ} (hview : view s = view s')
    (hsame : history.filter mine = history'.filter mine) :
    ((deployment workers).log history s).filter (fun e => mine e.1) =
        ((deployment workers).log history' s').filter (fun e => mine e.1) ∧
      view ((deployment workers).after history s) =
        view ((deployment workers).after history' s') := by
  have hunwinds : (deployment workers).Unwinds mine view :=
    { own := by
        rintro ⟨i, raw⟩ hown s s' hs
        have hstep := answered_by_group hcolon hreq hclient (hworkers i) (hports i)
          (fun contract hreads => (hmine i raw contract hreads).mp hown) s s' hs
        obtain ⟨hresult, hworld, htrace⟩ := hstep
        rw [List.filterMap_some, List.filterMap_some] at htrace
        refine ⟨?_, hworld⟩
        show (⟨i, _, _⟩ : Σ i, Except PyException (ExecutionResult (P i)) × List (Event (P i))) =
          ⟨i, _, _⟩
        rw [hresult.eq, htrace]
      others := by
        rintro ⟨i, raw⟩ hother s
        refine unseen_by_group hcolon hreq hgroup hclient (hworkers i) (hports i)
          (fun contract hreads hmember => ?_) s
        rw [(hmine i raw contract hreads).mpr hmember] at hother
        exact absurd hother nofun }
  exact hunwinds.same_of_filter hview hsame

end

end

/-! ## Two users of one bucket -/

/-- The objects of a store in memory, by bucket and name. -/
abbrev GcsObjects : Type := String × String → Option Bytes

theorem memoryGcsClient_keepsOthers : memoryGcsClient.KeepsOthers (fun objects => objects) where
  download bucket blob objects := by
    unfold memoryGcsClient
    dsimp only
    split <;> rfl
  upload _ _ _ _ hne _ := Store.put_of_ne hne

theorem memoryGcsClient_separates (sees : String × String → Prop) :
    memoryGcsClient.Separates (fun (objects : GcsObjects) (k : {k // sees k}) => objects k)
      sees where
  download bucket blob hsees objects objects' hview := by
    have hobject : objects (bucket, blob) = objects' (bucket, blob) :=
      congrFun hview ⟨(bucket, blob), hsees⟩
    unfold memoryGcsClient
    dsimp only
    rw [← hobject]
    split <;> exact ⟨rfl, hview⟩
  upload bucket blob payload hsees objects objects' hview := by
    refine ⟨rfl, funext fun k => ?_⟩
    show Store.put objects (bucket, blob) payload k = Store.put objects' (bucket, blob) payload k
    by_cases hk : k.1 = (bucket, blob)
    · rw [hk, Store.put_self, Store.put_self]
    · rw [Store.put_of_ne hk, Store.put_of_ne hk]
      exact congrFun hview k
  downloadHidden bucket blob _ objects := by
    unfold memoryGcsClient
    dsimp only
    split <;> rfl
  uploadHidden bucket blob payload hhidden objects :=
    funext fun k => Store.put_of_ne fun hk : k.1 = (bucket, blob) => hhidden (hk ▸ k.2)

namespace Sample

/-- The contract of user 7 of the same tenant. -/
def neighbour : JsonObject :=
  (makeContract "1.0"
    [makeInputSpec "timeseries" "gs://gbt-storage-grabatus/user_7/in.xlsx" .null]
    [makeOutputSpec "result_json" "gs://gbt-storage-grabatus/user_7/out.json"]).map fun e =>
      if e.1 = "identity" then
        ("identity", .obj [("user_id", .str "7"), ("tenant_id", .str "grabatus")])
      else e

/-- An empty message is the contract of user 999, any other that of user 7. -/
def document (raw : RawMessage) : JsonObject :=
  if raw.payload.size = 0 then contract else neighbour

/-- The message of user 7. -/
def neighbourRaw : RawMessage := ⟨encodeUtf8 "7"⟩

/-- The messages of user 999. -/
def isMine (message : Unit × RawMessage) : Bool := message.2.payload.size == 0

/-- A worker over a client, behind the schemes `gs` and `inline`. -/
def workerOver [UnicodeData] (client : GcsClient σ) : ServiceRunner σ OpaqueParameters where
  contractType := ContractType.opaqueService
  storage := CompositeStorage.port
    ⟨(Dict.empty.set "gs" (GcsStorage.port client)).set "inline" (inlineStorage _)⟩
  message := ⟨fun raw => pure (document raw)⟩
  webhook := ⟨fun _ _ => pure ⟨200, "ok"⟩⟩
  compute := (backend outputs true).port _ _
  secrets := inMemorySecretsAdapter _ Dict.empty
  authorizer := TenantPrefixPolicy.port _ ⟨"gbt-storage", true⟩
  observability := nullObservability _
  clock := frozenClock _ now
  jobDispatcher := ⟨fun _ _ requestId => pure ⟨"job", requestId⟩⟩
  schemeAllowlist := ⟨{"gs", "inline"}⟩
  mode := .monolith
  workerJobName := none

/-- The worker over a store in memory. -/
abbrev tenantWorker [UnicodeData] : ServiceRunner GcsObjects OpaqueParameters :=
  workerOver memoryGcsClient

/-- The inputs of both users. -/
def objects : GcsObjects :=
  Store.put (holding ("gbt-storage-grabatus", "user_999/in.xlsx") (encodeUtf8 "mine"))
    ("gbt-storage-grabatus", "user_7/in.xlsx") (encodeUtf8 "theirs")

section

attribute [local instance] UnicodeData.ascii pydantic jsonText

theorem worker_tenanted (client : GcsClient σ) :
    (workerOver client).Tenanted ⟨"gbt-storage", true⟩ client where
  authorizer := rfl
  storage := by
    refine ⟨codecs, .composite fun scheme adapter hget => ?_⟩
    rw [Dict.get?_set, Dict.get?_set] at hget
    split at hget
    · obtain rfl := Option.some.inj hget
      exact .plain .inline
    · split at hget
      · obtain rfl := Option.some.inj hget
        exact .plain .gcs
      · exact absurd hget.symm (Option.some_ne_none _)

/-- No port of the worker but its storage touches the objects. -/
theorem worker_keepsAround (client : GcsClient σ) (view : σ → ν) :
    (workerOver client).KeepsAround view where
  decode _ _ := rfl
  authorize _ _ _ := rfl
  resolve _ _ := rfl
  now _ := rfl
  run _ _ _ _ := rfl
  notify _ _ _ := rfl
  dispatch _ _ _ _ := rfl
  enter _ _ _ := rfl
  exit _ _ := rfl
  metric _ _ _ _ := rfl

/-- None of them looks at the objects either. -/
theorem worker_answersFrom (client : GcsClient σ) (view : σ → ν) :
    (workerOver client).AnswersFrom view where
  keeps := worker_keepsAround client view
  receives :=
    { decode := fun _ _ _ hs => ⟨rfl, hs⟩
      authorize := fun _ _ _ _ hs => ⟨rfl, hs⟩
      dispatch := fun _ _ _ _ _ hs => ⟨rfl, hs⟩
      enter := fun _ _ _ _ hs => ⟨rfl, hs⟩
      exit := fun _ _ _ hs => ⟨rfl, hs⟩
      metric := fun _ _ _ _ _ hs => ⟨rfl, hs⟩ }
  resolves _ _ _ hs := ⟨rfl, hs⟩
  nows _ _ hs := ⟨rfl, hs⟩
  runs _ _ _ _ _ hs := ⟨rfl, hs⟩
  notifies _ _ _ _ hs := ⟨rfl, hs⟩

/-- The user a message is read as. -/
theorem reads_userId {client : GcsClient σ} {raw : RawMessage} {contract : OpaqueServiceContract}
    (h : (workerOver client).Reads raw contract) :
    contract.identity.userId.val = if raw.payload.size = 0 then "999" else "7" := by
  obtain ⟨s, s', t, hreceive⟩ := h
  have hvalid : Steps.validate (document raw) ContractType.opaqueService = .ok contract := by
    have hdecode : (workerOver client).message.decode raw s = (.ok (document raw), s) := rfl
    rw [ServiceRunner.receive_of_decoded hdecode] at hreceive
    exact congrArg Outcome.result hreceive
  have hmine : (Steps.validate Sample.contract ContractType.opaqueService).toOption.map
      (fun contract => contract.identity.userId.val) = some "999" := by decide +kernel
  have hother : (Steps.validate neighbour ContractType.opaqueService).toOption.map
      (fun contract => contract.identity.userId.val) = some "7" := by decide +kernel
  unfold document at hvalid
  split at hvalid
  · rename_i hsize
    rw [hvalid] at hmine
    rw [if_pos hsize]
    exact Option.some.inj hmine
  · rename_i hsize
    rw [hvalid] at hother
    rw [if_neg hsize]
    exact Option.some.inj hother

end

end Sample

section

attribute [local instance] UnicodeData.ascii Sample.pydantic Sample.jsonText

/-- A run for user 999 leaves an object of user 7 alone. -/
theorem object_of_others_kept_sample :
    (Sample.tenantWorker.execute ⟨ByteArray.empty⟩ Sample.objects).world
        ("gbt-storage-grabatus", "user_7/in.xlsx") =
      Sample.objects ("gbt-storage-grabatus", "user_7/in.xlsx") := by
  have hrun : Relation.ReflTransGen (Happens (fun _ : Unit => Sample.tenantWorker)
      (fun identity => identity.userId.val = "999")
        fun s => s ("gbt-storage-grabatus", "user_7/in.xlsx")) Sample.objects _ :=
    .single (.ran () ⟨ByteArray.empty⟩ fun contract h => Sample.reads_userId h)
  have hcolon : KeepsColon := fun _ h => h
  have hkept := object_of_others_kept (p := ⟨"gbt-storage", true⟩) hcolon rfl
    memoryGcsClient_keepsOthers (fun _ => Sample.worker_tenanted _)
      (fun _ => Sample.worker_keepsAround _ _) hrun
  refine hkept.2 ⟨⟨"7", by decide⟩, ⟨"grabatus", by decide⟩⟩ (by decide)
    fun identity honly hsame => ?_
  have huser := congrArg Str.val hsame.1
  rw [honly] at huser
  exact absurd huser (by decide)

/-- User 999 sees nothing of the messages of user 7, before its own and after. -/
theorem others_unseen_sample :
    ((deployment fun _ : Unit => Sample.tenantWorker).log
        [((), Sample.neighbourRaw), ((), ⟨ByteArray.empty⟩), ((), Sample.neighbourRaw)]
        Sample.objects).filter (fun e => Sample.isMine e.1) =
      ((deployment fun _ : Unit => Sample.tenantWorker).log [((), ⟨ByteArray.empty⟩)]
        Sample.objects).filter (fun e => Sample.isMine e.1) := by
  have hgroup : ∀ a b : Identity, SameOwner a b →
      (a.userId.val = "999" ↔ b.userId.val = "999") := fun a b h => by rw [h.1]
  have hmine : ∀ (i : Unit) (raw : RawMessage) (contract : OpaqueServiceContract),
      Sample.tenantWorker.Reads raw contract →
        (Sample.isMine (i, raw) = true ↔ contract.identity.userId.val = "999") := by
    intro i raw contract hreads
    rw [Sample.reads_userId hreads, Sample.isMine, beq_iff_eq]
    split
    · simp [*]
    · simp [*]
  have hcolon : KeepsColon := fun _ h => h
  have hmessages : [((), Sample.neighbourRaw), ((), ⟨ByteArray.empty⟩),
      ((), Sample.neighbourRaw)].filter Sample.isMine =
        [((), ⟨ByteArray.empty⟩)].filter Sample.isMine := by decide
  have hunseen := others_unseen (p := ⟨"gbt-storage", true⟩) (s := Sample.objects) hcolon rfl hgroup
    (memoryGcsClient_separates _) (fun _ => Sample.worker_tenanted _)
      (fun _ => Sample.worker_answersFrom _ _) hmine (Eq.refl _) hmessages
  exact hunseen.1

end

end Grabatus

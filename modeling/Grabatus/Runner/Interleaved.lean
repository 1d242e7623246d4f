import Grabatus.Lib.Interference
import Grabatus.Runner.Tenants

/-!
# Workers at work together

Over `runner/runner.py` and `adapters/storage_gcs.py`. Workers run side by side, so between two
requests of one run to the store others make theirs. Under `GcsClient.among` every request to the
client first lets something happen elsewhere, any steps of the world that a group of identities
does not see.

**A run for the group is, in every interleaving, the run it is alone**: the same result, the same
calls with the same replies, and the same objects in the end. And what others' runs do is such a
step: **every storage call of a run for somebody else is made of requests at objects the group does
not own**, none of which shows (`isolated_in_any_interleaving`).

Out of scope: what happens inside a request; others are at work between two of them.
-/

namespace Grabatus

open Grabatus.Lib Grabatus.Lib.Traced Grabatus.Python

variable {σ ν : Type} {P P' : Type}

/-- The client, with others at work. -/
def GcsClient.among {view : σ → ν} (client : GcsClient σ) : GcsClient (Among view) where
  bucket := client.bucket
  downloadAsBytes bucket blob := (client.downloadAsBytes bucket blob).among
  uploadFromString bucket blob payload := (client.uploadFromString bucket blob payload).among

/-- What the client separates, it separates in every interleaving. -/
theorem GcsClient.Separates.among {client : GcsClient σ} {view : σ → ν}
    {sees : String × String → Prop} (h : client.Separates view sees) :
    (client.among : GcsClient (Among view)).Separates Among.seen sees where
  download bucket blob hsees := Op.among_respects (h.download bucket blob hsees)
  upload bucket blob payload hsees := Op.among_respects (h.upload bucket blob payload hsees)
  downloadHidden bucket blob hhidden := Op.among_keeps (h.downloadHidden bucket blob hhidden)
  uploadHidden bucket blob payload hhidden :=
    Op.among_keeps (h.uploadHidden bucket blob payload hhidden)

/-- A request to the client, at an object that it may reach. -/
inductive GcsClient.Request (client : GcsClient σ) (reaches : String × String → Prop) :
    (α : Type) → PyOp σ α → Prop
  | download {bucket blob : String} (h : reaches (bucket, blob)) :
    Request client reaches Bytes (client.downloadAsBytes bucket blob)
  | upload {bucket blob : String} (payload : Bytes) (h : reaches (bucket, blob)) :
    Request client reaches Unit (client.uploadFromString bucket blob payload)

section

variable [UnicodeData] {p : TenantPrefixPolicy} {client : GcsClient σ} {group : Identity → Prop}
  {view : σ → ν}

/-- The storage calls of a worker on a contract that passed the check are made of requests at
objects of its identity. -/
theorem ServiceRunner.Tenanted.requests {r : ServiceRunner σ P} (h : r.Tenanted p client)
    (hcolon : KeepsColon) (hreq : p.requireUserPathSegment = true)
    {reaches : String × String → Prop} {contract : BaseServiceContract P} {s : σ}
    (hcheck : (r.check contract s).result = .ok ())
    (howned : ∀ object, p.Owns contract.identity object → reaches object) :
    (∀ spec ∈ contract.inputs.toList, ∀ c,
        Op.MadeOf (client.Request reaches) _ (r.storage.read spec c)) ∧
      ∀ spec ∈ contract.outputs.toList, ∀ payload c,
        Op.MadeOf (client.Request reaches) _ (r.storage.write spec payload c) := by
  obtain ⟨codecs, hstorage⟩ := h.storage
  have hauth := h.authorized hcheck
  refine ⟨fun spec hspec c => ?_, fun spec hspec payload c => ?_⟩
  · exact hstorage.read_closed (Op.Closed.madeOf _) hcolon hreq
      (hauth _ (List.mem_append_left _ (List.mem_map_of_mem hspec)))
      (fun bucket blob howns => .one (.download (howned _ howns))) c
  · exact hstorage.write_closed (Op.Closed.madeOf _) hcolon hreq
      (hauth _ (List.mem_append_right _ (List.mem_map_of_mem hspec)))
      (fun bucket blob payload howns => .one (.upload payload (howned _ howns))) payload c

variable [Pydantic] [JsonText]

/-- **A run is, in every interleaving with the requests of others, the run it is alone; and the
requests of others' runs are what such an interleaving is made of.** -/
theorem isolated_in_any_interleaving (hcolon : KeepsColon) (hreq : p.requireUserPathSegment = true)
    (hgroup : ∀ a b, SameOwner a b → (group a ↔ group b))
    (hclient : client.Separates view (p.OwnedBy group)) {r : ServiceRunner (Among view) P}
    (hworker : r.Tenanted p client.among) (hports : r.AnswersFrom Among.seen) {raw : RawMessage}
    (hown : ∀ contract, r.Reads raw contract → group contract.identity) {s s' : σ}
    (hview : view s = view s') (elsewhere : List (Elsewhere view)) {other : ServiceRunner σ P'}
    (hother : other.Tenanted p client) :
    ((r.execute raw ⟨s, elsewhere⟩).result = (r.execute raw ⟨s', []⟩).result ∧
        (r.execute raw ⟨s, elsewhere⟩).trace = (r.execute raw ⟨s', []⟩).trace ∧
          view (r.execute raw ⟨s, elsewhere⟩).world.world =
            view (r.execute raw ⟨s', []⟩).world.world) ∧
      ∀ contract, ¬ group contract.identity → ∀ s, (other.check contract s).result = .ok () →
        (∀ spec ∈ contract.inputs.toList, ∀ c, Op.MadeOf
            (client.Request fun object => ¬ p.OwnedBy group object) _ (other.storage.read spec c)) ∧
          (∀ spec ∈ contract.outputs.toList, ∀ payload c, Op.MadeOf
            (client.Request fun object => ¬ p.OwnedBy group object) _
              (other.storage.write spec payload c)) ∧
            ∀ α op, client.Request (fun object => ¬ p.OwnedBy group object) α op →
              Op.Keeps view op := by
  refine ⟨?_, fun contract hforeign s hcheck => ?_⟩
  · have hstep := answered_by_group hcolon hreq hclient.among hworker hports hown ⟨s, elsewhere⟩
      ⟨s', []⟩ hview
    have htrace := hstep.marks
    rw [List.filterMap_some, List.filterMap_some] at htrace
    exact ⟨hstep.result.eq, htrace, hstep.world⟩
  · obtain ⟨hread, hwrite⟩ := hother.requests hcolon hreq hcheck
      fun object howns => hidden_of_owns hgroup hforeign howns
    refine ⟨hread, hwrite, fun α op hrequest => ?_⟩
    cases hrequest with
    | download hhidden => exact hclient.downloadHidden _ _ hhidden
    | upload payload hhidden => exact hclient.uploadHidden _ _ payload hhidden

end

/-! ## Two users of one bucket, at the same time -/

namespace Sample

/-- The objects of user 999. -/
def ofUser999 : String × String → Prop :=
  TenantPrefixPolicy.OwnedBy ⟨"gbt-storage", true⟩ fun identity => identity.userId.val = "999"

/-- What user 999 sees. -/
def seenBy999 (objects : GcsObjects) (k : {k // ofUser999 k}) : Option Bytes := objects k

/-- The input of user 7 is overwritten. -/
def overwritten (payload : Bytes) : Elsewhere seenBy999 where
  step objects := Store.put objects ("gbt-storage-grabatus", "user_7/in.xlsx") payload
  keeps objects := by
    refine (memoryGcsClient_separates ofUser999).uploadHidden "gbt-storage-grabatus"
      "user_7/in.xlsx" payload ?_ objects
    have howns : TenantPrefixPolicy.Owns ⟨"gbt-storage", true⟩
        ⟨⟨"7", by decide⟩, ⟨"grabatus", by decide⟩⟩ ("gbt-storage-grabatus", "user_7/in.xlsx") := by
      decide
    exact hidden_of_owns (fun a b h => by rw [h.1]) (by decide) howns

end Sample

section

attribute [local instance] UnicodeData.ascii Sample.pydantic Sample.jsonText

/-- Whether the contract of user 7 passes the check. -/
def Sample.neighbourPasses : Bool :=
  match Steps.validate Sample.neighbour ContractType.opaqueService with
  | .ok contract => decide (contract.identity.userId.val = "7") &&
      match (Sample.tenantWorker.check contract Sample.objects).result with
      | .ok () => true
      | .error _ => false
  | .error _ => false

/-- It does. -/
theorem Sample.neighbour_checked : ∃ contract : OpaqueServiceContract,
    contract.identity.userId.val = "7" ∧
      (Sample.tenantWorker.check contract Sample.objects).result = .ok () := by
  have hpasses : Sample.neighbourPasses = true := by decide +kernel
  unfold Sample.neighbourPasses at hpasses
  split at hpasses
  · rename_i contract hvalid
    obtain ⟨huser, hcheck⟩ := Bool.and_eq_true_iff.mp hpasses
    refine ⟨contract, of_decide_eq_true huser, ?_⟩
    split at hcheck
    · assumption
    · exact absurd hcheck Bool.false_ne_true
  · exact absurd hpasses Bool.false_ne_true

/-- A run of user 999 while the input of user 7 is overwritten twice makes the calls it makes alone,
and they are answered as they are then; and what a worker writes for user 7 is made of requests
that user 999 does not see. -/
theorem isolated_in_any_interleaving_sample :
    ((Sample.workerOver memoryGcsClient.among).execute ⟨ByteArray.empty⟩
        ⟨Sample.objects, [Sample.overwritten (encodeUtf8 "later"),
          Sample.overwritten ByteArray.empty]⟩).trace =
      ((Sample.workerOver memoryGcsClient.among).execute ⟨ByteArray.empty⟩
        (⟨Sample.objects, []⟩ : Among Sample.seenBy999)).trace ∧
    ∃ contract : OpaqueServiceContract, contract.identity.userId.val = "7" ∧
      (Sample.tenantWorker.check contract Sample.objects).result = .ok () ∧
      (∀ spec ∈ contract.outputs.toList, ∀ payload c, Op.MadeOf
        (memoryGcsClient.Request fun object => ¬ Sample.ofUser999 object) _
          (Sample.tenantWorker.storage.write spec payload c)) ∧
      ∀ α op, memoryGcsClient.Request (fun object => ¬ Sample.ofUser999 object) α op →
        Op.Keeps Sample.seenBy999 op := by
  have hcolon : KeepsColon := fun _ h => h
  have hisolated := isolated_in_any_interleaving (p := ⟨"gbt-storage", true⟩) hcolon rfl
    (fun a b h => by rw [h.1]) (memoryGcsClient_separates Sample.ofUser999)
    (Sample.worker_tenanted memoryGcsClient.among) (Sample.worker_answersFrom _ _)
    (fun _ (h : (Sample.workerOver memoryGcsClient.among).Reads ⟨ByteArray.empty⟩ _) =>
      Sample.reads_userId h)
    (s := Sample.objects) rfl
    [Sample.overwritten (encodeUtf8 "later"), Sample.overwritten ByteArray.empty]
    (Sample.worker_tenanted memoryGcsClient)
  obtain ⟨contract, huser, hcheck⟩ := Sample.neighbour_checked
  have hforeign : ¬ contract.identity.userId.val = "999" := by
    rw [huser]
    decide
  obtain ⟨-, hwrites, hkeeps⟩ := hisolated.2 contract hforeign Sample.objects hcheck
  exact ⟨hisolated.1.2.1, contract, huser, hcheck, hwrites, hkeeps⟩

end

end Grabatus

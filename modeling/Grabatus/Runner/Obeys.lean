import Grabatus.Runner.Alike

/-!
# What the calls of a run do, the run does

Over `runner/runner.py`. A relation between the world before a run, its calls and the world after,
of the kind that composes: nothing but some calls changed a view, each call cost so much, a view
is what the calls make of it. **It holds of every run as soon as it holds of every call a run can
make** (`execute_obeys`); and the storage is called at the specs of a contract that passed the
check only (`StorageObeys`).
-/

namespace Grabatus

open Grabatus.Lib Grabatus.Lib.Traced Grabatus.Python

variable [UnicodeData] {σ P : Type}

namespace ServiceRunner

/-- The calls of a `try` block to every port but the storage are related; a receiver is the one
that dispatches. -/
structure BlockObeys (r : ServiceRunner σ P) (R : σ → List (Event P) → σ → Prop) : Prop where
  decode : ∀ raw, Obeys R (call (r.message.decode raw) (.decode raw))
  authorize : ∀ uri identity,
    Obeys R (call (r.authorizer.authorize uri identity) (.authorize uri identity))
  resolve : ∀ ref, Obeys R (call (r.secrets.resolve ref) (.resolve ref))
  now : Obeys R (call r.clock.now .now)
  run : ∀ inputs parameters context, Obeys R
    (call (r.compute.run inputs parameters context) (.run inputs parameters context))
  notify : ∀ callback payload,
    Obeys R (call (r.webhook.notify callback payload) (.notify callback payload))
  dispatch : r.mode = .receiver → ∀ job payload requestId, Obeys R
    (call (r.jobDispatcher.dispatch job payload requestId) (.dispatch job payload requestId))

/-- The calls around the block are related as well. -/
structure CallsObey (r : ServiceRunner σ P) (R : σ → List (Event P) → σ → Prop) : Prop
    extends r.BlockObeys R where
  enter : ∀ span tags, Obeys R (call (r.observability.enter span tags) (.enter span tags))
  exit : ∀ span, Obeys R (call (r.observability.exit span) (.exit span))
  metric : ∀ name value tags,
    Obeys R (call (r.observability.metric name value tags) (.metric name value tags))

/-- The calls to the storage are, at the specs of the contract. -/
structure StorageObeys (r : ServiceRunner σ P) (R : σ → List (Event P) → σ → Prop)
    (contract : BaseServiceContract P) : Prop where
  read : ∀ spec ∈ contract.inputs.toList, ∀ c,
    Obeys R (call (r.storage.read spec c) (.read spec c))
  write : ∀ spec ∈ contract.outputs.toList, ∀ payload c,
    Obeys R (call (r.storage.write spec payload c) (.write spec payload c))

variable {r : ServiceRunner σ P} {R : σ → List (Event P) → σ → Prop}
  {contract : BaseServiceContract P}

/-! ## The stretches -/

theorem check_obeys (hR : Composes R) (h : r.BlockObeys R) (contract : BaseServiceContract P) :
    Obeys R (r.check contract) := by
  unfold check
  rw [Steps.authorize_eq_each]
  exact hR.bind (hR.lift _) fun _ => hR.each (fun uri =>
    hR.bind (hR.lift _) fun _ => h.authorize uri _) _

theorem prepare_obeys (hR : Composes R) (h : r.BlockObeys R)
    (hstorage : r.StorageObeys R contract) : Obeys R (r.prepare contract) := by
  have hresolve : ∀ ref, Obeys R (Steps.resolveRef r.secrets ref : Step σ P Credentials)
    | none => hR.pure _
    | some ref => h.resolve ref
  refine hR.bind ?_ fun credentials => hR.bind ?_ fun inputs => ?_
  · exact hR.bind (hR.collectInto fun _ _ => hresolve _) fun _ =>
      hR.bind (hR.collectInto fun _ _ => hresolve _) fun _ => hR.pure _
  · refine hR.bind (hR.collectInto fun spec hspec => ?_) fun _ => hR.pure _
    exact hR.bind (hR.lift _) fun c => hstorage.read spec hspec c
  · exact hR.bind (hR.bind h.now fun _ => hR.pure _) fun _ => hR.pure _

theorem publish_obeys (hR : Composes R) (h : r.BlockObeys R) (hstorage : r.StorageObeys R contract)
    (produced : Produced) : Obeys R (r.publish contract produced) := by
  refine hR.bind ?_ fun receipts => hR.bind (h.notify _ _) fun _ => hR.pure _
  refine hR.bind (hR.collectInto fun spec hspec => ?_) fun _ => hR.pure _
  exact hR.bind (hR.lift _) fun payload => hR.bind (hR.lift _) fun c =>
    hstorage.write spec hspec payload c

variable [Pydantic]

/-- Serving a contract; nothing is asked of one that does not pass the check. -/
theorem serve_obeys (hR : Composes R) (h : r.BlockObeys R) (contract : BaseServiceContract P)
    (hstorage : ∀ s, (r.check contract s).result = .ok () → r.StorageObeys R contract) :
    Obeys R (r.serve contract) := by
  refine hR.bind_ok (check_obeys hR h contract) fun _ s s' t hcheck => ?_
  have hat := hstorage s (by rw [hcheck])
  refine hR.bind ?_ fun produced => publish_obeys hR h hat produced
  exact hR.bind (prepare_obeys hR h hat) fun _ => hR.bind (h.run _ _ _) fun _ =>
    hR.bind (hR.lift _) fun _ => hR.pure _

/-! ## A whole run -/

variable [JsonText]

theorem rest_obeys (hR : Composes R) (h : r.BlockObeys R) (contract : BaseServiceContract P)
    (hstorage : ∀ s, (r.check contract s).result = .ok () → r.StorageObeys R contract) :
    Obeys R (r.rest contract) := by
  unfold rest
  split
  · rename_i hmode
    exact hR.bind (check_obeys hR h contract) fun _ => hR.bind (hR.lift _) fun _ =>
      hR.bind (hR.lift _) fun _ => hR.bind (h.dispatch hmode _ _ _) fun _ => hR.pure _
  · exact serve_obeys hR h contract hstorage

theorem tryBlock_obeys (hR : Composes R) (h : r.BlockObeys R) {raw : RawMessage}
    (hstorage : ∀ contract, r.Reads raw contract → ∀ s, (r.check contract s).result = .ok () →
      r.StorageObeys R contract) : Obeys R (r.tryBlock raw r.rest) := by
  refine hR.bind_ok (hR.bind (h.decode raw) fun _ => hR.lift _) fun contract s s' t hreceive => ?_
  have hreads : r.Reads raw contract := ⟨s, s', t, Traced.mapError_ok.mp hreceive⟩
  exact rest_obeys hR h contract (hstorage contract hreads)

/-- **A run obeys what its calls obey.** -/
theorem execute_obeys (hR : Composes R) (h : r.CallsObey R) {raw : RawMessage}
    (hstorage : ∀ contract, r.Reads raw contract → ∀ s, (r.check contract s).result = .ok () →
      r.StorageObeys R contract) : Obeys R (r.execute raw) := by
  refine hR.within (h.enter _ _) (h.exit _) ?_
  rw [branch_eq_handle]
  refine hR.handle (tryBlock_obeys hR h.toBlockObeys hstorage) fun failure => ?_
  rcases failure with ⟨requestId, error | ⟨cls, message⟩⟩
  · exact hR.bind (h.metric _ _ _) fun _ => hR.pure _
  · exact hR.lift _

end ServiceRunner

end Grabatus

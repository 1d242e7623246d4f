import Grabatus.Receiver.Runner
import Grabatus.Runner.Confined

/-!
# A view of the world that a delivery leaves alone

Over `receiver/runner.py`. The shared receiver touches neither inputs nor outputs: **a delivery
leaves a view of the world as it was as soon as none of the receiver's ports touches it**
(`execute_keeps`), whatever the body is, whatever the ports reply and wherever the run stops.
-/

namespace Grabatus

open Grabatus.Lib Grabatus.Lib.Traced Grabatus.Python

variable [UnicodeData] {σ ν : Type}

namespace SharedReceiverRunner

/-- No port the `try` block calls touches the view. -/
structure BlockKeeps (r : SharedReceiverRunner σ) (view : σ → ν) : Prop where
  decode : ∀ raw, Op.Keeps view (r.message.decode raw)
  authorize : ∀ uri identity, Op.Keeps view (r.authorizer.authorize uri identity)
  dispatch : ∀ job payload requestId, Op.Keeps view (r.jobDispatcher.dispatch job payload requestId)

/-- No port touches the view. -/
structure KeepsAround (r : SharedReceiverRunner σ) (view : σ → ν) : Prop
    extends r.BlockKeeps view where
  enter : ∀ span tags, Op.Keeps view (r.observability.enter span tags)
  exit : ∀ span, Op.Keeps view (r.observability.exit span)
  metric : ∀ name value tags, Op.Keeps view (r.observability.metric name value tags)

variable [Pydantic] [JsonText] {r : SharedReceiverRunner σ} {view : σ → ν}

theorem frames_tryBlock (h : r.BlockKeeps view) (raw : RawMessage) :
    Frames (fun _ => False) view (r.tryBlock raw) := by
  refine (Frames.mapError ?_ _).bind fun contract => Frames.mapError ?_ _
  · exact (ServiceRunner.frames_call (h.decode raw) _).bind fun _ => Frames.lift _ _ _
  · unfold route
    rw [Steps.authorize_eq_each]
    refine (Frames.each (fun uri => ?_) _).bind fun _ => (Frames.lift _ _ _).bind fun job => ?_
    · exact (Frames.lift _ _ _).bind fun _ => ServiceRunner.frames_call (h.authorize uri _) _
    · exact (Frames.lift _ _ _).bind fun _ =>
        (ServiceRunner.frames_call (h.dispatch job _ _) _).bind fun _ => Frames.pure _ _ _

/-- The `try` block of a delivery leaves the view as it was. -/
theorem tryBlock_keeps (h : r.BlockKeeps view) (raw : RawMessage) (s : σ) :
    view (r.tryBlock raw s).world = view s := frames_tryBlock h raw s fun _ _ => id

/-- **A delivery leaves the view as it was.** -/
theorem execute_keeps (h : r.KeepsAround view) (raw : RawMessage) (s : σ) :
    view (r.execute raw s).world = view s := by
  have hR := Frames.composes (E := Event OpaqueParameters) (fun _ => False) view
  have hrun : Frames (fun _ => False) view (r.execute raw) := by
    refine hR.within (ServiceRunner.frames_call (h.enter _ _) _)
      (ServiceRunner.frames_call (h.exit _) _) ?_
    refine hR.handle (frames_tryBlock h.toBlockKeeps raw) fun failure => ?_
    rcases failure with ⟨requestId, error | ⟨cls, message⟩⟩
    · exact (ServiceRunner.frames_call (h.metric _ _ _) _).bind fun _ => Frames.pure _ _ _
    · exact hR.lift _
  exact hrun s fun _ _ => id

end SharedReceiverRunner

end Grabatus

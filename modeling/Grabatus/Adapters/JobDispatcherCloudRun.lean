import Grabatus.Adapters.MessagePubsub
import Grabatus.Adapters.Retry

/-!
# `CloudRunJobsDispatcher`

Model of `adapters/job_dispatcher_cloud_run.py`. The dispatcher that starts a worker: one call of
the Cloud Run Jobs API, with the contract and the `request_id` as environment of the execution.

Out of scope: the lazy construction of the client, and the execution itself, of which the client
returns the name.
-/

namespace Grabatus

open Grabatus.Lib Grabatus.Python

variable {σ : Type}

/-- `run_v2.RunJobRequest`: the job, and the environment its one container override sets. -/
structure RunJobRequest where
  name : String
  env : List (String × String)
  deriving DecidableEq

/-- `run_v2.JobsClient`: `connect` is what `_get_client` does, which builds the client when there
is none yet, and `runJob` is `run_job`, which returns the name of the execution it started. -/
structure JobsClient (σ : Type) where
  connect : PyOp σ Unit
  runJob : RunJobRequest → PyOp σ String

/-- `CloudRunJobsDispatcher`. -/
structure CloudRunJobsDispatcher (σ : Type) where
  projectId : String
  region : String
  client : JobsClient σ

namespace CloudRunJobsDispatcher

variable (d : CloudRunJobsDispatcher σ)

/-- `full_job_name`. -/
def fullJobName (jobName : String) : String :=
  "projects/" ++ d.projectId ++ "/locations/" ++ d.region ++ "/jobs/" ++ jobName

/-- The request for one execution. -/
def request (jobName payload : String) (requestId : UUID) : RunJobRequest where
  name := d.fullJobName jobName
  env := [("GBT_JOB_PAYLOAD", payload), ("GBT_JOB_REQUEST_ID", requestId.str)]

/-- `self._get_client().run_job(request=request)`. -/
def runJob (request : RunJobRequest) : PyOp σ String := do
  d.client.connect
  d.client.runJob request

variable [UnicodeData]

/-- The `except` clauses of `dispatch`. -/
def runJobError (fullJobName : String) (exc : PyException) : PyException :=
  if exc.isA retriableGoogleErrors then exc
  else if exc.isA [.googleApiError] then
    serviceError .computeError ("CloudRunJobsDispatcher: run_job failed for job_name=" ++
      pyRepr fullJobName ++ ": " ++ exc.str)
  else exc

/-- One attempt of `dispatch`. -/
def attempt (jobName : String) (payload : Bytes) (requestId : UUID) : PyOp σ DispatchedJob := do
  let text ← Op.ofExcept (decodeStrict payload)
  let jobId ← Op.mapError (runJobError (d.fullJobName jobName))
    (d.runJob (d.request jobName text requestId))
  return { jobId, requestId }

/-- `CloudRunJobsDispatcher.dispatch`. -/
def dispatch (jobName : String) (payload : Bytes) (requestId : UUID) : PyOp σ DispatchedJob :=
  withRetry retriableGoogleErrors (d.attempt jobName payload requestId)

/-- **A dispatch does what calls of the client do**, all of them for one request. -/
theorem dispatch_closed {Q : (α : Type) → PyOp σ α → Prop} (hQ : Op.Closed Q) {jobName : String}
    {payload : Bytes} {requestId : UUID} (hconnect : Q _ d.client.connect)
    (hrun : ∀ text, decodeStrict payload = .ok text →
      Q _ (d.client.runJob (d.request jobName text requestId))) :
    Q _ (d.dispatch jobName payload requestId) := by
  refine hQ.retry _ _ ?_
  unfold attempt
  rcases htext : decodeStrict payload with e | text
  · rw [Op.ofExcept_error_bind]
    exact hQ.ofExcept _
  · rw [Op.ofExcept_ok_bind]
    refine hQ.bind (hQ.mapError _ (hQ.bind hconnect fun _ => hrun text htext)) fun jobId => ?_
    exact hQ.ofExcept (.ok _)

/-- The dispatcher as a port. -/
def port : JobDispatcherPort σ where
  dispatch := d.dispatch

end CloudRunJobsDispatcher

end Grabatus

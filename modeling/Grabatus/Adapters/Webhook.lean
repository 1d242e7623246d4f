import Grabatus.Adapters.Httpx

/-!
# `JwtWebhookNotifier`

Model of `adapters/webhook.py` and of `encode_hs256` (`security/jwt_helpers.py`). The notifier
signs the payload and posts it to the callback's URL, up to three times while the transport fails
in a retriable way. **It returns iff the platform acknowledges** (`notify_ok_iff`): the payload
could be signed, and the first answer it got is a 2xx.

Out of scope: the signature, which is a parameter.
-/

namespace Grabatus

open Grabatus.Lib Grabatus.Python

variable {σ : Type}

/-- `_MIN_SECRET_BYTES`. -/
def minSecretBytes : Nat := 32

/-- `JwtWebhookNotifier`; `jwtEncode` is `jwt.encode(..., algorithm="HS256")`, `otelInject` what
OpenTelemetry adds to the headers. -/
structure JwtWebhookNotifier (σ : Type) where
  signingSecret : Bytes
  client : HttpClient σ
  timeoutSeconds : Double
  jwtEncode : JsonObject → Bytes → Except PyException String
  otelInject : Headers → Headers

namespace JwtWebhookNotifier

variable (n : JwtWebhookNotifier σ)

/-- `encode_hs256`. -/
def encodeHs256 (payload : JsonObject) : Except PyException String :=
  if n.signingSecret.size < minSecretBytes then
    .error (valueError ("HS256 secret must be at least " ++ toString minSecretBytes ++
      " bytes, got len=" ++ toString n.signingSecret.size))
  else n.jwtEncode payload n.signingSecret

/-- The headers of the request. -/
def headers (token : String) : Headers :=
  n.otelInject ((Dict.empty.set "Authorization" ("Bearer " ++ token)).set "Content-Type"
    "application/json")

/-- The request of one attempt. -/
def post (callback : Callback) (payload : JsonObject) (token : String) : PyOp σ HttpResponse :=
  n.client.post callback.url.text (.obj payload) (n.headers token) n.timeoutSeconds

section

variable [UnicodeData]

/-- What `notify` makes of a response. -/
def ack (url : String) (response : HttpResponse) : Except PyException WebhookAck :=
  if response.statusCode = 401 ∨ response.statusCode = 403 then
    .error (serviceError .webhookAuthError ("Webhook url=" ++ pyRepr url ++
      " rejected JWT (status=" ++ toString response.statusCode ++ ")"))
  else if response.isSuccess then .ok ⟨response.statusCode, response.text⟩
  else .error (serviceError .webhookError ("Webhook url=" ++ pyRepr url ++
    " returned non-2xx status=" ++ toString response.statusCode))

/-- One attempt of `notify`. -/
def attempt (callback : Callback) (payload : JsonObject) : PyOp σ WebhookAck := do
  let token ← Op.ofExcept (n.encodeHs256 payload)
  let response ← Op.mapError
    (httpError .webhookError ("Webhook POST to url=" ++ pyRepr callback.url.text ++ " failed: "))
    (n.post callback payload token)
  Op.ofExcept (ack callback.url.text response)

/-- `JwtWebhookNotifier.notify`. -/
def notify (callback : Callback) (payload : JsonObject) : PyOp σ WebhookAck :=
  withRetry retriableHttpErrors (n.attempt callback payload)

/-- The notifier as a webhook port. -/
def port : WebhookPort σ where
  notify := n.notify

end

/-! ## When `notify` returns -/

/-- From world `s` on, the platform acknowledges: the payload can be signed, and the first of the
three requests that does not fail in a retriable way is answered with a 2xx. -/
def Acknowledged (callback : Callback) (payload : JsonObject) (s : σ) : Prop :=
  ∃ token, n.encodeHs256 payload = .ok token ∧
    ∃ k ≤ 2, (∀ i < k, Op.Retried (PyException.isA retriableHttpErrors)
        (Op.outcome (n.post callback payload token) i s)) ∧
      ∃ response, Op.outcome (n.post callback payload token) k s = .ok response ∧
        response.isSuccess = true

variable [UnicodeData] {n} {callback : Callback} {payload : JsonObject} {s : σ}

/-- What one attempt makes of the outcome of its request. -/
def judge (url : String) : Except PyException HttpResponse → Except PyException WebhookAck
  | .ok response => ack url response
  | .error exc =>
    .error (httpError .webhookError ("Webhook POST to url=" ++ pyRepr url ++ " failed: ") exc)

theorem attempt_of_token {token : String} (htoken : n.encodeHs256 payload = .ok token) (s : σ) :
    n.attempt callback payload s = (judge callback.url.text (n.post callback payload token s).1,
      (n.post callback payload token s).2) := by
  unfold attempt
  rw [htoken, Op.ofExcept_ok_bind, Op.run_bind]
  unfold Op.mapError
  rcases n.post callback payload token s with ⟨e | response, s'⟩
  · rfl
  · rfl

theorem isServiceError_of_ack {url : String} {response : HttpResponse} {e : PyException}
    (h : ack url response = .error e) : e.isServiceError = true := by
  unfold ack at h
  split at h
  · obtain rfl := Except.error.inj h
    rfl
  · split at h
    · exact absurd h nofun
    · obtain rfl := Except.error.inj h
      rfl

theorem ack_eq_ok {url : String} {response : HttpResponse} :
    (∃ a, ack url response = .ok a) ↔ response.isSuccess = true := by
  unfold ack
  by_cases hauth : response.statusCode = 401 ∨ response.statusCode = 403
  · have hnot : ¬ response.isSuccess = true := by
      unfold HttpResponse.isSuccess
      rw [decide_eq_true_eq]
      omega
    rw [if_pos hauth]
    exact ⟨fun ⟨_, h⟩ => absurd h nofun, fun h => absurd h hnot⟩
  · rw [if_neg hauth]
    by_cases hsuccess : response.isSuccess = true
    · rw [if_pos hsuccess]
      exact ⟨fun _ => hsuccess, fun _ => ⟨_, rfl⟩⟩
    · rw [if_neg hsuccess]
      exact ⟨fun ⟨_, h⟩ => absurd h nofun, fun h => absurd h hsuccess⟩

/-- A retriable failure of the request is one of the attempt, and nothing else is. -/
theorem retried_judge {url : String} {r : Except PyException HttpResponse} :
    Op.Retried (PyException.isA retriableHttpErrors) (judge url r) ↔
      Op.Retried (PyException.isA retriableHttpErrors) r := by
  rcases r with exc | response
  · simp only [Op.Retried, judge, Except.error.injEq, exists_eq_left', isA_httpError]
  · constructor
    · rintro ⟨e, he, hret⟩
      rw [isA_of_isServiceError (isServiceError_of_ack he)] at hret
      exact absurd hret nofun
    · rintro ⟨_, h, -⟩
      exact absurd h nofun

/-- **`notify` returns iff the platform acknowledges.** -/
theorem notify_ok_iff :
    (∃ a, (n.notify callback payload s).1 = .ok a) ↔ n.Acknowledged callback payload s := by
  have hretry : (∃ a, (n.notify callback payload s).1 = .ok a) ↔ ∃ k ≤ 2,
      (∀ i < k, Op.Retried (PyException.isA retriableHttpErrors)
        (Op.outcome (n.attempt callback payload) i s)) ∧
      ∃ a, Op.outcome (n.attempt callback payload) k s = .ok a :=
    Op.retry_iff (Q := fun r => ∃ a, r = .ok a) (fun _ _ => nofun) 2 s
  rw [hretry]
  unfold Acknowledged
  rcases htoken : n.encodeHs256 payload with e | token
  · have hfails : ∀ s, n.attempt callback payload s = (.error e, s) := by
      intro s
      unfold attempt
      rw [htoken]
      rfl
    constructor
    · rintro ⟨k, -, -, a, ha⟩
      unfold Op.outcome at ha
      rw [hfails] at ha
      exact absurd ha nofun
    · rintro ⟨_, h, -⟩
      exact absurd h nofun
  · have hattempt : ∀ s, n.attempt callback payload s = _ := attempt_of_token htoken
    have houtcome := Op.outcome_of_judged hattempt
    simp only [houtcome, retried_judge, Except.ok.injEq, exists_eq_left']
    refine exists_congr fun k => and_congr_right fun _ => and_congr_right fun _ => ?_
    rcases Op.outcome (n.post callback payload token) k s with e | response
    · exact ⟨fun ⟨_, h⟩ => absurd h nofun, fun ⟨_, h, _⟩ => absurd h nofun⟩
    · simp only [Except.ok.injEq, exists_eq_left']
      exact ack_eq_ok

end JwtWebhookNotifier

end Grabatus

import Grabatus.Adapters.HttpComputeBackend
import Grabatus.Adapters.JobDispatcherCloudRun
import Grabatus.Adapters.SecretsGsm
import Grabatus.Adapters.StorageCompressed
import Grabatus.Adapters.StorageHttp
import Grabatus.Adapters.Webhook

/-!
# Which exceptions the adapters let out

Over the adapters of `adapters/` that the pipeline calls. An adapter's operation asks its client
up to three times and translates what the client raises: the retriable errors pass (for the retry
wrapper to see), the others of the client library become service errors. **So what comes out is a
service error iff the first answer that is not retried is translated** (`typed_withRetry_iff`):
three retriable errors in a row come out as they are, and so does whatever none of the `except`
clauses names.

`AdapterCall` lists the operations of the pipeline, `AdapterCall.Contained` says for each of them
which clients and arguments keep a foreign exception in, and `AdapterCall.contained_iff` that it is
exactly those.

Out of scope: exceptions that are no `Exception`, such as a `KeyboardInterrupt`.
-/

namespace Grabatus

open Grabatus.Lib Grabatus.Python

variable {σ P α β : Type}

/-- It returned, or raised a service error. -/
def Typed (r : Except PyException α) : Prop := ∀ e, r = .error e → e.isServiceError = true

@[simp] theorem typed_ok (a : α) : Typed (.ok a : Except PyException α) := fun _ => nofun

@[simp] theorem typed_error {e : PyException} :
    Typed (.error e : Except PyException α) ↔ e.isServiceError = true :=
  ⟨fun h => h e rfl, fun h _ he => Except.error.inj he ▸ h⟩

theorem typed_serviceError (kind : ErrorKind) (message : String) :
    Typed (.error (serviceError kind message) : Except PyException α) := typed_error.mpr rfl

/-- Its failure is a service error, and what it returned satisfies `p`. -/
def Then (r : Except PyException α) (p : α → Prop) : Prop := Typed r ∧ ∀ a, r = .ok a → p a

@[simp] theorem then_ok {a : α} {p : α → Prop} : Then (.ok a) p ↔ p a :=
  ⟨fun h => h.2 a rfl, fun h => ⟨typed_ok a, fun _ ha => Except.ok.inj ha ▸ h⟩⟩

@[simp] theorem then_error {e : PyException} {p : α → Prop} :
    Then (.error e) p ↔ e.isServiceError = true :=
  ⟨fun h => typed_error.mp h.1, fun h => ⟨typed_error.mpr h, fun _ => nofun⟩⟩

theorem typed_bind {r : Except PyException α} {f : α → Except PyException β} :
    Typed (r >>= f) ↔ Then r fun a => Typed (f a) := by
  rcases r with e | a
  · simp [bind, Except.bind]
  · simp [bind, Except.bind]

/-- The client's answer satisfies `p`, or its error is one that `except caught` translates after
`except retryOn: raise`. -/
def Handled (retryOn caught : List ExceptionClass) (p : α → Prop) : Except PyException α → Prop
  | .ok a => p a
  | .error e => e.isServiceError = true ∨ (e.isA retryOn = false ∧ e.isA caught = true)

/-- Of up to three outcomes of a call, the first that is not `again` is `good`. -/
def FirstAnswer (again good : Except PyException α → Prop) (call : PyOp σ α) (s : σ) : Prop :=
  ∃ k ≤ 2, (∀ i < k, again (Op.outcome call i s)) ∧ good (Op.outcome call k s)

/-! ## A retried attempt -/

/-- What is retried is no service error. -/
theorem not_typed_of_retried {retryOn : List ExceptionClass} {e : PyException}
    (h : e.isA retryOn = true) : ¬ Typed (.error e : Except PyException α) := by
  intro htyped
  rw [isA_of_isServiceError (typed_error.mp htyped)] at h
  exact absurd h nofun

/-- **A retried operation lets no foreign exception out iff the first outcome of its call that it
does not try again is one it handles.** -/
theorem typed_withRetry_iff {retryOn : List ExceptionClass} {attempt : PyOp σ β} {call : PyOp σ α}
    {judge : Except PyException α → Except PyException β} {again good : Except PyException α → Prop}
    (hattempt : ∀ s, attempt s = (judge (call s).1, (call s).2))
    (hagain : ∀ r, Op.Retried (PyException.isA retryOn) (judge r) ↔ again r)
    (hgood : ∀ r, Typed (judge r) ↔ good r) (s : σ) :
    Typed (withRetry retryOn attempt s).1 ↔ FirstAnswer again good call s := by
  refine (Op.retry_iff (Q := Typed) (fun e => not_typed_of_retried) 2 s).trans ?_
  have houtcome := Op.outcome_of_judged hattempt
  simp only [houtcome, hagain, hgood]
  rfl

/-- An attempt that fails before its call fails each time. -/
theorem withRetry_fail (retryOn : List ExceptionClass) (e : PyException) (s : σ) :
    withRetry retryOn (Op.fail e : PyOp σ α) s = (.error e, s) := by
  have hstep : ∀ n, Op.retry (PyException.isA retryOn) n (Op.fail e : PyOp σ α) s =
      (.error e, s) := by
    intro n
    induction n with
    | zero => rfl
    | succ n ih =>
      by_cases hret : e.isA retryOn = true
      · rw [Op.retry_again n (Op.run_fail e s) hret, ih]
      · refine Op.retry_done (n + 1) ?_
        rintro ⟨e', he', hret'⟩
        obtain rfl := Except.error.inj he'
        exact hret hret'
  exact hstep 2

/-- The part of an attempt before its call. -/
theorem typed_withRetry_bind {retryOn : List ExceptionClass} (r : Except PyException α)
    (f : α → PyOp σ β) (s : σ) :
    Typed (withRetry retryOn (Op.ofExcept r >>= f) s).1 ↔
      Then r fun a => Typed (withRetry retryOn (f a) s).1 := by
  rcases r with e | a
  · rw [Op.ofExcept_error_bind, withRetry_fail, then_error, typed_error]
  · rw [Op.ofExcept_ok_bind, then_ok]

/-! ## A translated call -/

/-- The `except` clauses translate the errors that `caught` catches and `retryOn` does not, and
nothing else. -/
structure Translates (retryOn caught : List ExceptionClass)
    (translate : PyException → PyException) : Prop where
  isA : ∀ e, (translate e).isA retryOn = e.isA retryOn
  isServiceError : ∀ e, (translate e).isServiceError = true ↔
    e.isServiceError = true ∨ (e.isA retryOn = false ∧ e.isA caught = true)

/-- `except retryOn: raise`, then `except caught as exc: raise error(exc)`. -/
theorem Translates.of_clauses {retryOn caught : List ExceptionClass}
    {translate error : PyException → PyException} (herror : ∀ e, (error e).isServiceError = true)
    (hclauses : ∀ e, translate e =
      if e.isA retryOn then e else if e.isA caught then error e else e) :
    Translates retryOn caught translate := by
  refine ⟨fun e => ?_, fun e => ?_⟩
  · rw [hclauses e]
    by_cases hret : e.isA retryOn = true
    · rw [if_pos hret]
    · rw [if_neg hret]
      by_cases hcaught : e.isA caught = true
      · rw [if_pos hcaught, isA_of_isServiceError (herror e), Bool.not_eq_true _ |>.mp hret]
      · rw [if_neg hcaught]
  · rw [hclauses e]
    by_cases hret : e.isA retryOn = true
    · rw [if_pos hret]
      exact ⟨.inl, fun h => h.elim id fun h' => absurd (h'.1.symm.trans hret) nofun⟩
    · rw [if_neg hret]
      by_cases hcaught : e.isA caught = true
      · rw [if_pos hcaught]
        exact ⟨fun _ => .inr ⟨Bool.not_eq_true _ |>.mp hret, hcaught⟩, fun _ => herror e⟩
      · rw [if_neg hcaught]
        exact ⟨.inl, fun h => h.elim id fun h' => absurd h'.2 hcaught⟩

/-- What an attempt makes of the outcome of its call. -/
def judge (translate : PyException → PyException) (post : α → Except PyException β) :
    Except PyException α → Except PyException β
  | .ok a => post a
  | .error e => .error (translate e)

theorem translated_attempt (translate : PyException → PyException) (call : PyOp σ α)
    (post : α → Except PyException β) (s : σ) :
    (do
      let a ← Op.mapError translate call
      Op.ofExcept (post a) : PyOp σ β) s = (judge translate post (call s).1, (call s).2) := by
  rw [Op.run_bind]
  unfold Op.mapError
  rcases call s with ⟨e | a, s'⟩
  · rfl
  · rfl

/-- A judged outcome is retried where the call's was, or where the judgement fails so. -/
theorem Translates.retried_judge {retryOn caught : List ExceptionClass}
    {translate : PyException → PyException} (h : Translates retryOn caught translate)
    (post : α → Except PyException β) (r : Except PyException α) :
    Op.Retried (PyException.isA retryOn) (judge translate post r) ↔
      Op.Retried (PyException.isA retryOn) r ∨
        ∃ a, r = .ok a ∧ Op.Retried (PyException.isA retryOn) (post a) := by
  rcases r with e | a
  · simp [Op.Retried, judge, h.isA]
  · simp [Op.Retried, judge]

/-- **A translated call whose answer is then judged**: it is tried again after a retriable error,
of the call or of the judgement, and it lets no foreign exception out iff the first other outcome
is handled. -/
theorem Translates.typed_iff {retryOn caught : List ExceptionClass}
    {translate : PyException → PyException} (h : Translates retryOn caught translate)
    (call : PyOp σ α) (post : α → Except PyException β) (s : σ) :
    Typed (withRetry retryOn (do
      let a ← Op.mapError translate call
      Op.ofExcept (post a)) s).1 ↔
      FirstAnswer (fun r => Op.Retried (PyException.isA retryOn) r ∨
        ∃ a, r = .ok a ∧ Op.Retried (PyException.isA retryOn) (post a))
        (Handled retryOn caught fun a => Typed (post a)) call s := by
  refine typed_withRetry_iff (translated_attempt translate call post) (h.retried_judge post)
    (fun r => ?_) s
  rcases r with e | a
  · exact typed_error.trans (h.isServiceError e)
  · exact Iff.rfl

/-- The same where the judgement lets nothing foreign out. -/
theorem Translates.typed_iff_of_typed {retryOn caught : List ExceptionClass}
    {translate : PyException → PyException} (h : Translates retryOn caught translate)
    (call : PyOp σ α) {post : α → Except PyException β} (hpost : ∀ a, Typed (post a)) (s : σ) :
    Typed (withRetry retryOn (do
      let a ← Op.mapError translate call
      Op.ofExcept (post a)) s).1 ↔
      FirstAnswer (Op.Retried (PyException.isA retryOn)) (Handled retryOn caught fun _ => True)
        call s := by
  have hagain : ∀ r : Except PyException α, (Op.Retried (PyException.isA retryOn) r ∨
      ∃ a, r = .ok a ∧ Op.Retried (PyException.isA retryOn) (post a)) ↔
        Op.Retried (PyException.isA retryOn) r := by
    intro r
    refine ⟨fun hr => hr.elim id ?_, .inl⟩
    rintro ⟨a, -, e, he, hret⟩
    exact absurd (he ▸ hpost a) (not_typed_of_retried hret)
  have hposts : (fun a => Typed (post a)) = fun _ => True := funext fun a => eq_true (hpost a)
  rw [h.typed_iff call post s, hposts, funext fun r => propext (hagain r)]

/-- The same for a call whose answer is passed on. -/
theorem Translates.typed_iff_self {retryOn caught : List ExceptionClass}
    {translate : PyException → PyException} (h : Translates retryOn caught translate)
    (call : PyOp σ α) (s : σ) :
    Typed (withRetry retryOn (Op.mapError translate call) s).1 ↔
      FirstAnswer (Op.Retried (PyException.isA retryOn)) (Handled retryOn caught fun _ => True)
        call s := by
  have hself : (do
      let a ← Op.mapError translate call
      Op.ofExcept (.ok a) : PyOp σ α) = Op.mapError translate call := by
    funext s
    rw [Op.run_bind]
    rcases Op.mapError translate call s with ⟨e | a, s'⟩
    · rfl
    · rfl
  rw [← h.typed_iff_of_typed call typed_ok s, hself]

/-! ## The clauses of the adapters -/

/-- `NotFound` is a `GoogleAPIError`. -/
theorem googleApiError_of_notFound {e : PyException} (h : e.isA [.googleNotFound] = true) :
    e.isA [.googleApiError] = true := by
  rcases e with error | ⟨cls, message⟩
  · exact absurd h nofun
  · cases cls <;> first | rfl | exact absurd h nofun

theorem translates_httpError (kind : ErrorKind) (text : String) :
    Translates retriableHttpErrors [.httpxHttpError] (httpError kind text) :=
  .of_clauses (fun _ => rfl) fun _ => rfl

/-- A clause for `NotFound` before the one for `GoogleAPIError`. -/
theorem translates_notFound {notFound : PyException} {error : PyException → PyException}
    (hnotFound : notFound.isServiceError = true) (herror : ∀ e, (error e).isServiceError = true) :
    Translates retriableGoogleErrors [.googleApiError] fun e =>
      if e.isA retriableGoogleErrors then e
      else if e.isA [.googleNotFound] then notFound
      else if e.isA [.googleApiError] then error e
      else e := by
  have hservice : ∀ e : PyException,
      (if e.isA [.googleNotFound] then notFound else error e).isServiceError = true := by
    intro e
    split
    · exact hnotFound
    · exact herror e
  refine .of_clauses hservice fun e => ?_
  by_cases hfound : e.isA [.googleNotFound] = true
  · simp only [hfound, googleApiError_of_notFound hfound, if_true]
  · simp only [if_neg hfound]

section

variable [UnicodeData]

theorem translates_gcsReadError (uri : String) :
    Translates retriableGoogleErrors [.googleApiError] (gcsReadError uri) :=
  translates_notFound rfl fun _ => rfl

theorem translates_gcsWriteError (uri : String) :
    Translates retriableGoogleErrors [.googleApiError] (gcsWriteError uri) :=
  .of_clauses (fun _ => rfl) fun _ => rfl

theorem translates_accessError (ref : SecretRef) :
    Translates retriableGoogleErrors [.googleApiError]
      (GoogleSecretManagerAdapter.accessError ref) :=
  translates_notFound rfl fun _ => rfl

theorem translates_runJobError (name : String) :
    Translates retriableGoogleErrors [.googleApiError]
      (CloudRunJobsDispatcher.runJobError name) :=
  .of_clauses (fun _ => rfl) fun _ => rfl

/-! ## What the adapters raise themselves -/

theorem typed_parseGsUri (uri : String) : Typed (parseGsUri uri) := by
  unfold parseGsUri
  dsimp only
  split
  · exact typed_serviceError _ _
  · split
    · exact typed_serviceError _ _
    · exact typed_ok _

theorem typed_checkScheme (uri : String) : Typed (HttpFetchStorage.checkScheme uri) := by
  unfold HttpFetchStorage.checkScheme
  split
  · exact typed_ok _
  · exact typed_serviceError _ _

theorem typed_raiseIfBlocked (host uri : String) : Typed (raiseIfBlocked host uri) := by
  unfold raiseIfBlocked
  split
  · exact typed_serviceError _ _
  split
  · exact typed_serviceError _ _
  split
  · exact typed_ok _
  split
  · exact typed_ok _
  · exact typed_serviceError _ _

/-- A rendering of `AnyUrl` splits, so the blocklist refuses it with service errors only. -/
theorem typed_check (b : HostBlocklist) (u : AnyUrl) : Typed (b.check u.text) := by
  unfold HostBlocklist.check
  rcases hparsed : parseUri u.text with e | parsed
  · exact typed_error.mpr (parseUri_error hparsed u.urlsplit_text)
  dsimp only
  split
  · exact typed_ok _
  split
  · split
    · exact typed_ok _
    · exact typed_serviceError _ _
  · exact typed_raiseIfBlocked _ _

theorem typed_body (uri : String) (response : HttpResponse) :
    Typed (HttpFetchStorage.body uri response) := by
  unfold HttpFetchStorage.body
  split
  · exact typed_serviceError _ _
  · split
    · exact typed_ok _
    · exact typed_serviceError _ _

theorem typed_decodeOutputs (outputs : JsonObject) : Typed (decodeOutputs outputs) := by
  have hround : ∀ e : String × Json, Typed (decodeOutput e.1 e.2) := by
    rintro ⟨role, j⟩
    unfold decodeOutput
    split
    · split
      · exact typed_ok _
      · exact typed_serviceError _ _
    · exact typed_serviceError _ _
  have hloop : ∀ entries : JsonObject,
      Typed (entries.mapM fun e => return (e.1, ← decodeOutput e.1 e.2)) := by
    intro entries
    induction entries with
    | nil => exact typed_ok _
    | cons e entries ih =>
      rw [List.mapM_cons]
      refine typed_bind.mpr ⟨typed_bind.mpr ⟨hround e, fun _ _ => typed_ok _⟩, fun _ _ => ?_⟩
      exact typed_bind.mpr ⟨ih, fun _ _ => typed_ok _⟩
  exact typed_bind.mpr ⟨hloop outputs, fun _ _ => typed_ok _⟩

/-! ## The body of a response -/

/-- `response.json()` returns, or fails with the error that `_decode_response` translates. -/
def HttpResponse.Decodes (response : HttpResponse) : Prop :=
  response.isSuccess = true → Handled [] [.jsonDecodeError] (fun _ => True) response.json

/-- `response.json()` of a success fails in a way that repeats the request. -/
def HttpResponse.JsonRetried (response : HttpResponse) : Prop :=
  response.isSuccess = true ∧ Op.Retried (PyException.isA retriableHttpErrors) response.json

omit [UnicodeData] in
theorem not_retried_of_jsonDecodeError {e : PyException} (h : e.isA [.jsonDecodeError] = true) :
    e.isA retriableHttpErrors = false := by
  rcases e with error | ⟨cls, message⟩
  · exact absurd h nofun
  · cases cls <;> first | rfl | exact absurd h nofun

omit [UnicodeData] in
theorem isA_nil (e : PyException) : e.isA [] = false := by
  rcases e with error | ⟨cls, message⟩
  · rfl
  · exact List.any_eq_false.mpr fun _ _ => by simp

omit [UnicodeData] in
/-- What follows lets nothing foreign out, so it repeats nothing. -/
theorem retried_bind {retryOn : List ExceptionClass} {r : Except PyException α}
    {f : α → Except PyException β} (hf : ∀ a, Typed (f a)) :
    Op.Retried (PyException.isA retryOn) (r >>= f) ↔ Op.Retried (PyException.isA retryOn) r := by
  rcases r with e | a
  · simp [Op.Retried, bind, Except.bind]
  · constructor
    · rintro ⟨e, he, hret⟩
      have he : f a = .error e := he
      exact absurd (he ▸ hf a) (not_typed_of_retried hret)
    · rintro ⟨e, he, -⟩
      cases he

namespace HttpComputeBackend

variable {b : HttpComputeBackend σ P} {response : HttpResponse}

/-- Reading the body translates a `JSONDecodeError`, and nothing else. -/
theorem responseJson_error {exc : PyException} (hjson : response.json = .error exc) :
    Typed (b.responseJson response) ↔
        exc.isServiceError = true ∨ exc.isA [.jsonDecodeError] = true := by
  unfold responseJson
  rw [hjson]
  dsimp only
  by_cases hdecode : exc.isA [.jsonDecodeError] = true
  · rw [if_pos hdecode]
    exact ⟨fun _ => .inr hdecode, fun _ => typed_serviceError _ _⟩
  · rw [if_neg hdecode, typed_error]
    exact ⟨.inl, fun h => h.elim id fun h' => absurd h' hdecode⟩

theorem typed_responseJson :
    Typed (b.responseJson response) ↔
      Handled [] [.jsonDecodeError] (fun _ => True) response.json := by
  rcases hjson : response.json with exc | body
  · rw [responseJson_error hjson]
    exact or_congr_right (and_iff_right (isA_nil exc)).symm
  · unfold responseJson
    rw [hjson]
    exact ⟨fun _ => trivial, fun _ => typed_ok body⟩

theorem retried_responseJson :
    Op.Retried (PyException.isA retriableHttpErrors) (b.responseJson response) ↔
      Op.Retried (PyException.isA retriableHttpErrors) response.json := by
  unfold responseJson
  rcases response.json with exc | body
  · dsimp only
    by_cases hdecode : exc.isA [.jsonDecodeError] = true
    · rw [if_pos hdecode]
      constructor
      · rintro ⟨e, he, hret⟩
        obtain rfl := Except.error.inj he
        exact absurd hret nofun
      · rintro ⟨e, he, hret⟩
        obtain rfl := Except.error.inj he
        exact absurd ((not_retried_of_jsonDecodeError hdecode).symm.trans hret) nofun
    · rw [if_neg hdecode]
  · simp [Op.Retried]

/-- What is wrong with a body that is JSON is a `ComputeError`. -/
theorem decodeResponse_eq (b : HttpComputeBackend σ P) (response : HttpResponse) :
    ∃ f, b.decodeResponse response = b.responseJson response >>= f ∧ ∀ j, Typed (f j) := by
  refine ⟨_, rfl, fun j => ?_⟩
  split
  · split
    · refine typed_bind.mpr ⟨typed_decodeOutputs _, fun decoded _ => ?_⟩
      split
      · exact typed_ok _
      · exact typed_serviceError _ _
    · exact typed_serviceError _ _
  · exact typed_serviceError _ _

/-- **What `run` makes of a response** lets a foreign exception out iff reading its body does. -/
theorem typed_result_iff : Typed (b.result response) ↔ response.Decodes := by
  unfold result HttpResponse.Decodes
  by_cases hsuccess : response.isSuccess = true
  · obtain ⟨f, hf, htyped⟩ := b.decodeResponse_eq response
    rw [if_pos hsuccess, forall_prop_of_true hsuccess, hf, typed_bind,
      ← typed_responseJson (b := b)]
    exact ⟨And.left, fun h => ⟨h, fun j _ => htyped j⟩⟩
  · rw [if_neg hsuccess]
    exact ⟨fun _ h => absurd h hsuccess, fun _ => typed_serviceError _ _⟩

/-- It repeats the request iff reading the body fails so. -/
theorem retried_result_iff :
    Op.Retried (PyException.isA retriableHttpErrors) (b.result response) ↔
      response.JsonRetried := by
  unfold result HttpResponse.JsonRetried
  by_cases hsuccess : response.isSuccess = true
  · obtain ⟨f, hf, htyped⟩ := b.decodeResponse_eq response
    rw [if_pos hsuccess, and_iff_right hsuccess, hf, retried_bind htyped, retried_responseJson]
  · rw [if_neg hsuccess]
    constructor
    · rintro ⟨e, he, hret⟩
      obtain rfl := Except.error.inj he
      exact absurd hret nofun
    · exact fun h => absurd h.1 hsuccess

end HttpComputeBackend

/-! ## The operations of the pipeline -/

/-- What `read` does with the codec of its input. -/
def Codecs.Decodes (codecs : Codecs) : Compression → Bytes → Prop
  | .none, _ => True
  | .gzip, raw => Handled [] [.osError] (fun _ => True) (codecs.gzipDecompress raw)
  | .zstd, raw => Handled [] [.zstdError] (fun _ => True) (codecs.zstdDecompress raw)

omit [UnicodeData] in
theorem typed_decompress {caught : ExceptionClass} {codec uri : String}
    {r : Except PyException Bytes} :
    Typed (r.mapError (decompressError caught codec uri)) ↔
      Handled [] [caught] (fun _ => True) r := by
  rcases r with e | raw
  · refine (typed_error (α := Bytes)).trans ?_
    unfold decompressError
    by_cases hcaught : e.isA [caught] = true
    · rw [if_pos hcaught]
      exact ⟨fun _ => .inr ⟨isA_nil e, hcaught⟩, fun _ => rfl⟩
    · rw [if_neg hcaught]
      exact ⟨.inl, fun h => h.elim id fun h' => absurd h'.2 hcaught⟩
  · exact ⟨fun _ => trivial, fun _ => typed_ok raw⟩

omit [UnicodeData] in
theorem Codecs.typed_decode {codecs : Codecs} {uri : String} {compression : Compression}
    {raw : Bytes} :
    Typed (codecs.decode uri compression raw) ↔ codecs.Decodes compression raw := by
  cases compression with
  | none => exact ⟨fun _ => trivial, fun _ => typed_ok raw⟩
  | gzip => exact typed_decompress
  | zstd => exact typed_decompress

/-- An operation the pipeline asks an adapter for, by what it returns. -/
inductive AdapterCall (σ P : Type) : Type → Type
  | gcsRead (client : GcsClient σ) (spec : InputSpec) (credentials : Credentials) :
    AdapterCall σ P Bytes
  | gcsWrite (client : GcsClient σ) (spec : OutputSpec) (payload : Bytes)
      (credentials : Credentials) : AdapterCall σ P WriteReceipt
  | httpRead (storage : HttpFetchStorage σ) (spec : InputSpec) (credentials : Credentials) :
    AdapterCall σ P Bytes
  | compressedRead (codecs : Codecs) (inner : StoragePort σ) (spec : InputSpec)
      (credentials : Credentials) : AdapterCall σ P Bytes
  | httpRun (backend : HttpComputeBackend σ P) (inputs : LoadedInputs) (parameters : P)
      (context : ComputeContext) : AdapterCall σ P ComputeResult
  | notify (notifier : JwtWebhookNotifier σ) (callback : Callback) (payload : JsonObject) :
    AdapterCall σ P WebhookAck
  | resolve (adapter : GoogleSecretManagerAdapter σ) (ref : SecretRef) :
    AdapterCall σ P Credentials
  | dispatch (dispatcher : CloudRunJobsDispatcher σ) (jobName : String) (payload : Bytes)
      (requestId : UUID) : AdapterCall σ P DispatchedJob

namespace AdapterCall

/-- The operation. -/
def perform : AdapterCall σ P α → PyOp σ α
  | .gcsRead client spec credentials => GcsStorage.read client spec credentials
  | .gcsWrite client spec payload credentials => GcsStorage.write client spec payload credentials
  | .httpRead storage spec credentials => storage.read spec credentials
  | .compressedRead codecs inner spec credentials =>
    (compressedStorage codecs inner).read spec credentials
  | .httpRun backend inputs parameters context => backend.port.run inputs parameters context
  | .notify notifier callback payload => notifier.notify callback payload
  | .resolve adapter ref => adapter.resolve ref
  | .dispatch dispatcher jobName payload requestId => dispatcher.dispatch jobName payload requestId

/-- One of the three calls to Google's client answers, or fails with an error that is translated. -/
def GoogleAnswers {γ : Type} (call : PyOp σ γ) (s : σ) : Prop :=
  FirstAnswer (Op.Retried (PyException.isA retriableGoogleErrors))
    (Handled retriableGoogleErrors [.googleApiError] fun _ => True) call s

/-- The same of the HTTP client. -/
def HttpAnswers (call : PyOp σ HttpResponse) (s : σ) : Prop :=
  FirstAnswer (Op.Retried (PyException.isA retriableHttpErrors))
    (Handled retriableHttpErrors [.httpxHttpError] fun _ => True) call s

/-- From world `s` on, no foreign exception comes out of the operation: nothing before its client's
call raises one, and of three calls the first that is not repeated answers, readably, or fails with
an error that is translated. -/
def Contained : AdapterCall σ P α → σ → Prop
  | .gcsRead client spec _, s => ∀ object, parseGsUri spec.sourceUri.text = .ok object →
    Then (client.bucket object.1) fun _ =>
      GoogleAnswers (client.downloadAsBytes object.1 object.2) s
  | .gcsWrite client spec payload _, s =>
    ∀ object, parseGsUri spec.destinationUri.text = .ok object →
      Then (client.bucket object.1) fun _ =>
        GoogleAnswers (client.uploadFromString object.1 object.2 payload) s
  | .httpRead storage spec credentials, s =>
    HttpFetchStorage.checkScheme spec.sourceUri.text = .ok () →
      storage.hostBlocklist.check spec.sourceUri.text = .ok () →
        Then (HttpFetchStorage.buildAuthHeaders credentials) fun headers =>
          HttpAnswers (storage.client.get spec.sourceUri.text headers storage.timeoutSeconds) s
  | .compressedRead codecs inner spec credentials, s =>
    Then (inner.read spec credentials s).1 (codecs.Decodes spec.compression)
  | .httpRun backend inputs parameters context, s =>
    FirstAnswer
      (fun r => Op.Retried (PyException.isA retriableHttpErrors) r ∨
        ∃ response, r = .ok response ∧ response.JsonRetried)
      (Handled retriableHttpErrors [.httpxHttpError] HttpResponse.Decodes)
      (backend.client.post backend.targetUrl
        (backend.encodeRequest inputs parameters context).json Dict.empty backend.timeoutSeconds) s
  | .notify notifier callback payload, s =>
    Then (notifier.encodeHs256 payload) fun token =>
      HttpAnswers (notifier.post callback payload token) s
  | .resolve adapter ref, s =>
    GoogleAnswers (adapter.accessSecretVersion (adapter.versionName ref)) s
  | .dispatch dispatcher jobName payload requestId, s =>
    Then (decodeStrict payload) fun text =>
      GoogleAnswers (dispatcher.runJob (dispatcher.request jobName text requestId)) s

variable {γ : Type}

omit [UnicodeData] in
theorem then_congr {r : Except PyException γ} {p q : γ → Prop} (h : ∀ a, p a ↔ q a) :
    Then r p ↔ Then r q := and_congr_right fun _ => forall₂_congr fun a _ => h a

omit [UnicodeData] in
/-- A step before the call that raises service errors only. -/
theorem typed_withRetry_bind_of_typed {retryOn : List ExceptionClass}
    {r : Except PyException γ} (hr : Typed r) (f : γ → PyOp σ α) (s : σ) :
    Typed (withRetry retryOn (Op.ofExcept r >>= f) s).1 ↔
      ∀ a, r = .ok a → Typed (withRetry retryOn (f a) s).1 :=
  (typed_withRetry_bind r f s).trans (and_iff_right hr)

theorem typed_httpRead (storage : HttpFetchStorage σ) (spec : InputSpec)
    (credentials : Credentials) (s : σ) :
    Typed (storage.read spec credentials s).1 ↔
      (.httpRead storage spec credentials : AdapterCall σ P Bytes).Contained s := by
  refine (typed_withRetry_bind_of_typed (typed_checkScheme _) _ s).trans ?_
  refine Iff.trans ⟨fun h => h (), fun h _ => h⟩ (forall_congr' fun _ => ?_)
  refine (typed_withRetry_bind_of_typed (typed_check _ _) _ s).trans ?_
  refine Iff.trans ⟨fun h => h (), fun h _ => h⟩ (forall_congr' fun _ => ?_)
  refine (typed_withRetry_bind _ _ s).trans (then_congr fun headers => ?_)
  exact (translates_httpError _ _).typed_iff_of_typed _ (typed_body _) s

theorem typed_compressedRead (codecs : Codecs) (inner : StoragePort σ) (spec : InputSpec)
    (credentials : Credentials) (s : σ) :
    Typed ((compressedStorage codecs inner).read spec credentials s).1 ↔
      (.compressedRead codecs inner spec credentials : AdapterCall σ P Bytes).Contained s := by
  show Typed ((inner.read spec credentials >>= fun raw =>
    Op.ofExcept (codecs.decode spec.sourceUri.text spec.compression raw)) s).1 ↔
      Then (inner.read spec credentials s).1 _
  rw [Op.run_bind]
  rcases inner.read spec credentials s with ⟨e | raw, s'⟩
  · exact typed_error.trans then_error.symm
  · exact Codecs.typed_decode.trans then_ok.symm

theorem typed_notify (notifier : JwtWebhookNotifier σ) (callback : Callback) (payload : JsonObject)
    (s : σ) :
    Typed (notifier.notify callback payload s).1 ↔
      (.notify notifier callback payload : AdapterCall σ P WebhookAck).Contained s := by
  have hack : ∀ response, Typed (JwtWebhookNotifier.ack callback.url.text response) :=
    fun _ _ => JwtWebhookNotifier.isServiceError_of_ack
  refine (typed_withRetry_bind _ _ s).trans (then_congr fun token => ?_)
  exact (translates_httpError _ _).typed_iff_of_typed _ hack s

theorem typed_httpRun (backend : HttpComputeBackend σ P) (inputs : LoadedInputs) (parameters : P)
    (context : ComputeContext) (s : σ) :
    Typed (backend.port.run inputs parameters context s).1 ↔
      (.httpRun backend inputs parameters context : AdapterCall σ P ComputeResult).Contained s := by
  refine ((translates_httpError _ _).typed_iff _ backend.result s).trans ?_
  simp only [HttpComputeBackend.retried_result_iff, HttpComputeBackend.typed_result_iff]
  rfl

theorem typed_dispatch (dispatcher : CloudRunJobsDispatcher σ) (jobName : String) (payload : Bytes)
    (requestId : UUID) (s : σ) :
    Typed (dispatcher.dispatch jobName payload requestId s).1 ↔
      (.dispatch dispatcher jobName payload requestId :
        AdapterCall σ P DispatchedJob).Contained s := by
  refine (typed_withRetry_bind _ _ s).trans (then_congr fun text => ?_)
  exact (translates_runJobError _).typed_iff_of_typed _ (fun _ => typed_ok _) s

/-- **No foreign exception comes out of an adapter's operation iff it is contained.** -/
theorem contained_iff (call : AdapterCall σ P α) (s : σ) :
    Typed (call.perform s).1 ↔ call.Contained s := by
  cases call with
  | gcsRead client spec credentials =>
    refine (typed_withRetry_bind_of_typed (typed_parseGsUri _) _ s).trans
      (forall₂_congr fun object _ => ?_)
    refine (typed_withRetry_bind _ _ s).trans (then_congr fun _ => ?_)
    exact (translates_gcsReadError _).typed_iff_self _ s
  | gcsWrite client spec payload credentials =>
    refine (typed_withRetry_bind_of_typed (typed_parseGsUri _) _ s).trans
      (forall₂_congr fun object _ => ?_)
    refine (typed_withRetry_bind _ _ s).trans (then_congr fun _ => ?_)
    exact (translates_gcsWriteError _).typed_iff_of_typed _ (fun _ => typed_ok _) s
  | httpRead storage spec credentials => exact typed_httpRead storage spec credentials s
  | compressedRead codecs inner spec credentials =>
    exact typed_compressedRead codecs inner spec credentials s
  | httpRun backend inputs parameters context =>
    exact typed_httpRun backend inputs parameters context s
  | notify notifier callback payload => exact typed_notify notifier callback payload s
  | resolve adapter ref =>
    exact (translates_accessError ref).typed_iff_of_typed _ (fun _ => typed_ok _) s
  | dispatch dispatcher jobName payload requestId =>
    exact typed_dispatch dispatcher jobName payload requestId s

end AdapterCall

end

/-! ## Three refused connections, and a stream that ends early -/

section

attribute [local instance] UnicodeData.ascii

/-- An input compressed with gzip. -/
def Sample.gzipInput : InputSpec where
  role := ⟨"timeseries", by decide⟩
  sourceUri := ⟨"gs://b/o.gz", by decide, .inl (by decide)⟩
  format := .json
  formatHints := .json
  compression := .gzip
  credentialRef := none
  format_matches := FormatHints.format_json

/-- A storage that answers each read with the same bytes. -/
def Sample.constantStorage (content : Bytes) : StoragePort Unit where
  read _ _ := pure content
  write spec payload _ := pure ⟨spec.destinationUri.text, payload.size, "constant"⟩

/-- Codecs on a stream without its end: `gzip.decompress` raises `EOFError`. -/
def Sample.truncatedCodecs : Codecs where
  gzipCompress payload := payload
  gzipDecompress _ :=
    .error (.raised .eofError "Compressed file ended before the end-of-stream marker was reached")
  zstdCompress payload := payload
  zstdDecompress payload := .ok payload

/-- A `ConnectError` on each of the three attempts comes out as it is, and so does the `EOFError` of
a gzip stream cut short. -/
theorem foreign_exceptions_escape :
    ¬ Typed ((.httpRun Sample.httpBackend ⟨Dict.empty⟩ () (Sample.contextTo "gs://b/r.json") :
      AdapterCall Unit Unit ComputeResult).perform ()).1 ∧
    ¬ Typed ((.compressedRead Sample.truncatedCodecs
        (Sample.constantStorage (ByteArray.mk #[31, 139, 8])) Sample.gzipInput
        ⟨ByteArray.empty, "none"⟩ : AdapterCall Unit Unit Bytes).perform ()).1 := by
  constructor
  · exact fun h => absurd (h (.raised .httpxConnectError "no network") rfl) nofun
  · exact fun h => absurd (h (.raised .eofError _) rfl) nofun

end

end Grabatus

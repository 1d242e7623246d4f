import Grabatus.Adapters.Httpx
import Grabatus.Adapters.MessagePubsub
import Grabatus.Adapters.StorageGcs
import Grabatus.Security.HostBlocklist

/-!
# `HttpFetchStorage`

Model of `adapters/storage_http.py`. The read-only storage adapter for `http://` and `https://`.
It cuts the scheme from the text itself and asks the blocklist before it connects.

* `HttpClient.recorded` keeps the URLs a client is asked for.
* **`read` asks for its own URI only, and only when the blocklist lets it pass**
  (`HttpFetchStorage.requested`).
* **No host is reached that the blocklist was meant to stop, on exactly the URIs that `parse_uri`
  refuses or whose text before the first `:` is the host** (`guarded_iff`); among them every URI
  whose authority has neither `@` nor `[` (`guarded_of_plain`).

Out of scope: the resolution of a host's name. A host is judged by its text, in the code and here.
-/

namespace Grabatus

open Grabatus.Lib Grabatus.Python

variable [UnicodeData] {σ : Type}

/-- `uri.split("://", 1)[0].lower()`. -/
def schemeOf (uri : String) : String := lower (String.ofList (partitionScheme uri).1)

/-- `HttpFetchStorage`. -/
structure HttpFetchStorage (σ : Type) where
  hostBlocklist : HostBlocklist
  client : HttpClient σ
  timeoutSeconds : Double

namespace HttpFetchStorage

/-- `_build_auth_headers`. -/
def buildAuthHeaders (credentials : Credentials) : Except PyException Headers :=
  if credentials.token.size = 0 then .ok Dict.empty
  else do
    let token ← decodeStrict credentials.token
    return Dict.empty.set "Authorization"
      (UnicodeData.title credentials.tokenType ++ " " ++ token)

/-- `if scheme not in _HTTP_SCHEMES: raise`. -/
def checkScheme (uri : String) : Except PyException Unit :=
  if schemeOf uri ∈ httpSchemes then .ok ()
  else .error (serviceError .unsupportedSchemeError
    ("HttpFetchStorage requires http(s) scheme, got uri=" ++ pyRepr uri))

/-- What `read` makes of a response. -/
def body (uri : String) (response : HttpResponse) : Except PyException Bytes :=
  if response.statusCode = 404 then
    .error (serviceError .inputNotFoundError ("HttpFetchStorage 404 for uri=" ++ pyRepr uri))
  else if response.isSuccess then .ok response.content
  else .error (serviceError .inputReadError
    ("HttpFetchStorage non-2xx=" ++ toString response.statusCode ++ " for uri=" ++ pyRepr uri))

/-- One attempt of `read`. -/
def fetch (h : HttpFetchStorage σ) (uri : String) (credentials : Credentials) : PyOp σ Bytes := do
  Op.ofExcept (checkScheme uri)
  Op.ofExcept (h.hostBlocklist.check uri)
  let headers ← Op.ofExcept (buildAuthHeaders credentials)
  let response ← Op.mapError
    (httpError .inputReadError ("HttpFetchStorage failed to GET uri=" ++ pyRepr uri ++ ": "))
    (h.client.get uri headers h.timeoutSeconds)
  Op.ofExcept (body uri response)

/-- `HttpFetchStorage.read`. -/
def read (h : HttpFetchStorage σ) (spec : InputSpec) (credentials : Credentials) : PyOp σ Bytes :=
  withRetry retriableHttpErrors (h.fetch spec.sourceUri.text credentials)

/-- `HttpFetchStorage.write`: refused. -/
def write (_h : HttpFetchStorage σ) (spec : OutputSpec) (_payload : Bytes)
    (_credentials : Credentials) : PyOp σ WriteReceipt :=
  Op.fail (serviceError .outputWriteError
    ("HttpFetchStorage is read-only; refused write to uri=" ++ spec.destinationUri.text))

/-- `HttpFetchStorage` as a storage port. -/
def port (h : HttpFetchStorage σ) : StoragePort σ where
  read := h.read
  write := h.write

theorem checkScheme_eq_ok {uri : String} :
    checkScheme uri = .ok () ↔ schemeOf uri ∈ httpSchemes := by
  unfold checkScheme
  split <;> simp [*]

end HttpFetchStorage

/-! ## The hosts it reaches -/

/-- A client that keeps, next to its world, the URLs of the GET requests it is asked for. -/
def HttpClient.recorded (client : HttpClient σ) : HttpClient (σ × List String) where
  get url headers timeout := fun s =>
    ((client.get url headers timeout s.1).1, (client.get url headers timeout s.1).2, url :: s.2)
  post url body headers timeout := fun s =>
    ((client.post url body headers timeout s.1).1, (client.post url body headers timeout s.1).2,
      s.2)

/-- The URLs a run adds to the kept ones satisfy `p`. -/
def Asks (p : String → Prop) (s s' : σ × List String) : Prop := ∀ url ∈ s'.2, url ∈ s.2 ∨ p url

omit [UnicodeData] in
theorem Asks.closed (p : String → Prop) :
    Op.Closed (ε := PyException) fun _ op => Op.Moves (Asks (σ := σ) p) op :=
  Op.Closed.moves (fun _ _ => .inl) fun h₁ h₂ url hurl => (h₂ url hurl).elim (h₁ url) .inr

omit [UnicodeData] in
theorem HttpClient.recorded_get (client : HttpClient σ) {p : String → Prop} {url : String}
    (h : p url) (headers : Headers) (timeout : Double) :
    Op.Moves (Asks p) (client.recorded.get url headers timeout) := by
  intro s asked hmem
  rcases List.mem_cons.mp hmem with rfl | hold
  · exact .inr h
  · exact .inl hold

namespace HttpFetchStorage

/-- The storage over the recorded client. -/
def recorded (h : HttpFetchStorage σ) : HttpFetchStorage (σ × List String) :=
  ⟨h.hostBlocklist, h.client.recorded, h.timeoutSeconds⟩

/-- The URLs a `read` from world `s` asks its client for. -/
def requests (h : HttpFetchStorage σ) (spec : InputSpec) (credentials : Credentials) (s : σ) :
    List String :=
  (h.recorded.read spec credentials (s, [])).2.2

/-- An attempt asks for the URI it is given, and only when it passes. -/
theorem fetch_asks (h : HttpFetchStorage σ) (uri : String) (credentials : Credentials) :
    Op.Moves (Asks fun url => url = uri ∧ h.hostBlocklist.check url = .ok ())
      (h.recorded.fetch uri credentials) := by
  have hasks := Asks.closed (σ := σ) fun url => url = uri ∧ h.hostBlocklist.check url = .ok ()
  refine hasks.bind (hasks.ofExcept _) fun _ => ?_
  show Op.Moves _ (Op.ofExcept (h.hostBlocklist.check uri) >>= _)
  rcases hcheck : h.hostBlocklist.check uri with e | ⟨⟩
  · rw [Op.ofExcept_error_bind]
    exact hasks.ofExcept _
  · rw [Op.ofExcept_ok_bind]
    refine hasks.bind (hasks.ofExcept _) fun headers => ?_
    have hget := h.client.recorded_get
      (p := fun url => url = uri ∧ h.hostBlocklist.check url = .ok ()) ⟨rfl, hcheck⟩ headers
      h.timeoutSeconds
    exact hasks.bind (hasks.mapError _ hget) fun _ => hasks.ofExcept _

/-- **`read` asks for its own URI, and only when it passes.** -/
theorem requested {h : HttpFetchStorage σ} {spec : InputSpec} {credentials : Credentials} {s : σ}
    {url : String} (hurl : url ∈ h.requests spec credentials s) :
    url = spec.sourceUri.text ∧ h.hostBlocklist.check url = .ok () := by
  have hread : Op.Moves (Asks fun url => url = spec.sourceUri.text ∧
      h.hostBlocklist.check url = .ok ()) (h.recorded.read spec credentials) :=
    (Asks.closed _).retry _ _ (h.fetch_asks spec.sourceUri.text credentials)
  have hasks := hread (s, [])
  exact (hasks url hurl).resolve_left List.not_mem_nil

end HttpFetchStorage

/-- No host is reached through a URI that the blocklist was meant to stop, whatever the allowed
hosts: none passes `check`, and `read` sends a request to none. -/
structure Guarded (uri : String) : Prop where
  check : ∀ allowedHosts, (HostBlocklist.ofList allowedHosts).check uri = .ok () →
    (HostBlocklist.ofList allowedHosts).Permits (connectionHost uri)
  read : ∀ (σ : Type) (client : HttpClient σ) (allowedHosts : List String)
    (timeoutSeconds : Double) (spec : InputSpec) (credentials : Credentials) (s : σ),
      spec.sourceUri.text = uri →
        ∀ url ∈ HttpFetchStorage.requests ⟨.ofList allowedHosts, client, timeoutSeconds⟩ spec
            credentials s,
          (HostBlocklist.ofList allowedHosts).Permits (connectionHost url)

/-- `read` asks only for what passes, so what passes decides. -/
theorem guarded_of_check {uri : String}
    (hcheck : ∀ allowedHosts, (HostBlocklist.ofList allowedHosts).check uri = .ok () →
      (HostBlocklist.ofList allowedHosts).Permits (connectionHost uri)) : Guarded uri where
  check := hcheck
  read σ client allowedHosts timeoutSeconds spec credentials s huri url hurl := by
    obtain ⟨rfl, hpasses⟩ := HttpFetchStorage.requested hurl
    rw [huri] at hpasses ⊢
    exact hcheck allowedHosts hpasses

/-- A host and maybe a port, without userinfo and brackets, is guarded. -/
theorem guarded_of_plain {uri : String} (hhttp : IsHttp uri) (hplain : PlainAuthority uri) :
    Guarded uri :=
  guarded_of_check fun _ =>
    HostBlocklist.permits_of_check hhttp (firstText_eq_connectionHost hplain)

/-- **The blocklist stops what it was meant to stop** on exactly the HTTP URIs that `parse_uri`
refuses, and those whose text before the first `:` is the host a client connects to. -/
theorem guarded_iff {uri : String} (hhttp : IsHttp uri) :
    Guarded uri ↔ (∃ e, parseUri uri = .error e) ∨ firstText uri = connectionHost uri := by
  constructor
  · intro h
    rcases hparsed : parseUri uri with e | parsed
    · exact .inl ⟨e, rfl⟩
    · exact .inr (HostBlocklist.firstText_eq_of_permits hparsed hhttp h.check)
  · rintro (⟨e, he⟩ | hsame)
    · refine guarded_of_check fun _ hpasses => ?_
      unfold HostBlocklist.check at hpasses
      rw [he] at hpasses
      exact absurd hpasses nofun
    · exact guarded_of_check fun _ => HostBlocklist.permits_of_check hhttp hsame

omit [UnicodeData] in
/-- A host with a port is guarded; a user name before the host is another text than the host. -/
theorem guarded_iff_sample :
    @Guarded UnicodeData.ascii "http://example.com:8080/x?q=1" ∧
      ¬ @Guarded UnicodeData.ascii "http://a:b@c/" :=
  ⟨(@guarded_iff UnicodeData.ascii "http://example.com:8080/x?q=1"
      (by unfold IsHttp; decide)).mpr (.inr (by decide)),
    fun h => ((@guarded_iff UnicodeData.ascii "http://a:b@c/"
      (by unfold IsHttp; decide)).mp h).elim (fun ⟨e, he⟩ => by
        have hok : (@parseUri UnicodeData.ascii "http://a:b@c/").isOk = true := by decide
        rw [he] at hok
        exact absurd hok nofun) (by decide)⟩

end Grabatus

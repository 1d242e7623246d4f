import Grabatus.Adapters.StorageComposite
import Grabatus.Adapters.StorageCompressed
import Grabatus.Adapters.StorageInline
import Grabatus.Adapters.StorageLocalfs
import Grabatus.Security.Tenancy

/-!
# Storages put together

Over the storage adapters of `adapters/`, each as its own module models it. A deployment puts its
storage together from the adapters of the package: the ones that store, `GcsStorage`,
`LocalFsStorage`, `HttpFetchStorage` and `InlineStorage` (`StorageAdapter`), behind
`CompositeStorage` and under `CompressedStorage`, in any order and to any depth (`Assembled`).

**Whatever it is put together from, a storage given a URI that `TenantPrefixPolicy` authorized
does nothing but what its Cloud Storage client does to an object of the identity**
(`Assembled.read_closed`, `Assembled.write_closed`): the policy knows neither `http` nor `file`,
so a request or a file is never reached. Every property that the ways of putting operations
together keep holds of the storage as soon as it holds of the client on such an object.
-/

namespace Grabatus

open Grabatus.Lib Grabatus.Lib.Text Grabatus.Python

variable [UnicodeData] {σ : Type}

/-- `GcsStorage` as a storage port. -/
def GcsStorage.port (client : GcsClient σ) : StoragePort σ where
  read := GcsStorage.read client
  write := GcsStorage.write client

/-- `LocalFsStorage` as a storage port. -/
def LocalFsStorage.port (fs : FileSystem σ) (root : Option PosixPath) : StoragePort σ where
  read := LocalFsStorage.read fs root
  write := LocalFsStorage.write fs root

/-- The adapters that store, over one Cloud Storage client. -/
inductive StorageAdapter (client : GcsClient σ) : StoragePort σ → Prop
  | gcs : StorageAdapter client (GcsStorage.port client)
  | localfs (fs : FileSystem σ) (root : Option PosixPath) :
    StorageAdapter client (LocalFsStorage.port fs root)
  | http (h : HttpFetchStorage σ) : StorageAdapter client h.port
  | inline : StorageAdapter client (inlineStorage σ)

/-- The storages `CompressedStorage` and `CompositeStorage` make of the ones at hand. -/
inductive Assembled (codecs : Codecs) (atHand : StoragePort σ → Prop) : StoragePort σ → Prop
  | plain {storage : StoragePort σ} (hstorage : atHand storage) : Assembled codecs atHand storage
  | compressed {inner : StoragePort σ} (hinner : Assembled codecs atHand inner) :
    Assembled codecs atHand (compressedStorage codecs inner)
  | composite {byScheme : Dict String (StoragePort σ)}
    (hadapters : ∀ scheme adapter, byScheme.get? scheme = some adapter →
      Assembled codecs atHand adapter) :
    Assembled codecs atHand (CompositeStorage.port ⟨byScheme⟩)

/-- What `CompositeStorage` does with a selected adapter, it does; and it refuses otherwise. -/
theorem CompositeStorage.run_select {α : Type} {byScheme : Dict String (StoragePort σ)}
    {uri : String} {Q : PyOp σ α → Prop} {run : StoragePort σ → PyOp σ α}
    (hfail : ∀ e, Q (Op.fail e))
    (hrun : ∀ adapter, byScheme.get? (schemeOf uri) = some adapter → Q (run adapter)) :
    Q (Op.ofExcept (CompositeStorage.select ⟨byScheme⟩ uri) >>= run) := by
  rcases hselect : CompositeStorage.select ⟨byScheme⟩ uri with e | adapter
  · rw [Op.ofExcept_error_bind]
    exact hfail e
  · rw [Op.ofExcept_ok_bind]
    exact hrun adapter (CompositeStorage.select_eq_ok.mp hselect)

/-- A call either refuses the scheme or is the selected adapter's. -/
theorem CompositeStorage.run_cases {α : Type} {byScheme : Dict String (StoragePort σ)}
    {uri : String} {run : StoragePort σ → PyOp σ α} {s : σ} {r : Except PyException α × σ}
    (h : (Op.ofExcept (CompositeStorage.select ⟨byScheme⟩ uri) >>= run) s = r) :
    (∃ e, r = (.error e, s)) ∨
      ∃ adapter, byScheme.get? (schemeOf uri) = some adapter ∧ run adapter s = r := by
  rcases hselect : CompositeStorage.select ⟨byScheme⟩ uri with e | adapter
  · rw [hselect, Op.ofExcept_error_bind, Op.run_fail] at h
    exact .inl ⟨e, h.symm⟩
  · rw [hselect, Op.ofExcept_ok_bind] at h
    exact .inr ⟨adapter, CompositeStorage.select_eq_ok.mp hselect, h⟩

/-! ## The schemes the policy does not know -/

/-- What an adapter takes for the scheme of an authorized URI is a scheme the policy knows. -/
theorem TenantPrefixPolicy.known_of_authorize {p : TenantPrefixPolicy} (hcolon : KeepsColon)
    {uri : String} {identity : Identity} (hauth : p.authorize uri identity = .ok ())
    (hscheme : isScheme (schemeOf uri).toList = true) :
    schemeOf uri ∈ tenantAgnosticSchemes ∨ schemeOf uri ∈ bucketSchemes ∨
      schemeOf uri ∈ bigquerySchemes := by
  obtain ⟨parsed, hparsed, hg⟩ := authorize_eq_ok.mp hauth
  rw [← scheme_eq_schemeOf hcolon hparsed hscheme]
  exact hg.known

/-- `HttpFetchStorage` refuses an authorized URI before it connects. -/
theorem TenantPrefixPolicy.not_http_of_authorize {p : TenantPrefixPolicy} (hcolon : KeepsColon)
    {uri : String} {identity : Identity} (hauth : p.authorize uri identity = .ok ()) :
    HttpFetchStorage.checkScheme uri ≠ .ok () := by
  intro h
  have hmem := HttpFetchStorage.checkScheme_eq_ok.mp h
  have hschemes : ∀ scheme ∈ httpSchemes, isScheme scheme.toList = true ∧
      ¬ (scheme ∈ tenantAgnosticSchemes ∨ scheme ∈ bucketSchemes ∨ scheme ∈ bigquerySchemes) := by
    decide
  obtain ⟨hscheme, hunknown⟩ := hschemes _ hmem
  exact hunknown (p.known_of_authorize hcolon hauth hscheme)

/-- `LocalFsStorage` finds no path in an authorized URI. -/
theorem TenantPrefixPolicy.not_file_of_authorize {p : TenantPrefixPolicy} (hcolon : KeepsColon)
    {uri : String} {identity : Identity} (hauth : p.authorize uri identity = .ok ()) :
    (partitionScheme uri).1 ≠ "file".toList := by
  intro h
  have hlower : lower (String.ofList "file".toList) = "file" := by
    unfold lower
    rw [if_pos (by decide)]
    decide
  have hfile : schemeOf uri = "file" := by
    rw [schemeOf, h, hlower]
  have hknown := p.known_of_authorize hcolon hauth (by rw [hfile]; decide)
  rw [hfile] at hknown
  exact absurd hknown (by decide)

/-! ## What an authorized URI reaches -/

section

variable {Q : (α : Type) → PyOp σ α → Prop} {client : GcsClient σ} {codecs : Codecs}
  {storage : StoragePort σ} {p : TenantPrefixPolicy} {identity : Identity}

/-- An `HttpFetchStorage` that refuses the scheme raises, whatever the credentials are. -/
theorem HttpFetchStorage.exists_fetch_eq_fail (h : HttpFetchStorage σ) {uri : String}
    (hscheme : checkScheme uri ≠ .ok ()) :
    ∃ e, ∀ credentials, h.fetch uri credentials = Op.fail e := by
  rcases hs : checkScheme uri with e | ⟨⟩
  · refine ⟨e, fun credentials => ?_⟩
    unfold HttpFetchStorage.fetch
    rw [hs, Op.ofExcept_error_bind]
  · exact absurd hs hscheme

theorem HttpFetchStorage.read_closed (hQ : Op.Closed Q) (h : HttpFetchStorage σ)
    {spec : InputSpec} (hscheme : checkScheme spec.sourceUri.text ≠ .ok ())
    (credentials : Credentials) : Q _ (h.read spec credentials) := by
  refine hQ.retry _ _ ?_
  obtain ⟨e, hfail⟩ := h.exists_fetch_eq_fail hscheme
  rw [hfail]
  exact hQ.ofExcept _

/-- A `LocalFsStorage` given no `file` URI reads nothing. -/
theorem LocalFsStorage.read_closed (hQ : Op.Closed Q) (fs : FileSystem σ)
    (root : Option PosixPath) {spec : InputSpec}
    (hscheme : (partitionScheme spec.sourceUri.text).1 ≠ "file".toList)
    (credentials : Credentials) : Q _ (LocalFsStorage.read fs root spec credentials) := by
  show Q _ (Op.ofExcept (resolvePath root spec.sourceUri.text) >>= _)
  rw [resolvePath, if_pos hscheme, Op.ofExcept_error_bind]
  exact hQ.ofExcept _

theorem LocalFsStorage.write_closed (hQ : Op.Closed Q) (fs : FileSystem σ)
    (root : Option PosixPath) {spec : OutputSpec}
    (hscheme : (partitionScheme spec.destinationUri.text).1 ≠ "file".toList) (payload : Bytes)
    (credentials : Credentials) : Q _ (LocalFsStorage.write fs root spec payload credentials) := by
  show Q _ (Op.ofExcept (resolvePath root spec.destinationUri.text) >>= _)
  rw [resolvePath, if_pos hscheme, Op.ofExcept_error_bind]
  exact hQ.ofExcept _

/-- A read through `GcsStorage` downloads the object its URI names. -/
theorem GcsStorage.read_closed (hQ : Op.Closed Q) {spec : InputSpec}
    (hclient : ∀ bucket blob, parseGsUri spec.sourceUri.text = .ok (bucket, blob) →
      Q _ (client.downloadAsBytes bucket blob)) (credentials : Credentials) :
    Q _ (GcsStorage.read client spec credentials) := by
  refine hQ.retry _ _ ?_
  rcases hgs : parseGsUri spec.sourceUri.text with e | ⟨bucket, blob⟩
  · rw [Op.ofExcept_error_bind]
    exact hQ.ofExcept _
  · rw [Op.ofExcept_ok_bind]
    exact hQ.bind (hQ.ofExcept _) fun _ => hQ.mapError _ (hclient bucket blob hgs)

/-- A write through it uploads to the object its URI names. -/
theorem GcsStorage.write_closed (hQ : Op.Closed Q) {spec : OutputSpec} {payload : Bytes}
    (hclient : ∀ bucket blob payload, parseGsUri spec.destinationUri.text = .ok (bucket, blob) →
      Q _ (client.uploadFromString bucket blob payload)) (credentials : Credentials) :
    Q _ (GcsStorage.write client spec payload credentials) := by
  refine hQ.retry _ _ ?_
  rcases hgs : parseGsUri spec.destinationUri.text with e | ⟨bucket, blob⟩
  · rw [Op.ofExcept_error_bind]
    exact hQ.ofExcept _
  · rw [Op.ofExcept_ok_bind]
    exact hQ.bind (hQ.ofExcept _) fun _ =>
      hQ.bind (hQ.mapError _ (hclient bucket blob payload hgs)) fun _ => hQ.ofExcept (.ok _)

/-- **A read of an authorized URI** does what the client does to an object of the identity, and
nothing else. -/
theorem Assembled.read_closed (hQ : Op.Closed Q)
    (hstorage : Assembled codecs (StorageAdapter client) storage) (hcolon : KeepsColon)
    (hreq : p.requireUserPathSegment = true) {spec : InputSpec}
    (hauth : p.authorize spec.sourceUri.text identity = .ok ())
    (hclient : ∀ bucket blob, p.Owns identity (bucket, blob) →
      Q _ (client.downloadAsBytes bucket blob)) (credentials : Credentials) :
    Q _ (storage.read spec credentials) := by
  induction hstorage with
  | plain hadapter =>
    cases hadapter with
    | gcs =>
      exact GcsStorage.read_closed hQ (fun bucket blob hgs =>
        hclient bucket blob (p.owns_of_authorize hreq hauth hgs)) credentials
    | localfs fs root =>
      exact LocalFsStorage.read_closed hQ fs root (p.not_file_of_authorize hcolon hauth)
        credentials
    | http h =>
      dsimp only [HttpFetchStorage.port]
      exact h.read_closed hQ (p.not_http_of_authorize hcolon hauth) credentials
    | inline => exact hQ.ofExcept (decodeInlineUri spec.sourceUri.text)
  | compressed hinner ih => exact hQ.bind ih fun raw => hQ.ofExcept _
  | composite hadapters ih =>
    exact CompositeStorage.run_select (fun e => hQ.ofExcept (.error e)) fun adapter => ih _ adapter

/-- **A write to an authorized URI**, the same. -/
theorem Assembled.write_closed (hQ : Op.Closed Q)
    (hstorage : Assembled codecs (StorageAdapter client) storage) (hcolon : KeepsColon)
    (hreq : p.requireUserPathSegment = true) {spec : OutputSpec}
    (hauth : p.authorize spec.destinationUri.text identity = .ok ())
    (hclient : ∀ bucket blob payload, p.Owns identity (bucket, blob) →
      Q _ (client.uploadFromString bucket blob payload)) (payload : Bytes)
    (credentials : Credentials) : Q _ (storage.write spec payload credentials) := by
  induction hstorage generalizing payload with
  | plain hadapter =>
    cases hadapter with
    | gcs =>
      exact GcsStorage.write_closed hQ (fun bucket blob payload hgs =>
        hclient bucket blob payload (p.owns_of_authorize hreq hauth hgs)) credentials
    | localfs fs root =>
      exact LocalFsStorage.write_closed hQ fs root (p.not_file_of_authorize hcolon hauth) payload
        credentials
    | http h => exact hQ.ofExcept (.error _)
    | inline => exact hQ.ofExcept (.error _)
  | compressed hinner ih => exact ih _
  | composite hadapters ih =>
    exact CompositeStorage.run_select (fun e => hQ.ofExcept (.error e)) fun adapter h =>
      ih _ adapter h payload

end

end Grabatus

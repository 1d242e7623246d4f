import Grabatus.Runner.Tenants

/-!
# Where a secret goes

Over `runner/runner.py`, under `security/tenant_prefix_policy.py` and the storage adapters. A
worker resolves the credentials of every spec and hands them to its storage. Under the default
policy a storage put together from the adapters of the package never looks at them: the one that
would, `HttpFetchStorage`, is not reached by an authorized URI.

**So what the secrets resolve to shows nowhere** (`secrets_unseen`): two runs whose references
resolve to any two credentials end with one result, leave one world and make the same calls, up to
the credentials handed to the storage themselves. No payload, error text, metric, callback or job
depends on a token.

Out of scope: time, and deployments under another policy, where a fetched URL gets the token.
-/

namespace Grabatus

open Grabatus.Lib Grabatus.Lib.Traced Grabatus.Python

/-- A call without the credentials in it. -/
def Event.redacted {P : Type} : Event P → Event P
  | .resolve ref reply => .resolve ref (reply.map fun _ => nullCredentials)
  | .read spec _ reply => .read spec nullCredentials reply
  | .write spec payload _ reply => .write spec payload nullCredentials reply
  | e => e

section

variable [UnicodeData] {σ P : Type}

/-- Two secrets ports that resolve the same references and raise the same errors; what they
resolve to may differ. -/
structure SecretsPort.SameShape (secrets secrets' : SecretsPort σ) : Prop where
  reply : ∀ ref s,
    Alike Eq (fun _ _ => True) (secrets.resolve ref s).1 (secrets'.resolve ref s).1
  world : ∀ ref s, (secrets.resolve ref s).2 = (secrets'.resolve ref s).2

section

variable {client : GcsClient σ} {codecs : Codecs} {storage : StoragePort σ}
  {p : TenantPrefixPolicy} {identity : Identity}

/-- A read of an authorized URI is the same whatever credentials come with it. -/
theorem Assembled.read_credentials (hstorage : Assembled codecs (StorageAdapter client) storage)
    (hcolon : KeepsColon) {spec : InputSpec}
    (hauth : p.authorize spec.sourceUri.text identity = .ok ()) (c c' : Credentials) :
    storage.read spec c = storage.read spec c' := by
  induction hstorage with
  | plain hadapter =>
    cases hadapter with
    | gcs => rfl
    | localfs fs root => rfl
    | http h =>
      obtain ⟨e, hfail⟩ := h.exists_fetch_eq_fail (p.not_http_of_authorize hcolon hauth)
      dsimp only [HttpFetchStorage.port, HttpFetchStorage.read]
      rw [hfail, hfail]
    | inline => rfl
  | compressed hinner ih =>
    exact congrArg (· >>= fun raw => Op.ofExcept (codecs.decode _ _ raw)) ih
  | @composite byScheme hadapters ih =>
    show (Op.ofExcept (CompositeStorage.select ⟨byScheme⟩ spec.sourceUri.text) >>=
      fun (adapter : StoragePort σ) => adapter.read spec c) = (_ >>=
        fun (adapter : StoragePort σ) => adapter.read spec c')
    rcases hselect : CompositeStorage.select ⟨byScheme⟩ spec.sourceUri.text with e | adapter
    · rw [Op.ofExcept_error_bind, Op.ofExcept_error_bind]
    · rw [Op.ofExcept_ok_bind, Op.ofExcept_ok_bind]
      exact ih _ _ (CompositeStorage.select_eq_ok.mp hselect)

/-- No adapter that writes looks at the credentials. -/
theorem Assembled.write_credentials (hstorage : Assembled codecs (StorageAdapter client) storage)
    (spec : OutputSpec) (payload : Bytes) (c c' : Credentials) :
    storage.write spec payload c = storage.write spec payload c' := by
  induction hstorage generalizing payload with
  | plain hadapter => cases hadapter <;> rfl
  | compressed hinner ih => exact ih _
  | @composite byScheme hadapters ih =>
    show (Op.ofExcept (CompositeStorage.select ⟨byScheme⟩ spec.destinationUri.text) >>=
      fun (adapter : StoragePort σ) => adapter.write spec payload c) = (_ >>=
        fun (adapter : StoragePort σ) => adapter.write spec payload c')
    rcases hselect : CompositeStorage.select ⟨byScheme⟩ spec.destinationUri.text with e | adapter
    · rw [Op.ofExcept_error_bind, Op.ofExcept_error_bind]
    · rw [Op.ofExcept_ok_bind, Op.ofExcept_ok_bind]
      exact ih _ _ (CompositeStorage.select_eq_ok.mp hselect) _

end

omit [UnicodeData] in
/-- Every operation answers one world as it answers it. -/
theorem respects_eq {ε α : Type} (op : Op σ ε α) : Respects Eq op op := by
  rintro s _ rfl
  exact ⟨rfl, rfl⟩

variable [Pydantic] [JsonText]

/-- The runner with other secrets. -/
def ServiceRunner.withSecrets (r : ServiceRunner σ P) (secrets : SecretsPort σ) :
    ServiceRunner σ P :=
  { r with secrets }

/-- **What the secrets resolve to shows in nothing but the credentials themselves.** -/
theorem secrets_unseen {r : ServiceRunner σ P} {p : TenantPrefixPolicy} {client : GcsClient σ}
    (hcolon : KeepsColon) (hworker : r.Tenanted p client) {secrets : SecretsPort σ}
    (hshape : r.secrets.SameShape secrets) (raw : RawMessage) (s : σ) :
    let o := r.execute raw s
    let o' := (r.withSecrets secrets).execute raw s
    o.result = o'.result ∧ o.world = o'.world ∧
      o.trace.map Event.redacted = o'.trace.map Event.redacted := by
  have hreceives : r.ReceivesAlike Eq :=
    { decode := fun _ => respects_eq _
      authorize := fun _ _ => respects_eq _
      dispatch := fun _ _ _ => respects_eq _
      enter := fun _ _ => respects_eq _
      exit := fun _ => respects_eq _
      metric := fun _ _ _ => respects_eq _ }
  have hserves : ∀ contract, r.Reads raw contract → ∀ s, (r.check contract s).result = .ok () →
      r.ServesAlike secrets r.compute contract Eq (fun e => some e.redacted) fun _ _ => True := by
    intro contract _ s hcheck
    have hauth := hworker.authorized hcheck
    obtain ⟨codecs, hstorage⟩ := hworker.storage
    exact
      { null := trivial
        resolve := fun ref s s' hs => hs ▸ ⟨hshape.reply ref s, hshape.world ref s⟩
        read := fun spec hspec c c' _ => by
          rw [hstorage.read_credentials hcolon
            (hauth _ (List.mem_append_left _ (List.mem_map_of_mem hspec))) c c']
          exact respects_eq _
        now := respects_eq _
        run := fun _ _ => respects_eq _
        write := fun spec _ payload c c' _ => by
          rw [hstorage.write_credentials spec payload c c']
          exact respects_eq _
        notify := fun _ => respects_eq _
        markResolve := fun ref reply reply' h => by
          cases h with
          | error he => rw [he]
          | ok => rfl
        markRead := fun _ _ _ _ _ => rfl
        markWrite := fun _ _ _ _ _ _ => rfl }
  obtain ⟨hresult, hworld, hmarks⟩ := 
    ServiceRunner.execute_alike hreceives ⟨rfl, rfl, rfl⟩ hserves s s rfl
  rw [List.filterMap_eq_map'] at hmarks
  exact ⟨hresult.eq, hworld, hmarks⟩

end

/-! ## Two tokens of one secret -/

namespace Sample

/-- Secrets that hold one key. -/
def keySecrets [UnicodeData] (key : Credentials) : SecretsPort GcsObjects :=
  inMemorySecretsAdapter _ (Dict.empty.set "secret://gsm/key" key)

/-- The worker, on the contract whose input names that key. -/
def keyWorker [UnicodeData] (key : Credentials) : ServiceRunner GcsObjects OpaqueParameters :=
  { tenantWorker with
    message := ⟨fun _ => pure (makeContract "1.0" [input (.str "secret://gsm/key")] [output])⟩
    secrets := keySecrets key }

theorem keySecrets_sameShape [UnicodeData] (key key' : Credentials) :
    (keySecrets key).SameShape (keySecrets key') := by
  have hresolve : ∀ key ref s, (keySecrets key).resolve ref s =
      if "secret://gsm/key" = ref.toUri then (.ok key, s)
      else (.error (serviceError .credentialResolutionError
        ("in-memory secrets adapter has no entry for secret_ref=" ++ pyRepr ref.toUri)), s) := by
    intro key ref s
    unfold keySecrets inMemorySecretsAdapter
    dsimp only
    rw [Dict.get?_set]
    by_cases h : "secret://gsm/key" = ref.toUri
    · rw [if_pos h, if_pos h]
      rfl
    · rw [if_neg h, if_neg h]
      rfl
  constructor
  · intro ref s
    rw [hresolve, hresolve]
    split
    · exact .ok trivial
    · exact .error rfl
  · intro ref s
    rw [hresolve, hresolve]
    split <;> rfl

end Sample

section

attribute [local instance] UnicodeData.ascii Sample.pydantic Sample.jsonText

/-- A run with one token, and with another. -/
theorem secrets_unseen_sample :
    ((Sample.keyWorker ⟨encodeUtf8 "old", "bearer"⟩).execute Sample.raw Sample.objects).result =
      ((Sample.keyWorker ⟨encodeUtf8 "new", "bearer"⟩).execute Sample.raw
        Sample.objects).result := by
  have hcolon : KeepsColon := fun _ h => h
  have htenanted : (Sample.keyWorker ⟨encodeUtf8 "old", "bearer"⟩).Tenanted
      ⟨"gbt-storage", true⟩ memoryGcsClient := ⟨rfl, (Sample.worker_tenanted _).storage⟩
  have hunseen := secrets_unseen hcolon htenanted
    (Sample.keySecrets_sameShape ⟨encodeUtf8 "old", "bearer"⟩ ⟨encodeUtf8 "new", "bearer"⟩)
      Sample.raw Sample.objects
  exact hunseen.1

end

end Grabatus

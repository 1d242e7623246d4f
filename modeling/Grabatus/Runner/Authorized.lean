import Grabatus.Receiver.Runner
import Grabatus.Runner.Success

/-!
# The URIs a run acts on

Over `authorize` (`runner/steps.py`) and the runs of `runner/runner.py` and `receiver/runner.py`.
What step 3 authorizes are the `source_uri`s and the `destination_uri`s: **every read and every
write of a run acts on one of them, after the allowlist and the authorizer accepted it for the
contract's identity** (`uris_authorized`), in each of the four modes. The callback of the contract
and its credentials are not among them (`callback_and_credential_not_authorized`): a validator of
its own makes the callback https, and a reference is resolved as the contract has it.
-/

namespace Grabatus

open Grabatus.Lib Grabatus.Python

section

variable [UnicodeData] {σ P : Type}

/-- The call acts on something the contract names: an input or an output of it, one of its
credentials, or its callback. -/
def ActsOn (contract : BaseServiceContract P) : Event P → Prop
  | .resolve ref _ => ref ∈ contract.credentials
  | .read spec _ _ => spec ∈ contract.inputs.toList
  | .write spec _ _ _ => spec ∈ contract.outputs.toList
  | .notify callback _ _ => callback = contract.callback
  | _ => True

variable [Pydantic]

/-- What follows the check acts on what the contract names. -/
theorem produce_actsOn (r : ServiceRunner σ P) (contract : BaseServiceContract P) :
    Traced.Emits (ActsOn contract) (r.produce contract) := by
  have hresolve : ∀ ref : Option SecretRef, (∀ x ∈ ref, x ∈ contract.credentials) →
      Traced.Emits (ActsOn contract) (Steps.resolveRef r.secrets ref)
    | none, _ => Traced.Emits.pure _ _
    | some x, hx => Traced.Emits.call fun _ => hx x rfl
  have hload : ∀ b, ∀ spec ∈ contract.inputs.toList,
      Traced.Emits (ActsOn contract) (Steps.loadInput b r.storage spec) := fun _ _ hspec =>
    (Traced.Emits.lift _ _).bind fun _ => Traced.Emits.call fun _ => hspec
  refine Traced.Emits.bind (Traced.Emits.bind ?_ fun _ => Traced.Emits.bind ?_ fun _ =>
    Traced.Emits.bind ?_ fun _ => Traced.Emits.pure _ _) fun _ => Traced.Emits.bind ?_ fun _ =>
      (Traced.Emits.lift _ _).bind fun _ => Traced.Emits.pure _ _
  · refine (Traced.Emits.collect_of_mem fun spec hspec => hresolve _ fun x hx => ?_).bind fun _ =>
      (Traced.Emits.collect_of_mem fun spec hspec => hresolve _ fun x hx => ?_).bind fun _ =>
        Traced.Emits.pure _ _
    · exact ContractFields.mem_credentials.mpr (.inl ⟨spec, hspec, hx⟩)
    · exact ContractFields.mem_credentials.mpr (.inr ⟨spec, hspec, hx⟩)
  · exact (Traced.Emits.collect_of_mem (hload _)).bind fun _ => Traced.Emits.pure _ _
  · refine Traced.Emits.bind ?_ fun _ => Traced.Emits.pure _ _
    exact Traced.Emits.call fun _ => trivial
  · exact Traced.Emits.call fun _ => trivial

omit [Pydantic] in
theorem publish_actsOn (r : ServiceRunner σ P) (contract : BaseServiceContract P)
    (produced : ServiceRunner.Produced) :
    Traced.Emits (ActsOn contract) (r.publish contract produced) := by
  have hsave : ∀ spec ∈ contract.outputs.toList, Traced.Emits (ActsOn contract)
      (Steps.saveOutput produced.credentials produced.result r.storage spec) := fun _ hspec =>
    (Traced.Emits.lift _ _).bind fun _ => (Traced.Emits.lift _ _).bind fun _ =>
      Traced.Emits.call fun _ => hspec
  refine Traced.Emits.bind ?_ fun _ => Traced.Emits.bind ?_ fun _ => Traced.Emits.pure _ _
  · exact (Traced.Emits.collect_of_mem hsave).bind fun _ => Traced.Emits.pure _ _
  · exact Traced.Emits.call fun _ => rfl

/-- Once a contract is admitted, what has an effect acts on what it names. -/
theorem serve_actsOn {r : ServiceRunner σ P} {raw : RawMessage} {s s₁ : σ}
    {contract : BaseServiceContract P} {t pre post : List (Event P)} {e : Event P}
    (hreceive : r.receive raw s = ⟨.ok contract, s₁, t⟩)
    (h : (r.serve contract s₁).trace = pre ++ e :: post) (he : e.effect? ≠ none) :
    Admitted r raw (t ++ pre) contract ∧ ActsOn contract e := by
  have hchecked := check_silent r contract s₁
  unfold ServiceRunner.serve at h
  have hno : e ∉ (r.check contract s₁).trace := fun hm =>
    he (List.filterMap_eq_nil_iff.mp hchecked e hm)
  obtain ⟨⟨⟩, s₂, t', rest, hcheck, rfl, hrest⟩ := Traced.bind_split hno h
  refine ⟨(admitted_of_check hreceive hcheck).mono ?_, ?_⟩
  · rw [← List.append_assoc]
    exact List.subset_append_left _ _
  · have hemits := (produce_actsOn r contract).bind (publish_actsOn r contract)
    exact hemits s₂ e (by rw [hrest]; simp)

omit [Pydantic] in
/-- The allowlist lets the URI through, and the authorizer accepted it in one of the calls. -/
def AuthorizedIn (schemeAllowlist : SchemeAllowlist) (calls : List (Event P))
    (identity : Identity) (uri : String) : Prop :=
  schemeAllowlist.check uri = .ok () ∧ .authorize uri identity (.ok ()) ∈ calls

/-- The calls decoded the message to a document that validated as `contract`. -/
def ReadIn (r : ServiceRunner σ P) (raw : RawMessage) (calls : List (Event P))
    (contract : BaseServiceContract P) : Prop :=
  ∃ payload, .decode raw (.ok payload) ∈ calls ∧
    Steps.validate payload r.contractType = .ok contract

/-- What the calls before it establish of a call that acts on a URI. -/
def Authorizes (r : ServiceRunner σ P) (raw : RawMessage) (calls : List (Event P)) :
    Event P → Prop
  | .resolve ref _ => ∃ contract, ReadIn r raw calls contract ∧ ref ∈ contract.credentials
  | .read spec _ _ => ∃ contract, ReadIn r raw calls contract ∧ spec ∈ contract.inputs.toList ∧
      AuthorizedIn r.schemeAllowlist calls contract.identity spec.sourceUri.text
  | .write spec _ _ _ => ∃ contract, ReadIn r raw calls contract ∧
      spec ∈ contract.outputs.toList ∧
        AuthorizedIn r.schemeAllowlist calls contract.identity spec.destinationUri.text
  | .notify callback _ _ => ∃ contract, ReadIn r raw calls contract ∧
      callback = contract.callback ∧ callback.url.scheme = "https"
  | _ => True

variable [JsonText]

/-- **An effect of a run acts on what an admitted contract names.** -/
theorem effect_actsOn {r : ServiceRunner σ P} {raw : RawMessage} {s : σ}
    {pre post : List (Event P)} {e : Event P}
    (h : (r.execute raw s).trace = pre ++ e :: post) (he : e.effect? ≠ none) :
    ∃ contract, Admitted r raw pre contract ∧ ActsOn contract e := by
  have hsilent : ∀ {t : List (Event P)}, (∀ x ∈ t, x.effect? = none) → e ∉ t := fun ht hm =>
    he (ht e hm)
  have hobserve : ∀ {after : List (Event P)}, (∀ x ∈ after, x.stage = .observe) → e ∉ after :=
    fun hafter => hsilent fun x hx => Event.effect?_eq_none (by simp [hafter x hx])
  rcases r.execute_cases raw s with ⟨err, s', hx⟩ | ⟨s₀, s', reply, hx⟩
  · rw [hx] at h
    have hm : e ∈ [r.entered (.error err)] := by
      rw [show [r.entered (.error err)] = pre ++ e :: post from h]
      simp
    exact absurd hm (hsilent (by simp [ServiceRunner.entered, Event.effect?]))
  · rw [hx] at h
    obtain ⟨pre₁, rfl, h₁⟩ := Traced.split_right (l := [r.entered (.ok ())])
      (hsilent (by simp [ServiceRunner.entered, Event.effect?])) h
    obtain ⟨post₁, h₂⟩ := Traced.split_left
      (hsilent (by simp [ServiceRunner.exited, Event.effect?])) h₁
    have hreceived := receive_silent r raw s₀
    have hbranch := r.branch_run raw s₀
    rw [h₂] at hbranch
    cases hbranch with
    | unread hreceive hcloses =>
      rw [hreceive] at hreceived
      obtain ⟨after, htrace, hafter⟩ := hcloses.trace_eq
      obtain ⟨post₂, rfl⟩ := Traced.split_left (hobserve hafter) htrace.symm
      exact absurd (by simp) (hsilent (List.filterMap_eq_nil_iff.mp hreceived))
    | @read contract s₁ t _ _ hreceive hcloses =>
      rw [hreceive] at hreceived
      obtain ⟨after, htrace, hafter⟩ := hcloses.trace_eq
      obtain ⟨post₂, h₃⟩ := Traced.split_left (hobserve hafter) htrace.symm
      obtain ⟨pre₂, rfl, h₄⟩ := Traced.split_right
        (hsilent (List.filterMap_eq_nil_iff.mp hreceived)) h₃
      unfold ServiceRunner.rest at h₄
      split at h₄
      · refine absurd (show e ∈ (r.handOver contract s₁).trace from ?_)
          (hsilent (handOver_silent r contract s₁))
        rw [h₄]
        simp
      · obtain ⟨hadmitted, hacts⟩ := serve_actsOn hreceive h₄ he
        exact ⟨contract, hadmitted.mono (List.subset_append_right _ _), hacts⟩

/-- The shared receiver acts on no URI. -/
theorem receiver_silent (q : SharedReceiverRunner σ) (raw : RawMessage) (s : σ) :
    ∀ e ∈ (q.execute raw s).trace, e.effect? = none := by
  have hreceive : Traced.Emits (fun e : Event OpaqueParameters => e.effect? = none)
      (q.receive raw) := by
    refine Traced.Emits.bind ?_ fun _ => Traced.Emits.lift _ _
    exact Traced.Emits.call fun _ => rfl
  have huri : ∀ identity uri, Traced.Emits (fun e : Event OpaqueParameters => e.effect? = none)
      (Steps.authorizeUri q.authorizer q.schemeAllowlist identity uri) := fun _ _ =>
    (Traced.Emits.lift _ _).bind fun _ => Traced.Emits.call fun _ => rfl
  have hroute : ∀ contract, Traced.Emits
      (fun e : Event OpaqueParameters => e.effect? = none) (q.route contract) := fun contract => by
    refine Traced.Emits.bind ?_ fun _ => (Traced.Emits.lift _ _).bind fun _ =>
      (Traced.Emits.lift _ _).bind fun _ => Traced.Emits.bind ?_ fun _ => Traced.Emits.pure _ _
    · exact (Traced.Emits.each (fun _ => huri _ _) _).bind fun _ =>
        Traced.Emits.each (fun _ => huri _ _) _
    · exact Traced.Emits.call fun _ => rfl
  have hclause : ∀ failure, Traced.Emits
      (fun e : Event OpaqueParameters => e.effect? = none) (q.exceptServiceError failure) := by
    rintro ⟨rid, error | ⟨cls, message⟩⟩
    · refine Traced.Emits.bind ?_ fun _ => Traced.Emits.pure _ _
      exact Traced.Emits.call fun _ => rfl
    · exact Traced.Emits.raise _ _
  refine Traced.Emits.within ?_ ?_ (((hreceive.mapError _).bind fun contract =>
    (hroute contract).mapError _).handle hclause) s
  · exact Traced.Emits.call fun _ => rfl
  · exact Traced.Emits.call fun _ => rfl

/-- **Every URI a run reads or writes was authorized before**; what it resolves are credentials of
its contract, and the callback it posts to is the https URL of its contract; the shared receiver
reads, writes, resolves and posts nothing. -/
theorem uris_authorized (r : ServiceRunner σ P) (q : SharedReceiverRunner σ) (raw : RawMessage)
    (s : σ) :
    (∀ pre e post, (r.execute raw s).trace = pre ++ e :: post → Authorizes r raw pre e) ∧
      ∀ e ∈ (q.execute raw s).trace, e.effect? = none := by
  refine ⟨fun pre e post h => ?_, receiver_silent q raw s⟩
  have hacts := effect_actsOn h
  cases e with
  | resolve ref reply =>
    obtain ⟨contract, hadmitted, href⟩ := hacts nofun
    exact ⟨contract, hadmitted.decoded, href⟩
  | read spec credentials reply =>
    obtain ⟨contract, hadmitted, hspec⟩ := hacts nofun
    exact ⟨contract, hadmitted.decoded, hspec, hadmitted.sources spec hspec⟩
  | write spec payload credentials reply =>
    obtain ⟨contract, hadmitted, hspec⟩ := hacts nofun
    exact ⟨contract, hadmitted.decoded, hspec, hadmitted.destinations spec hspec⟩
  | notify callback payload reply =>
    obtain ⟨contract, hadmitted, hcallback⟩ := hacts nofun
    exact ⟨contract, hadmitted.decoded, hcallback, callback.https⟩
  | _ => trivial

end

/-! ## A run with a credential -/

section

attribute [local instance] UnicodeData.ascii Sample.widePydantic Sample.jsonText

/-- **A run that ends with `ok` resolves a credential and posts to a callback** that no policy
accepts: neither URI is given to the authorizer, and the allowlist of the run refuses both. -/
theorem callback_and_credential_not_authorized :
    statusOf? Sample.wideRun.result = some .ok ∧
    (∃ callback payload reply, .notify callback payload reply ∈ Sample.wideRun.trace ∧
      Sample.wideRunner.schemeAllowlist.check callback.url.text ≠ .ok () ∧
        ∀ identity reply', .authorize callback.url.text identity reply' ∉ Sample.wideRun.trace) ∧
    ∃ ref reply, .resolve ref reply ∈ Sample.wideRun.trace ∧
      Sample.wideRunner.schemeAllowlist.check ref.toUri ≠ .ok () ∧
        ∀ identity reply', .authorize ref.toUri identity reply' ∉ Sample.wideRun.trace := by
  obtain ⟨hauthorized, huris⟩ := Prod.mk.inj wide_run.2
  obtain ⟨hresolved, hposted⟩ := Prod.mk.inj huris
  have hnot : ∀ {uri : String}, uri ∉ Sample.wideRun.trace.filterMap Event.authorized? →
      ∀ identity reply', .authorize uri identity reply' ∉ Sample.wideRun.trace :=
    fun hmem identity reply' hcall => hmem (List.mem_filterMap.mpr ⟨_, hcall, rfl⟩)
  refine ⟨wide_status, ?_, ?_⟩
  · obtain ⟨e, he, hurl⟩ := List.mem_filterMap.mp
      (show "https://grabatus.com/webhook" ∈ Sample.wideRun.trace.filterMap Event.posted? from
        hposted ▸ List.mem_singleton_self _)
    cases e with
    | notify callback payload reply =>
      have hurl : callback.url.text = "https://grabatus.com/webhook" := Option.some.inj hurl
      refine ⟨callback, payload, reply, he, ?_, ?_⟩
      · rw [hurl]
        decide +kernel
      · rw [hurl]
        exact hnot (by rw [hauthorized]; decide)
    | _ => exact absurd hurl nofun
  · obtain ⟨e, he, huri⟩ := List.mem_filterMap.mp
      (show "secret://gsm/key" ∈ Sample.wideRun.trace.filterMap Event.resolved? from
        hresolved ▸ List.mem_singleton_self _)
    cases e with
    | resolve ref reply =>
      have huri : ref.toUri = "secret://gsm/key" := Option.some.inj huri
      refine ⟨ref, reply, he, ?_, ?_⟩
      · rw [huri]
        decide +kernel
      · rw [huri]
        exact hnot (by rw [hauthorized]; decide)
    | _ => exact absurd huri nofun

end

end Grabatus

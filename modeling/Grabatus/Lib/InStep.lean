import Grabatus.Lib.Retry
import Grabatus.Lib.Traced

/-!
# Two runs side by side

`InStep same mark R V m m'`: from worlds that are the `same`, `m` and `m'` both fail, with errors
under `R`, or both return, with values under `V`; the worlds they leave are the `same` again, and
so are their marked events. `same` is any relation on worlds, so what the two runs write down
differently need not be compared, as long as no later answer depends on it.

One rule for each way `Traced` puts computations together, so a program is in step with another
one, or with itself, as soon as its calls are.
-/

namespace Grabatus.Lib.Traced

variable {E σ ε ε' δ δ' α α' β β' ι κ L : Type}

/-- Both fail, with errors under `R`, or both return, with values under `V`. -/
inductive Alike (R : ε → ε' → Prop) (V : α → α' → Prop) : Except ε α → Except ε' α' → Prop
  | error {e : ε} {e' : ε'} (h : R e e') : Alike R V (.error e) (.error e')
  | ok {a : α} {a' : α'} (h : V a a') : Alike R V (.ok a) (.ok a')

theorem Alike.refl : ∀ r : Except ε α, Alike Eq Eq r r
  | .error _ => .error rfl
  | .ok _ => .ok rfl

theorem Alike.eq {r r' : Except ε α} (h : Alike Eq Eq r r') : r = r' := by
  cases h with
  | error h => rw [h]
  | ok h => rw [h]

theorem Alike.mono {R R' : ε → ε' → Prop} {V V' : α → α' → Prop} {r : Except ε α}
    {r' : Except ε' α'}
    (h : Alike R V r r') (hR : ∀ e e', R e e' → R' e e') (hV : ∀ a a', V a a' → V' a a') :
    Alike R' V' r r' := by
  cases h with
  | error h => exact .error (hR _ _ h)
  | ok h => exact .ok (hV _ _ h)

/-- From worlds that are the `same`, the two operations answer the same and leave such worlds. -/
def Respects (same : σ → σ → Prop) (f f' : σ → Except ε α × σ) : Prop :=
  ∀ s s', same s s' → (f s).1 = (f' s').1 ∧ same (f s).2 (f' s').2

section

variable {same : σ → σ → Prop}

theorem Respects.ofExcept (r : Except ε α) : Respects same (Op.ofExcept r) (Op.ofExcept r) :=
  fun _ _ hs => ⟨rfl, hs⟩

theorem Respects.bind {op op' : Op σ ε α} {f f' : α → Op σ ε β} (hop : Respects same op op')
    (hf : ∀ a, Respects same (f a) (f' a)) : Respects same (op >>= f) (op' >>= f') := by
  intro s s' hs
  obtain ⟨hreply, hworld⟩ := hop s s' hs
  rw [Op.run_bind, Op.run_bind]
  rcases hrun : op s with ⟨e | a, s₁⟩ <;> rcases hrun' : op' s' with ⟨e' | a', s₁'⟩ <;>
    rw [hrun, hrun'] at hreply hworld
  · obtain rfl := Except.error.inj hreply
    exact ⟨rfl, hworld⟩
  · exact absurd hreply nofun
  · exact absurd hreply nofun
  · obtain rfl := Except.ok.inj hreply
    exact hf a s₁ s₁' hworld

theorem Respects.mapError {op op' : Op σ ε α} (hop : Respects same op op') (f : ε → ε) :
    Respects same (Op.mapError f op) (Op.mapError f op') := by
  intro s s' hs
  obtain ⟨hreply, hworld⟩ := hop s s' hs
  unfold Op.mapError
  rcases hrun : op s with ⟨e | a, s₁⟩ <;> rcases hrun' : op' s' with ⟨e' | a', s₁'⟩ <;>
    rw [hrun, hrun'] at hreply hworld
  · obtain rfl := Except.error.inj hreply
    exact ⟨rfl, hworld⟩
  · exact absurd hreply nofun
  · exact absurd hreply nofun
  · exact ⟨hreply, hworld⟩

/-- Two operations answered the same are retried the same. -/
theorem Respects.retry {op op' : Op σ ε α} (hop : Respects same op op') (retriable : ε → Bool) :
    ∀ n : Nat, Respects same (Op.retry retriable n op) (Op.retry retriable n op')
  | 0 => hop
  | n + 1 => by
    intro s s' hs
    obtain ⟨hreply, hworld⟩ := hop s s' hs
    by_cases hr : Op.Retried retriable (op s).1
    · obtain ⟨e, he, hret⟩ := hr
      have hrun : Op.retry retriable (n + 1) op s = Op.retry retriable n op (op s).2 :=
        Op.retry_again n (Prod.ext he rfl) hret
      have hrun' : Op.retry retriable (n + 1) op' s' = Op.retry retriable n op' (op' s').2 :=
        Op.retry_again n (Prod.ext (hreply ▸ he) rfl) hret
      rw [hrun, hrun']
      exact Respects.retry hop retriable n _ _ hworld
    · rw [Op.retry_done (n + 1) hr, Op.retry_done (n + 1) (hreply ▸ hr)]
      exact ⟨hreply, hworld⟩

/-- To answer worlds that are the `same` alike is kept by every way of putting operations
together. -/
theorem Respects.closed (same : σ → σ → Prop) :
    Op.Closed (fun _ (op : Op σ ε _) => Respects same op op) where
  ofExcept := Respects.ofExcept
  bind := Respects.bind
  mapError f hop := hop.mapError f
  retry retriable n hop := hop.retry retriable n

end

/-- Two outcomes that differ in nothing that is compared. -/
structure Agree (same : σ → σ → Prop) (mark : E → Option L) (R : ε → ε' → Prop)
    (V : α → α' → Prop) (o : Outcome E σ ε α) (o' : Outcome E σ ε' α') : Prop where
  result : Alike R V o.result o'.result
  world : same o.world o'.world
  marks : o.trace.filterMap mark = o'.trace.filterMap mark

/-- From worlds that are the same, the two runs agree. -/
def InStep (same : σ → σ → Prop) (mark : E → Option L) (R : ε → ε' → Prop) (V : α → α' → Prop)
    (m : Traced E σ ε α) (m' : Traced E σ ε' α') : Prop :=
  ∀ s s', same s s' → Agree same mark R V (m s) (m' s')

variable {same : σ → σ → Prop} {mark : E → Option L} {R : ε → ε' → Prop} {V : α → α' → Prop}

namespace InStep

theorem lift {r : Except ε α} {r' : Except ε' α'} (h : Alike R V r r') :
    InStep same mark R V (lift r) (lift r') := fun _ _ hs => ⟨h, hs, rfl⟩

theorem pure {a : α} {a' : α'} (h : V a a') :
    InStep same mark R V (pure a : Traced E σ ε α) (pure a' : Traced E σ ε' α') :=
  lift (.ok h)

theorem raise {e : ε} {e' : ε'} (h : R e e') :
    InStep same mark R V (raise e : Traced E σ ε α) (raise e' : Traced E σ ε' α') :=
  lift (.error h)

/-- Calls the environment answers the same, and that leave the same mark. -/
theorem call {f f' : σ → Except ε α × σ} {ev ev' : Except ε α → E} (h : Respects same f f')
    (hmark : ∀ r, mark (ev r) = mark (ev' r)) :
    InStep same mark Eq Eq (call f ev) (call f' ev') := by
  intro s s' hs
  obtain ⟨hreply, hworld⟩ := h s s' hs
  refine ⟨?_, hworld, ?_⟩
  · show Alike Eq Eq (f s).1 (f' s').1
    rw [hreply]
    exact Alike.refl _
  · show [ev (f s).1].filterMap mark = [ev' (f' s').1].filterMap mark
    rw [hreply, List.filterMap_cons, List.filterMap_cons, hmark]

theorem mono {R' : ε → ε' → Prop} {V' : α → α' → Prop} {m : Traced E σ ε α} {m' : Traced E σ ε' α'}
    (h : InStep same mark R V m m') (hR : ∀ e e', R e e' → R' e e')
    (hV : ∀ a a', V a a' → V' a a') : InStep same mark R' V' m m' := fun s s' hs =>
  ⟨(h s s' hs).result.mono hR hV, (h s s' hs).world, (h s s' hs).marks⟩

/-- **Sequencing**: what follows need only be in step after values under `V`. -/
theorem bind {W : β → β' → Prop} {m : Traced E σ ε α} {m' : Traced E σ ε' α'}
    {f : α → Traced E σ ε β} {f' : α' → Traced E σ ε' β'} (hm : InStep same mark R V m m')
    (hf : ∀ a a', V a a' → InStep same mark R W (f a) (f' a')) :
    InStep same mark R W (m >>= f) (m' >>= f') := by
  intro s s' hs
  obtain ⟨hresult, hworld, hmarks⟩ := hm s s' hs
  rcases hrun : m s with ⟨r, s₁, t⟩
  rcases hrun' : m' s' with ⟨r', s₁', t'⟩
  rw [hrun, hrun'] at hresult hworld hmarks
  cases hresult with
  | error h =>
    rw [run_bind_error f hrun, run_bind_error f' hrun']
    exact ⟨.error h, hworld, hmarks⟩
  | ok h =>
    obtain ⟨hresult, hworld, hrest⟩ := hf _ _ h s₁ s₁' hworld
    rw [run_bind_ok f hrun, run_bind_ok f' hrun']
    refine ⟨hresult, hworld, ?_⟩
    simp only [List.filterMap_append]
    rw [hmarks, hrest]

/-- What every value of `m` satisfies may be assumed of the values compared. -/
theorem known {Q : α → Prop} {m : Traced E σ ε α} {m' : Traced E σ ε' α'}
    (h : InStep same mark R V m m') (hQ : ∀ s a, (m s).result = .ok a → Q a) :
    InStep same mark R (fun a a' => V a a' ∧ Q a) m m' := by
  intro s s' hs
  obtain ⟨hresult, hworld, hmarks⟩ := h s s' hs
  refine ⟨?_, hworld, hmarks⟩
  rcases hr : (m s).result with e | a <;> rcases hr' : (m' s').result with e' | a' <;>
    rw [hr, hr'] at hresult
  · cases hresult with
    | error he => exact .error he
  · nomatch hresult
  · nomatch hresult
  · cases hresult with
    | ok ha => exact .ok ⟨ha, hQ s a hr⟩

/-- The same, where the values are compared by equality. -/
theorem seq {W : β → β' → Prop} {m : Traced E σ ε α} {m' : Traced E σ ε' α}
    {f : α → Traced E σ ε β} {f' : α → Traced E σ ε' β'} (hm : InStep same mark R Eq m m')
    (hf : ∀ a, InStep same mark R W (f a) (f' a)) : InStep same mark R W (m >>= f) (m' >>= f') :=
  hm.bind fun a a' ha => by
    subst ha
    exact hf a

theorem mapError {S : δ → δ' → Prop} {f : ε → δ} {f' : ε' → δ'} {m : Traced E σ ε α}
    {m' : Traced E σ ε' α'} (hm : InStep same mark R V m m')
    (hf : ∀ e e', R e e' → S (f e) (f' e')) :
    InStep same mark S V (mapError f m) (mapError f' m') := by
  intro s s' hs
  obtain ⟨hresult, hworld, hmarks⟩ := hm s s' hs
  refine ⟨?_, hworld, hmarks⟩
  show Alike S V ((m s).result.mapError f) ((m' s').result.mapError f')
  rcases hrun : (m s).result with e | a <;> rcases hrun' : (m' s').result with e' | a' <;>
    rw [hrun, hrun'] at hresult <;> cases hresult
  · exact .error (hf _ _ ‹_›)
  · exact .ok ‹_›

/-- `try: m except: h`: the handlers need only be in step on errors under `R`. -/
theorem handle {S : δ → δ' → Prop} {h : ε → Traced E σ δ α} {h' : ε' → Traced E σ δ' α'}
    {m : Traced E σ ε α} {m' : Traced E σ ε' α'} (hm : InStep same mark R V m m')
    (hh : ∀ e e', R e e' → InStep same mark S V (h e) (h' e')) :
    InStep same mark S V (handle m h) (handle m' h') := by
  intro s s' hs
  obtain ⟨hresult, hworld, hmarks⟩ := hm s s' hs
  rcases hrun : m s with ⟨r, s₁, t⟩
  rcases hrun' : m' s' with ⟨r', s₁', t'⟩
  rw [hrun, hrun'] at hresult hworld hmarks
  cases hresult with
  | error he =>
    obtain ⟨hresult, hworld, hrest⟩ := hh _ _ he s₁ s₁' hworld
    rw [run_handle_error hrun, run_handle_error hrun']
    refine ⟨hresult, hworld, ?_⟩
    simp only [List.filterMap_append]
    rw [hmarks, hrest]
  | ok ha =>
    rw [run_handle_ok hrun, run_handle_ok hrun']
    exact ⟨.ok ha, hworld, hmarks⟩

theorem attempt {m : Traced E σ ε α} {m' : Traced E σ ε' α'} (hm : InStep same mark R V m m') :
    InStep same mark R (Alike R V) (attempt m) (attempt m') := fun s s' hs =>
  ⟨.ok (hm s s' hs).result, (hm s s' hs).world, (hm s s' hs).marks⟩

/-- `with`: entering, the bodies and leaving are each in step. -/
theorem within {enter exit : Traced E σ ε Unit} {enter' exit' : Traced E σ ε' Unit}
    {body : Traced E σ ε α} {body' : Traced E σ ε' α'} (henter : InStep same mark R Eq enter enter')
    (hexit : InStep same mark R Eq exit exit') (hbody : InStep same mark R V body body') :
    InStep same mark R V (within enter exit body) (within enter' exit' body') :=
  henter.seq fun _ => hbody.attempt.bind fun _ _ hresult => hexit.seq fun _ => lift hresult

/-! ## Loops -/

theorem each {f : ι → Traced E σ ε Unit} {f' : ι → Traced E σ ε' Unit}
    (hf : ∀ x, InStep same mark R Eq (f x) (f' x)) :
    ∀ xs : List ι, InStep same mark R Eq (each f xs) (each f' xs)
  | [] => pure rfl
  | x :: xs => (hf x).seq fun _ => each hf xs

theorem collectInto [DecidableEq κ] {key : ι → κ} {g : ι → Traced E σ ε β}
    {g' : ι → Traced E σ ε' β} (hg : ∀ x, InStep same mark R Eq (g x) (g' x)) :
    ∀ (xs : List ι) (d : Dict κ β),
      InStep same mark R Eq (collectInto key g d xs) (collectInto key g' d xs)
  | [], _ => pure rfl
  | x :: xs, d => (hg x).seq fun v => collectInto hg xs (d.set (key x) v)

/-- A loop whose items are in step is, and fills one dictionary. -/
theorem collect [DecidableEq κ] {key : ι → κ} {g : ι → Traced E σ ε β} {g' : ι → Traced E σ ε' β}
    (hg : ∀ x, InStep same mark R Eq (g x) (g' x)) (xs : List ι) :
    InStep same mark R Eq (collect key g xs) (collect key g' xs) := collectInto hg xs Dict.empty

/-! ## Loops over what differs -/

section

variable {W : β → β' → Prop}

/-- Calls whose answers are alike, and leave the same mark. -/
theorem callAlike {W : α → α' → Prop} {f : σ → Except ε α × σ} {f' : σ → Except ε' α' × σ}
    {ev : Except ε α → E} {ev' : Except ε' α' → E}
    (h : ∀ s s', same s s' → Alike R W (f s).1 (f' s').1 ∧ same (f s).2 (f' s').2)
    (hmark : ∀ r r', Alike R W r r' → mark (ev r) = mark (ev' r')) :
    InStep same mark R W (Traced.call f ev) (Traced.call f' ev') := by
  intro s s' hs
  obtain ⟨hreply, hworld⟩ := h s s' hs
  refine ⟨hreply, hworld, ?_⟩
  show [ev (f s).1].filterMap mark = [ev' (f' s').1].filterMap mark
  rw [List.filterMap_cons, List.filterMap_cons, hmark _ _ hreply]

theorem collectIntoOfMem [DecidableEq κ] {key : ι → κ} {g : ι → Traced E σ ε β}
    {g' : ι → Traced E σ ε' β'} : ∀ {xs : List ι} {d : Dict κ β} {d' : Dict κ β'},
      (∀ x ∈ xs, InStep same mark R W (g x) (g' x)) → Dict.Alike W d d' →
        InStep same mark R (Dict.Alike W) (Traced.collectInto key g d xs)
          (Traced.collectInto key g' d' xs)
  | [], _, _, _, hd => InStep.pure hd
  | x :: _, _, _, h, hd => (h x List.mem_cons_self).bind fun _ _ hv =>
    collectIntoOfMem (fun y hy => h y (List.mem_cons_of_mem _ hy)) (hd.set (key x) hv)

/-- **A loop whose items are in step**, their values under `V`, fills dictionaries that are
alike. -/
theorem collectOfMem [DecidableEq κ] {key : ι → κ} {g : ι → Traced E σ ε β}
    {g' : ι → Traced E σ ε' β'} {xs : List ι} (h : ∀ x ∈ xs, InStep same mark R W (g x) (g' x)) :
    InStep same mark R (Dict.Alike W) (Traced.collect key g xs) (Traced.collect key g' xs) :=
  collectIntoOfMem h .empty

end

end InStep

end Grabatus.Lib.Traced

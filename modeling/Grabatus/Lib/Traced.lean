import Grabatus.Lib.Dict
import Mathlib.Data.List.Infix

/-!
# Traced computations

A `Traced E σ ε α` reads and changes a world `σ`, returns an `α` or fails with an `ε`, and records
the events `E` it caused, in order. The world is the state of whatever the computation talks to:
a port is a function of it, so quantifying over the world and over such functions quantifies over
every behaviour of the environment, replies that depend on earlier calls included.

Rules, all over arbitrary events and errors:
* inversion: `bind_ok`, `bind_error` take a run of `m >>= f` apart; `collect_ok` takes the loop
  `for x in xs: d[key x] = g x` apart into one reply per item.
* `Follows lab plan m`: in every run the labelled events of `m` are a prefix of `plan`, all of it
  when `m` returns. It composes along `>>=` (`Follows.bind`) and along a loop
  (`Follows.collect`), so the plan of a pipeline is the concatenation of its steps' plans.
* `Emits Q m`: every event of `m` satisfies `Q`.
* `Obeys R m`: every run of `m` relates the world before it, its events and the world after it by
  `R`; one rule for each way of putting computations together, where `R` composes (`Composes`).
  `Frames loud view m` (a run without a loud event leaves a view of the world as it was)
  and `Charges count lab n m` (a run adds to a count at most `n` for each labelled event) are of
  this kind.
* `FailsWith P m`: every error of `m` satisfies `P`. It composes likewise, each step knowing what
  the one before it returned.
* **An event `m` cannot cause comes, in `m >>= f`, after the whole of a returning run of `m`**
  (`bind_split`), so what `m` established holds at that point.
-/

namespace Grabatus.Lib

/-- What a run leaves: its result, the world after it, and the events it caused. -/
structure Outcome (E σ ε α : Type) where
  result : Except ε α
  world : σ
  trace : List E

/-- A computation over a world that may fail and records events. -/
def Traced (E σ ε α : Type) : Type := σ → Outcome E σ ε α

namespace Traced

variable {E σ ε ε' α β ι κ L : Type}

/-- Return `a`, touching nothing. -/
def ret (a : α) : Traced E σ ε α := fun s => ⟨.ok a, s, []⟩

/-- Run `m`, then `f` on what it returned; a failure of `m` ends the run. -/
def andThen (m : Traced E σ ε α) (f : α → Traced E σ ε β) : Traced E σ ε β := fun s =>
  match m s with
  | ⟨.ok a, s', t⟩ => ⟨(f a s').result, (f a s').world, t ++ (f a s').trace⟩
  | ⟨.error e, s', t⟩ => ⟨.error e, s', t⟩

instance : Monad (Traced E σ ε) where
  pure := ret
  bind := andThen

/-- `raise e`. -/
def raise (e : ε) : Traced E σ ε α := fun s => ⟨.error e, s, []⟩

/-- A pure computation that may fail. -/
def lift (r : Except ε α) : Traced E σ ε α := fun s => ⟨r, s, []⟩

/-- One call to the environment: `f` answers, `ev` records the answer. -/
def call (f : σ → Except ε α × σ) (ev : Except ε α → E) : Traced E σ ε α := fun s =>
  ⟨(f s).1, (f s).2, [ev (f s).1]⟩

/-- `m`, with its error under `f`. -/
def mapError (f : ε → ε') (m : Traced E σ ε α) : Traced E σ ε' α := fun s =>
  ⟨(m s).result.mapError f, (m s).world, (m s).trace⟩

/-- `try: m except: h`. -/
def handle (m : Traced E σ ε α) (h : ε → Traced E σ ε' α) : Traced E σ ε' α := fun s =>
  match m s with
  | ⟨.ok a, s', t⟩ => ⟨.ok a, s', t⟩
  | ⟨.error e, s', t⟩ => ⟨(h e s').result, (h e s').world, t ++ (h e s').trace⟩

/-- Run `m`, its error held. -/
def attempt (m : Traced E σ ε α) : Traced E σ ε (Except ε α) := fun s =>
  ⟨.ok (m s).result, (m s).world, (m s).trace⟩

/-- `with`: `enter`, the body, then `exit` whether the body returned or failed. An error of
`exit` replaces the body's. -/
def within (enter exit : Traced E σ ε Unit) (body : Traced E σ ε α) : Traced E σ ε α := do
  enter
  let r ← attempt body
  exit
  lift r

/-- The loop `for x in xs: f x`. -/
def each (f : ι → Traced E σ ε Unit) : List ι → Traced E σ ε Unit
  | [] => pure ()
  | x :: xs => do
    f x
    each f xs

/-- The loop `for x in xs: d[key x] = g x`. -/
def collectInto [DecidableEq κ] (key : ι → κ) (g : ι → Traced E σ ε β) :
    Dict κ β → List ι → Traced E σ ε (Dict κ β)
  | d, [] => pure d
  | d, x :: xs => do
    let v ← g x
    collectInto key g (d.set (key x) v) xs

/-- The same loop from an empty dictionary. -/
def collect [DecidableEq κ] (key : ι → κ) (g : ι → Traced E σ ε β) (xs : List ι) :
    Traced E σ ε (Dict κ β) := collectInto key g Dict.empty xs

/-! ## Running -/

@[simp] theorem run_pure (a : α) (s : σ) : (pure a : Traced E σ ε α) s = ⟨.ok a, s, []⟩ := rfl

@[simp] theorem run_raise (e : ε) (s : σ) : (raise e : Traced E σ ε α) s = ⟨.error e, s, []⟩ := rfl

@[simp] theorem run_lift (r : Except ε α) (s : σ) :
    (lift r : Traced E σ ε α) s = ⟨r, s, []⟩ := rfl

theorem run_attempt (m : Traced E σ ε α) (s : σ) :
    attempt m s = ⟨.ok (m s).result, (m s).world, (m s).trace⟩ := rfl

theorem run_bind_ok {m : Traced E σ ε α} {s s' : σ} {a : α} {t : List E} (f : α → Traced E σ ε β)
    (h : m s = ⟨.ok a, s', t⟩) :
    (m >>= f) s = ⟨(f a s').result, (f a s').world, t ++ (f a s').trace⟩ := by
  show andThen m f s = _
  unfold andThen
  rw [h]

theorem run_bind_error {m : Traced E σ ε α} {s s' : σ} {e : ε} {t : List E}
    (f : α → Traced E σ ε β) (h : m s = ⟨.error e, s', t⟩) : (m >>= f) s = ⟨.error e, s', t⟩ := by
  show andThen m f s = _
  unfold andThen
  rw [h]

/-- The events of `m` are events of `m >>= f`. -/
theorem mem_trace_bind {m : Traced E σ ε α} {s : σ} {e : E} (h : e ∈ (m s).trace)
    (f : α → Traced E σ ε β) : e ∈ ((m >>= f) s).trace := by
  rcases hm : m s with ⟨err | a, s', t⟩
  · rw [run_bind_error f hm]
    rwa [hm] at h
  · rw [run_bind_ok f hm]
    rw [hm] at h
    exact List.mem_append_left _ h

/-- A returning run of `m >>= f` is a returning run of `m`, then one of `f`. -/
theorem bind_ok {m : Traced E σ ε α} {f : α → Traced E σ ε β} {s : σ} {b : β}
    (h : ((m >>= f) s).result = .ok b) :
    ∃ a s' t, m s = ⟨.ok a, s', t⟩ ∧ (f a s').result = .ok b ∧
      ((m >>= f) s).trace = t ++ (f a s').trace ∧ ((m >>= f) s).world = (f a s').world := by
  rcases hm : m s with ⟨r, s', t⟩
  cases r with
  | ok a =>
    rw [run_bind_ok f hm] at h ⊢
    exact ⟨a, s', t, rfl, h, rfl, rfl⟩
  | error e =>
    rw [run_bind_error f hm] at h
    exact absurd h (by simp)

/-- A returning run of `lift r >>= f` is the run of `f`. -/
theorem lift_bind_run {r : Except ε α} {f : α → Traced E σ ε β} {s : σ} {b : β}
    (h : ((lift r >>= f) s).result = .ok b) : ∃ a, r = .ok a ∧ (lift r >>= f) s = f a s := by
  rcases r with e | a
  · exact absurd h nofun
  · exact ⟨a, rfl, run_bind_ok f (run_lift _ s)⟩

/-- Its result and its trace are those of `f`. -/
theorem lift_bind_ok {r : Except ε α} {f : α → Traced E σ ε β} {s : σ} {b : β}
    (h : ((lift r >>= f) s).result = .ok b) :
    ∃ a, r = .ok a ∧ (f a s).result = .ok b ∧ ((lift r >>= f) s).trace = (f a s).trace := by
  obtain ⟨a, hr, hrun⟩ := lift_bind_run h
  exact ⟨a, hr, hrun ▸ h, congrArg Outcome.trace hrun⟩

/-- A call whose reply is passed on. -/
theorem call_bind_pure (f : σ → Except ε α × σ) (ev : Except ε α → E) (g : α → β) (s : σ) :
    (call f ev >>= fun a => pure (g a)) s = ⟨(f s).1.map g, (f s).2, [ev (f s).1]⟩ := by
  rcases hf : (f s).1 with e | a
  · rw [run_bind_error _ (show call f ev s = ⟨.error e, (f s).2, [ev (f s).1]⟩ by
      rw [← hf]; rfl), hf]
    rfl
  · rw [run_bind_ok _ (show call f ev s = ⟨.ok a, (f s).2, [ev (f s).1]⟩ by rw [← hf]; rfl), hf]
    rfl

/-- A call that returned recorded its reply. -/
theorem call_ok {f : σ → Except ε α × σ} {ev : Except ε α → E} {s : σ} {a : α}
    (h : (call f ev s).result = .ok a) : (call f ev s).trace = [ev (.ok a)] := by
  show [ev (f s).1] = _
  rw [show (f s).1 = .ok a from h]

theorem trace_of_call {f : σ → Except ε α × σ} {ev : Except ε α → E} {s s' : σ} {a : α}
    {t : List E} (h : call f ev s = ⟨.ok a, s', t⟩) : t = [ev (.ok a)] := by
  rw [← call_ok (congrArg Outcome.result h), h]

theorem trace_of_call_error {f : σ → Except ε α × σ} {ev : Except ε α → E} {s s' : σ} {e : ε}
    {t : List E} (h : call f ev s = ⟨.error e, s', t⟩) : t = [ev (.error e)] := by
  obtain ⟨hr, -, rfl⟩ := Outcome.mk.inj h
  rw [hr]

/-- A failing run of `m >>= f` fails in `m`, or in `f` after `m` returned. -/
theorem bind_error {m : Traced E σ ε α} {f : α → Traced E σ ε β} {s : σ} {e : ε}
    (h : ((m >>= f) s).result = .error e) :
    (∃ s' t, m s = ⟨.error e, s', t⟩ ∧ (m >>= f) s = ⟨.error e, s', t⟩) ∨
      ∃ a s' t, m s = ⟨.ok a, s', t⟩ ∧ (f a s').result = .error e ∧
        ((m >>= f) s).trace = t ++ (f a s').trace ∧ ((m >>= f) s).world = (f a s').world := by
  rcases hm : m s with ⟨r, s', t⟩
  cases r with
  | ok a =>
    rw [run_bind_ok f hm] at h ⊢
    exact Or.inr ⟨a, s', t, rfl, h, rfl, rfl⟩
  | error e' =>
    rw [run_bind_error f hm] at h ⊢
    obtain rfl := Except.error.inj h
    exact Or.inl ⟨s', t, rfl, rfl⟩

/-- An element that is not in the first list stands in the second. -/
theorem split_right {l l' pre post : List E} {e : E} (he : e ∉ l)
    (h : l ++ l' = pre ++ e :: post) : ∃ rest, pre = l ++ rest ∧ l' = rest ++ e :: post := by
  rcases List.append_eq_append_iff.mp h with ⟨rest, hpre, hl'⟩ | ⟨rest, hl, hrest⟩
  · exact ⟨rest, hpre, hl'⟩
  · rcases rest with - | ⟨e', rest⟩
    · exact ⟨[], by simpa using hl.symm, by simpa using hrest.symm⟩
    · obtain ⟨rfl, -⟩ := List.cons.inj hrest
      exact absurd (by rw [hl]; simp) he

/-- An element that is not in the second list stands in the first. -/
theorem split_left {l l' pre post : List E} {e : E} (he : e ∉ l')
    (h : l ++ l' = pre ++ e :: post) : ∃ post', l = pre ++ e :: post' := by
  rcases List.append_eq_append_iff.mp h with ⟨rest, -, hl'⟩ | ⟨rest, hl, hrest⟩
  · exact absurd (by rw [hl']; simp) he
  · rcases rest with - | ⟨e', rest⟩
    · exact absurd (by rw [← (show e :: post = l' by simpa using hrest)]; simp) he
    · obtain ⟨rfl, -⟩ := List.cons.inj hrest
      exact ⟨rest, hl⟩

/-- **An event `m` cannot cause comes after the whole of `m`.** -/
theorem bind_split {m : Traced E σ ε α} {f : α → Traced E σ ε β} {s : σ} {pre post : List E}
    {e : E} (hm : e ∉ (m s).trace) (h : ((m >>= f) s).trace = pre ++ e :: post) :
    ∃ a s' t rest, m s = ⟨.ok a, s', t⟩ ∧ pre = t ++ rest ∧
      (f a s').trace = rest ++ e :: post := by
  rcases hr : m s with ⟨r, s', t⟩
  rw [hr] at hm
  cases r with
  | error err =>
    rw [run_bind_error f hr] at h
    obtain rfl : t = pre ++ e :: post := h
    exact absurd (by simp) hm
  | ok a =>
    rw [run_bind_ok f hr] at h
    obtain ⟨rest, hpre, hrest⟩ := split_right hm h
    exact ⟨a, s', t, rest, rfl, hpre, hrest⟩

theorem mapError_ok {f : ε → ε'} {m : Traced E σ ε α} {s s' : σ} {a : α} {t : List E} :
    mapError f m s = ⟨.ok a, s', t⟩ ↔ m s = ⟨.ok a, s', t⟩ := by
  unfold mapError
  rcases m s with ⟨e | b, s'', t'⟩ <;> simp [Except.mapError]

theorem ok_of_mapError {f : ε → ε'} {m : Traced E σ ε α} {s : σ} {a : α}
    (h : (mapError f m s).result = .ok a) : (m s).result = .ok a := by
  rcases hr : m s with ⟨e | b, s', t⟩
  · rw [mapError, hr] at h
    exact absurd h nofun
  · rw [mapError, hr] at h
    simpa [Except.mapError] using h

theorem mapError_error {f : ε → ε'} {m : Traced E σ ε α} {s s' : σ} {e' : ε'} {t : List E} :
    mapError f m s = ⟨.error e', s', t⟩ ↔ ∃ e, f e = e' ∧ m s = ⟨.error e, s', t⟩ := by
  unfold mapError
  rcases m s with ⟨e | b, s'', t'⟩ <;> simp [Except.mapError]

theorem run_handle_ok {m : Traced E σ ε α} {h : ε → Traced E σ ε' α} {s s' : σ} {a : α}
    {t : List E} (hm : m s = ⟨.ok a, s', t⟩) : handle m h s = ⟨.ok a, s', t⟩ := by
  unfold handle
  rw [hm]

theorem run_handle_error {m : Traced E σ ε α} {h : ε → Traced E σ ε' α} {s s' : σ} {e : ε}
    {t : List E} (hm : m s = ⟨.error e, s', t⟩) :
    handle m h s = ⟨(h e s').result, (h e s').world, t ++ (h e s').trace⟩ := by
  unfold handle
  rw [hm]

theorem run_within_error {enter exit : Traced E σ ε Unit} {body : Traced E σ ε α} {s s' : σ}
    {e : ε} {t : List E} (h : enter s = ⟨.error e, s', t⟩) :
    within enter exit body s = ⟨.error e, s', t⟩ := run_bind_error _ h

theorem run_within_exit_error {enter exit : Traced E σ ε Unit} {body : Traced E σ ε α}
    {s s' s'' : σ} {e : ε} {t t' : List E} (h : enter s = ⟨.ok (), s', t⟩)
    (hx : exit (body s').world = ⟨.error e, s'', t'⟩) :
    within enter exit body s = ⟨.error e, s'', t ++ ((body s').trace ++ t')⟩ := by
  unfold within
  rw [run_bind_ok _ h, run_bind_ok _ (run_attempt body s'), run_bind_error _ hx]

theorem run_within_ok {enter exit : Traced E σ ε Unit} {body : Traced E σ ε α}
    {s s' s'' : σ} {t t' : List E} (h : enter s = ⟨.ok (), s', t⟩)
    (hx : exit (body s').world = ⟨.ok (), s'', t'⟩) :
    within enter exit body s = ⟨(body s').result, s'', t ++ ((body s').trace ++ t')⟩ := by
  unfold within
  rw [run_bind_ok _ h, run_bind_ok _ (run_attempt body s'), run_bind_ok _ hx, run_lift,
    List.append_nil]

/-- **What `within` does**: nothing but the entry when that fails; otherwise the body runs, and its
result stands unless the exit fails. -/
theorem run_within_cases (enter exit : Traced E σ ε Unit) (body : Traced E σ ε α) (s : σ) :
    (∃ e s' t, enter s = ⟨.error e, s', t⟩ ∧ within enter exit body s = ⟨.error e, s', t⟩) ∨
    ∃ s₀ t₀ reply s' t', enter s = ⟨.ok (), s₀, t₀⟩ ∧
      exit (body s₀).world = ⟨reply, s', t'⟩ ∧
        within enter exit body s = ⟨reply.bind fun _ => (body s₀).result, s',
          t₀ ++ ((body s₀).trace ++ t')⟩ := by
  rcases hin : enter s with ⟨e | ⟨⟩, s₀, t₀⟩
  · exact .inl ⟨e, s₀, t₀, rfl, run_within_error hin⟩
  · rcases hout : exit (body s₀).world with ⟨e | ⟨⟩, s', t'⟩
    · exact .inr ⟨s₀, t₀, .error e, s', t', rfl, hout, run_within_exit_error hin hout⟩
    · exact .inr ⟨s₀, t₀, .ok (), s', t', rfl, hout, run_within_ok hin hout⟩

/-! ## Loops -/

theorem each_map {κ : Type} (f : κ → Traced E σ ε Unit) (g : ι → κ) :
    ∀ xs : List ι, each f (xs.map g) = each (fun x => f (g x)) xs
  | [] => rfl
  | x :: xs => by
    show (f (g x) >>= fun _ => each f (xs.map g)) = (f (g x) >>= fun _ => each _ xs)
    rw [each_map f g xs]

/-- A loop over two lists is the one loop, then the other. -/
theorem each_append (f : ι → Traced E σ ε Unit) (ys : List ι) :
    ∀ xs : List ι, each f (xs ++ ys) = (each f xs >>= fun _ => each f ys)
  | [] => by
    funext s
    rw [run_bind_ok _ (show (each f [] : Traced E σ ε Unit) s = ⟨.ok (), s, []⟩ from rfl)]
    rfl
  | x :: xs => by
    funext s
    show (f x >>= fun _ => each f (xs ++ ys)) s = ((f x >>= fun _ => each f xs) >>= _) s
    rw [each_append f ys xs]
    rcases hx : f x s with ⟨e | ⟨⟩, s₁, t₁⟩
    · rw [run_bind_error _ hx, run_bind_error _ (run_bind_error _ hx)]
    · rcases hxs : each f xs s₁ with ⟨e | ⟨⟩, s₂, t₂⟩
      · have hinner := run_bind_ok (fun _ => each f xs) hx
        rw [run_bind_ok _ hx, run_bind_error _ hxs, run_bind_error _ (hinner.trans (by rw [hxs]))]
      · have hinner := run_bind_ok (fun _ => each f xs) hx
        rw [run_bind_ok _ hx, run_bind_ok _ hxs, run_bind_ok _ (hinner.trans (by rw [hxs])),
          List.append_assoc]

theorem collectInto_ok [DecidableEq κ] {key : ι → κ} {g : ι → Traced E σ ε β}
    (ev : ι → β → List E) (post : ι → β → Prop)
    (hg : ∀ x s v, (g x s).result = .ok v → (g x s).trace = ev x v ∧ post x v) :
    ∀ (xs : List ι) (d0 d : Dict κ β) (s : σ), (collectInto key g d0 xs s).result = .ok d →
      ∃ ps : List (ι × β), ps.map Prod.fst = xs ∧ d = Dict.fill key d0 ps ∧
        (collectInto key g d0 xs s).trace = ps.flatMap (fun p => ev p.1 p.2) ∧
          ∀ p ∈ ps, post p.1 p.2
  | [], d0, d, s, h => by
    obtain rfl := Except.ok.inj h
    exact ⟨[], rfl, rfl, rfl, by simp⟩
  | x :: xs, d0, d, s, h => by
    simp only [collectInto] at h ⊢
    obtain ⟨v, s', t, hv, hrest, htr, -⟩ := bind_ok h
    obtain ⟨ht, hpost⟩ := hg x s v (by rw [hv])
    obtain ⟨ps, hps, hd, htps, hall⟩ := collectInto_ok ev post hg xs _ d s' hrest
    refine ⟨(x, v) :: ps, by rw [List.map_cons, hps], hd, ?_, ?_⟩
    · rw [htr, htps, List.flatMap_cons, ← ht, hv]
    · rintro p hp
      rcases List.mem_cons.mp hp with rfl | hp
      · exact hpost
      · exact hall p hp

/-- **A loop that returns got one reply per item**, in order; its trace is the items' traces and
its dictionary the replies under their keys. -/
theorem collect_ok [DecidableEq κ] {key : ι → κ} {g : ι → Traced E σ ε β}
    (ev : ι → β → List E) (post : ι → β → Prop)
    (hg : ∀ x s v, (g x s).result = .ok v → (g x s).trace = ev x v ∧ post x v)
    {xs : List ι} {d : Dict κ β} {s : σ} (h : (collect key g xs s).result = .ok d) :
    ∃ ps : List (ι × β), ps.map Prod.fst = xs ∧ d = Dict.fill key Dict.empty ps ∧
      (collect key g xs s).trace = ps.flatMap (fun p => ev p.1 p.2) ∧ ∀ p ∈ ps, post p.1 p.2 :=
  collectInto_ok ev post hg xs Dict.empty d s h

theorem collectInto_world [DecidableEq κ] {ν : Type} {key : ι → κ} {g : ι → Traced E σ ε β}
    (view : σ → ν) (update : ν → ι → ν)
    (hg : ∀ x s v, (g x s).result = .ok v → view (g x s).world = update (view s) x) :
    ∀ (xs : List ι) (d0 d : Dict κ β) (s : σ), (collectInto key g d0 xs s).result = .ok d →
      view (collectInto key g d0 xs s).world = xs.foldl update (view s)
  | [], _, _, _, _ => rfl
  | x :: xs, d0, d, s, h => by
    simp only [collectInto] at h ⊢
    obtain ⟨v, s', t, hv, hrest, -, hworld⟩ := bind_ok h
    have hstep := hg x s v (by rw [hv])
    rw [hv] at hstep
    rw [hworld, collectInto_world view update hg xs _ d s' hrest, hstep]
    rfl

/-- **A loop that returns leaves what its items leave one after the other**, in any view of the
world that each of them updates. -/
theorem collect_world [DecidableEq κ] {ν : Type} {key : ι → κ} {g : ι → Traced E σ ε β}
    (view : σ → ν) (update : ν → ι → ν)
    (hg : ∀ x s v, (g x s).result = .ok v → view (g x s).world = update (view s) x)
    {xs : List ι} {d : Dict κ β} {s : σ} (h : (collect key g xs s).result = .ok d) :
    view (collect key g xs s).world = xs.foldl update (view s) :=
  collectInto_world view update hg xs Dict.empty d s h

/-- A loop that returns ran every item. -/
theorem each_ok {f : ι → Traced E σ ε Unit} (ev : ι → E) {post : ι → Prop}
    (hf : ∀ x s, (f x s).result = .ok () → post x ∧ ev x ∈ (f x s).trace) :
    ∀ {xs : List ι} {s : σ}, (each f xs s).result = .ok () →
      ∀ x ∈ xs, post x ∧ ev x ∈ (each f xs s).trace
  | x :: xs, s, h, y, hy => by
    simp only [each] at h ⊢
    obtain ⟨⟨⟩, s', t, hx, hrest, htr, -⟩ := bind_ok h
    rw [htr]
    rcases List.mem_cons.mp hy with rfl | hy
    · obtain ⟨hpost, hev⟩ := hf y s (by rw [hx])
      rw [hx] at hev
      exact ⟨hpost, List.mem_append_left _ hev⟩
    · obtain ⟨hpost, hev⟩ := each_ok ev hf hrest y hy
      exact ⟨hpost, List.mem_append_right _ hev⟩

/-! ## Plans -/

/-- In every run of `m` the labelled events are a prefix of `plan`, and all of it when `m`
returns. -/
def Follows (lab : E → Option L) (plan : List L) (m : Traced E σ ε α) : Prop :=
  ∀ s, (m s).trace.filterMap lab <+: plan ∧
    ∀ a, (m s).result = .ok a → (m s).trace.filterMap lab = plan

theorem Follows.pure (lab : E → Option L) (a : α) :
    Follows lab [] (pure a : Traced E σ ε α) := fun _ => ⟨List.prefix_refl _, fun _ _ => rfl⟩

theorem Follows.raise (lab : E → Option L) (plan : List L) (e : ε) :
    Follows lab plan (raise e : Traced E σ ε α) :=
  fun _ => ⟨List.nil_prefix, fun _ h => absurd h (by simp)⟩

theorem Follows.lift (lab : E → Option L) (r : Except ε α) :
    Follows lab [] (lift r : Traced E σ ε α) := fun _ => ⟨List.prefix_refl _, fun _ _ => rfl⟩

/-- **Plans concatenate along sequencing.** -/
theorem Follows.bind {lab : E → Option L} {p q : List L} {m : Traced E σ ε α}
    {f : α → Traced E σ ε β} (hm : Follows lab p m) (hf : ∀ a, Follows lab q (f a)) :
    Follows lab (p ++ q) (m >>= f) := by
  intro s
  obtain ⟨hpre, hall⟩ := hm s
  rcases h : m s with ⟨r, s', t⟩
  rw [h] at hpre hall
  cases r with
  | error e =>
    rw [run_bind_error f h]
    exact ⟨hpre.trans (List.prefix_append p q), fun _ h => absurd h (by simp)⟩
  | ok a =>
    obtain ⟨hpre', hall'⟩ := hf a s'
    rw [run_bind_ok f h]
    simp only [List.filterMap_append]
    rw [hall a rfl]
    exact ⟨(List.prefix_append_right_inj p).mpr hpre', fun b hb => by rw [hall' b hb]⟩

/-- A computation whose labelled events are none. -/
abbrev Silent (lab : E → Option L) (m : Traced E σ ε α) : Prop := Follows lab [] m

/-- A silent step before a plan leaves the plan. -/
theorem Follows.silent_bind {lab : E → Option L} {q : List L} {m : Traced E σ ε α}
    {f : α → Traced E σ ε β} (hm : Silent lab m) (hf : ∀ a, Follows lab q (f a)) :
    Follows lab q (m >>= f) := by simpa using hm.bind hf

/-- A silent step after a plan leaves the plan. -/
theorem Follows.bind_silent {lab : E → Option L} {p : List L} {m : Traced E σ ε α}
    {f : α → Traced E σ ε β} (hm : Follows lab p m) (hf : ∀ a, Silent lab (f a)) :
    Follows lab p (m >>= f) := by simpa using hm.bind hf

theorem Follows.call {lab : E → Option L} {l : L} {f : σ → Except ε α × σ}
    {ev : Except ε α → E} (h : ∀ r, lab (ev r) = some l) : Follows lab [l] (call f ev) := by
  intro s
  simp [Traced.call, h]

theorem Silent.call {lab : E → Option L} {f : σ → Except ε α × σ} {ev : Except ε α → E}
    (h : ∀ r, lab (ev r) = none) : Silent lab (call f ev) := by
  intro s
  simp [Traced.call, h]

theorem Follows.mapError {lab : E → Option L} {p : List L} {m : Traced E σ ε α}
    (hm : Follows lab p m) (f : ε → ε') : Follows lab p (mapError f m) := by
  intro s
  refine ⟨(hm s).1, fun a ha => (hm s).2 a ?_⟩
  rcases h : m s with ⟨e | b, s', t⟩
  · simp [Traced.mapError, h, Except.mapError] at ha
  · simpa [Traced.mapError, h, Except.mapError] using ha

theorem Follows.collectInto [DecidableEq κ] {lab : E → Option L} {key : ι → κ}
    {plan : ι → List L} {g : ι → Traced E σ ε β} (hg : ∀ x, Follows lab (plan x) (g x)) :
    ∀ (xs : List ι) (d : Dict κ β), Follows lab (xs.flatMap plan) (collectInto key g d xs)
  | [], d => Follows.pure lab d
  | x :: xs, _ => (hg x).bind fun _ => Follows.collectInto hg xs _

/-- **The plan of a loop is its items' plans, in order.** -/
theorem Follows.collect [DecidableEq κ] {lab : E → Option L} {key : ι → κ} {plan : ι → List L}
    {g : ι → Traced E σ ε β} (hg : ∀ x, Follows lab (plan x) (g x)) (xs : List ι) :
    Follows lab (xs.flatMap plan) (Traced.collect key g xs) := Follows.collectInto hg xs _

/-! ## Events -/

/-- Every event of `m` satisfies `Q`. -/
def Emits (Q : E → Prop) (m : Traced E σ ε α) : Prop := ∀ s, ∀ e ∈ (m s).trace, Q e

theorem Emits.pure (Q : E → Prop) (a : α) : Emits Q (pure a : Traced E σ ε α) :=
  fun _ _ h => absurd h List.not_mem_nil

theorem Emits.lift (Q : E → Prop) (r : Except ε α) : Emits Q (lift r : Traced E σ ε α) :=
  fun _ _ h => absurd h List.not_mem_nil

theorem Emits.call {Q : E → Prop} {f : σ → Except ε α × σ} {ev : Except ε α → E}
    (h : ∀ r, Q (ev r)) : Emits Q (call f ev : Traced E σ ε α) := fun s _ he =>
  List.mem_singleton.mp he ▸ h (f s).1

theorem Emits.bind {Q : E → Prop} {m : Traced E σ ε α} {f : α → Traced E σ ε β}
    (hm : Emits Q m) (hf : ∀ a, Emits Q (f a)) : Emits Q (m >>= f) := by
  intro s e he
  have hms := hm s
  rcases h : m s with ⟨err | a, s', t⟩
  · rw [run_bind_error f h] at he
    rw [h] at hms
    exact hms e he
  · rw [run_bind_ok f h] at he
    rw [h] at hms
    rcases List.mem_append.mp he with he | he
    · exact hms e he
    · exact hf a s' e he

theorem Emits.each {Q : E → Prop} {f : ι → Traced E σ ε Unit} (hf : ∀ x, Emits Q (f x)) :
    ∀ xs : List ι, Emits Q (each f xs)
  | [] => Emits.pure Q _
  | x :: xs => (hf x).bind fun _ => Emits.each hf xs

theorem Emits.collectInto [DecidableEq κ] {Q : E → Prop} {key : ι → κ}
    {g : ι → Traced E σ ε β} : ∀ {xs : List ι} {d : Dict κ β}, (∀ x ∈ xs, Emits Q (g x)) →
      Emits Q (collectInto key g d xs)
  | [], d, _ => Emits.pure Q d
  | x :: _, _, hg => (hg x List.mem_cons_self).bind fun _ =>
      Emits.collectInto fun y hy => hg y (List.mem_cons_of_mem x hy)

theorem Emits.collect_of_mem [DecidableEq κ] {Q : E → Prop} {key : ι → κ}
    {g : ι → Traced E σ ε β} {xs : List ι} (hg : ∀ x ∈ xs, Emits Q (g x)) :
    Emits Q (Traced.collect key g xs) := Emits.collectInto hg

theorem Emits.collect [DecidableEq κ] {Q : E → Prop} {key : ι → κ} {g : ι → Traced E σ ε β}
    (hg : ∀ x, Emits Q (g x)) (xs : List ι) : Emits Q (Traced.collect key g xs) :=
  Emits.collect_of_mem fun x _ => hg x

/-- A loop whose items leave their own mark only where they return: if every item's mark is in the
trace, the loop returned. -/
theorem collectInto_of_marks [DecidableEq κ] {mark : E → Option ι} {key : ι → κ}
    {g : ι → Traced E σ ε β}
    (hg : ∀ x s, ∀ e ∈ (g x s).trace, ∀ y, mark e = some y →
      y = x ∧ ∃ v, (g x s).result = .ok v) :
    ∀ {xs : List ι} {d0 : Dict κ β} {s : σ}, xs.Nodup →
      (∀ x ∈ xs, ∃ e ∈ (collectInto key g d0 xs s).trace, mark e = some x) →
        ∃ d, (collectInto key g d0 xs s).result = .ok d
  | [], d0, _, _, _ => ⟨d0, rfl⟩
  | x :: xs, d0, s, hnodup, hmarks => by
    obtain ⟨hfresh, hnodup⟩ := List.nodup_cons.mp hnodup
    have hown : ∀ {d : Dict κ β} {s' : σ}, ∀ e ∈ (collectInto key g d xs s').trace,
        mark e ≠ some x := by
      intro d s' e he hmark
      refine Emits.collectInto (Q := fun e => mark e ≠ some x) (fun y hy s e he hmark => ?_)
        s' e he hmark
      obtain ⟨rfl, -⟩ := hg y s e he x hmark
      exact hfresh hy
    rcases hx : g x s with ⟨err | v, s', t⟩
    · obtain ⟨e, he, hmark⟩ := hmarks x List.mem_cons_self
      rw [show collectInto key g d0 (x :: xs) s = _ from run_bind_error _ hx] at he
      obtain ⟨-, v, hv⟩ := hg x s e (by rwa [hx]) x hmark
      rw [hx] at hv
      exact absurd hv nofun
    · have hrun : collectInto key g d0 (x :: xs) s = _ := run_bind_ok _ hx
      rw [hrun] at hmarks ⊢
      refine collectInto_of_marks hg hnodup fun y hy => ?_
      obtain ⟨e, he, hmark⟩ := hmarks y (List.mem_cons_of_mem x hy)
      rcases List.mem_append.mp he with he | he
      · obtain ⟨rfl, -⟩ := hg x s e (by rwa [hx]) y hmark
        exact absurd hy hfresh
      · exact ⟨e, he, hmark⟩

/-- **A loop whose every item left its mark returned.** -/
theorem collect_of_marks [DecidableEq κ] {mark : E → Option ι} {key : ι → κ}
    {g : ι → Traced E σ ε β}
    (hg : ∀ x s, ∀ e ∈ (g x s).trace, ∀ y, mark e = some y →
      y = x ∧ ∃ v, (g x s).result = .ok v) {xs : List ι} {s : σ} (hnodup : xs.Nodup)
    (hmarks : ∀ x ∈ xs, ∃ e ∈ (collect key g xs s).trace, mark e = some x) :
    ∃ d, (collect key g xs s).result = .ok d :=
  collectInto_of_marks hg hnodup hmarks

theorem Emits.raise (Q : E → Prop) (e : ε) : Emits Q (raise e : Traced E σ ε α) :=
  fun _ _ h => absurd h List.not_mem_nil

theorem Emits.mapError {Q : E → Prop} {m : Traced E σ ε α} (hm : Emits Q m) (f : ε → ε') :
    Emits Q (mapError f m) := hm

/-- A handler adds its own events. -/
theorem Emits.handle {Q : E → Prop} {m : Traced E σ ε α} {h : ε → Traced E σ ε' α}
    (hm : Emits Q m) (hh : ∀ e, Emits Q (h e)) : Emits Q (handle m h) := by
  intro s e he
  have hms := hm s
  rcases hr : m s with ⟨err | a, s', t⟩
  · rw [run_handle_error hr] at he
    rw [hr] at hms
    rcases List.mem_append.mp he with he | he
    · exact hms e he
    · exact hh err s' e he
  · rw [run_handle_ok hr] at he
    rw [hr] at hms
    exact hms e he

theorem Emits.within {Q : E → Prop} {enter exit : Traced E σ ε Unit} {body : Traced E σ ε α}
    (henter : Emits Q enter) (hexit : Emits Q exit) (hbody : Emits Q body) :
    Emits Q (within enter exit body) :=
  henter.bind fun _ => Emits.bind (m := attempt body) hbody fun _ =>
    hexit.bind fun _ => Emits.lift Q _

theorem Emits.mono {Q Q' : E → Prop} {m : Traced E σ ε α} (h : Emits Q m)
    (hq : ∀ e, Q e → Q' e) : Emits Q' m := fun s e he => hq e (h s e he)

/-- What emits no labelled event is silent. -/
theorem Emits.silent {lab : E → Option L} {m : Traced E σ ε α}
    (h : Emits (fun e => lab e = none) m) : Silent lab m := by
  intro s
  have hnil := List.filterMap_eq_nil_iff.mpr (h s)
  rw [hnil]
  exact ⟨List.prefix_refl _, fun _ _ => rfl⟩

/-! ## What a run does to the world -/

/-- A relation between the world before a run, its events and the world after, which holds of the
empty run and composes. -/
structure Composes (R : σ → List E → σ → Prop) : Prop where
  nil : ∀ s, R s [] s
  append : ∀ {s s' s'' t t'}, R s t s' → R s' t' s'' → R s (t ++ t') s''

/-- Every run of `m` is related. -/
def Obeys (R : σ → List E → σ → Prop) (m : Traced E σ ε α) : Prop :=
  ∀ s, R s (m s).trace (m s).world

section

variable {R : σ → List E → σ → Prop}

theorem Composes.lift (hR : Composes R) (r : Except ε α) : Obeys R (lift r : Traced E σ ε α) :=
  hR.nil

theorem Composes.pure (hR : Composes R) (a : α) : Obeys R (pure a : Traced E σ ε α) := hR.nil

/-- **Sequencing**: what follows need only obey after what `m` can return. -/
theorem Composes.bind_ok (hR : Composes R) {m : Traced E σ ε α} {f : α → Traced E σ ε β}
    (hm : Obeys R m) (hf : ∀ a s s' t, m s = ⟨.ok a, s', t⟩ → Obeys R (f a)) :
    Obeys R (m >>= f) := by
  intro s
  have hfirst := hm s
  rcases hr : m s with ⟨err | a, s', t⟩
  · rw [run_bind_error f hr]
    rw [hr] at hfirst
    exact hfirst
  · rw [run_bind_ok f hr]
    rw [hr] at hfirst
    exact hR.append hfirst (hf a s s' t hr s')

theorem Composes.bind (hR : Composes R) {m : Traced E σ ε α} {f : α → Traced E σ ε β}
    (hm : Obeys R m) (hf : ∀ a, Obeys R (f a)) : Obeys R (m >>= f) :=
  hR.bind_ok hm fun a _ _ _ _ => hf a

theorem Composes.each (hR : Composes R) {f : ι → Traced E σ ε Unit} (hf : ∀ x, Obeys R (f x)) :
    ∀ xs : List ι, Obeys R (each f xs)
  | [] => hR.pure _
  | x :: xs => hR.bind (hf x) fun _ => hR.each hf xs

theorem Composes.collectInto (hR : Composes R) [DecidableEq κ] {key : ι → κ}
    {g : ι → Traced E σ ε β} : ∀ {xs : List ι} {d : Dict κ β}, (∀ x ∈ xs, Obeys R (g x)) →
      Obeys R (collectInto key g d xs)
  | [], _, _ => hR.pure _
  | _ :: _, _, hg => hR.bind (hg _ List.mem_cons_self) fun _ =>
      hR.collectInto fun x hx => hg x (List.mem_cons_of_mem _ hx)

theorem Composes.handle (hR : Composes R) {m : Traced E σ ε α} {h : ε → Traced E σ ε' α}
    (hm : Obeys R m) (hh : ∀ e, Obeys R (h e)) : Obeys R (handle m h) := by
  intro s
  have hfirst := hm s
  rcases hr : m s with ⟨err | a, s', t⟩
  · rw [run_handle_error hr]
    rw [hr] at hfirst
    exact hR.append hfirst (hh err s')
  · rw [run_handle_ok hr]
    rw [hr] at hfirst
    exact hfirst

theorem Composes.within (hR : Composes R) {enter exit : Traced E σ ε Unit} {body : Traced E σ ε α}
    (henter : Obeys R enter) (hexit : Obeys R exit) (hbody : Obeys R body) :
    Obeys R (within enter exit body) :=
  hR.bind henter fun _ => hR.bind (show Obeys R (attempt body) from hbody) fun r =>
    hR.bind hexit fun _ => hR.lift r

end

/-! ### Frames -/

/-- A run of `m` that causes no `loud` event leaves `view` of the world as it was. -/
def Frames {ν : Type} (loud : E → Prop) (view : σ → ν) (m : Traced E σ ε α) : Prop :=
  ∀ s, (∀ e ∈ (m s).trace, ¬ loud e) → view (m s).world = view s

section

variable {ν : Type} {loud : E → Prop} {view : σ → ν}

theorem Frames.composes (loud : E → Prop) (view : σ → ν) :
    Composes fun s t s' => (∀ e ∈ t, ¬ loud e) → view s' = view s where
  nil _ _ := rfl
  append h h' hquiet := (h' fun e he => hquiet e (List.mem_append_right _ he)).trans
    (h fun e he => hquiet e (List.mem_append_left _ he))

theorem Frames.lift (loud : E → Prop) (view : σ → ν) (r : Except ε α) :
    Frames loud view (lift r : Traced E σ ε α) := (composes loud view).lift r

theorem Frames.pure (loud : E → Prop) (view : σ → ν) (a : α) :
    Frames loud view (pure a : Traced E σ ε α) := (composes loud view).pure a

/-- A call that is not loud frames the view. -/
theorem Frames.call {f : σ → Except ε α × σ} {ev : Except ε α → E}
    (h : ∀ s, ¬ loud (ev (f s).1) → view (f s).2 = view s) : Frames loud view (call f ev) :=
  fun s hquiet => h s (hquiet _ (List.mem_singleton.mpr rfl))

theorem Frames.bind {m : Traced E σ ε α} {f : α → Traced E σ ε β} (hm : Frames loud view m)
    (hf : ∀ a, Frames loud view (f a)) : Frames loud view (m >>= f) :=
  (composes loud view).bind hm hf

theorem Frames.mapError {m : Traced E σ ε α} (hm : Frames loud view m) (f : ε → ε') :
    Frames loud view (mapError f m) := hm

theorem Frames.each {f : ι → Traced E σ ε Unit} (hf : ∀ x, Frames loud view (f x))
    (xs : List ι) : Frames loud view (each f xs) := (composes loud view).each hf xs

end

/-! ### Charges -/

/-- A run of `m` adds at most `n` to `count` for each labelled event it causes. -/
def Charges (count : σ → Nat) (lab : E → Option L) (n : Nat) (m : Traced E σ ε α) : Prop :=
  Obeys (fun s t s' => count s' ≤ count s + n * (t.filterMap lab).length) m

section

variable {count : σ → Nat} {lab : E → Option L} {n : Nat}

/-- **Charges add up.** -/
theorem Charges.composes (count : σ → Nat) (lab : E → Option L) (n : Nat) :
    Composes fun s t s' => count s' ≤ count s + n * (t.filterMap lab).length where
  nil _ := Nat.le_refl _
  append h h' := by
    simp only [List.filterMap_append, List.length_append, Nat.mul_add] at h h' ⊢
    omega

/-- A labelled call may cost `n`. -/
theorem Charges.call {f : σ → Except ε α × σ} {ev : Except ε α → E}
    (hlab : ∀ r, (lab (ev r)).isSome = true) (h : ∀ s, count (f s).2 ≤ count s + n) :
    Charges count lab n (call f ev) := by
  intro s
  obtain ⟨l, hl⟩ := Option.isSome_iff_exists.mp (hlab (f s).1)
  show count (f s).2 ≤ count s + n * ([ev (f s).1].filterMap lab).length
  rw [List.filterMap_cons_some hl]
  simpa using h s

/-- Any other call is free. -/
theorem Charges.free {f : σ → Except ε α × σ} {ev : Except ε α → E}
    (h : ∀ s, count (f s).2 ≤ count s) : Charges count lab n (Traced.call f ev) := fun s =>
  (h s).trans (Nat.le_add_right _ _)

end

/-! ## Errors -/

/-- Every error of `m` satisfies `P`. -/
def FailsWith (P : ε → Prop) (m : Traced E σ ε α) : Prop := ∀ s e, (m s).result = .error e → P e

theorem FailsWith.pure (P : ε → Prop) (a : α) : FailsWith P (pure a : Traced E σ ε α) :=
  fun _ _ h => absurd h nofun

theorem FailsWith.lift {P : ε → Prop} {r : Except ε α} (h : ∀ e, r = .error e → P e) :
    FailsWith P (lift r : Traced E σ ε α) := fun _ e he => h e he

theorem FailsWith.call {P : ε → Prop} {f : σ → Except ε α × σ} {ev : Except ε α → E}
    (h : ∀ s e, (f s).1 = .error e → P e) : FailsWith P (call f ev) := fun s e he => h s e he

theorem FailsWith.mapError {P : ε' → Prop} {f : ε → ε'} {m : Traced E σ ε α}
    (h : FailsWith (fun e => P (f e)) m) : FailsWith P (mapError f m) := by
  intro s e' he
  rcases hm : m s with ⟨e | a, s', t⟩
  · simp only [Traced.mapError, hm, Except.mapError, Except.error.injEq] at he
    exact he ▸ h s e (by rw [hm])
  · simp [Traced.mapError, hm, Except.mapError] at he

/-- **Errors along sequencing**, the rest knowing what `m` returned. -/
theorem FailsWith.bind {P : ε → Prop} {m : Traced E σ ε α} {f : α → Traced E σ ε β}
    (hm : FailsWith P m) (hf : ∀ a s s' t, m s = ⟨.ok a, s', t⟩ → FailsWith P (f a)) :
    FailsWith P (m >>= f) := by
  intro s e he
  rcases bind_error he with ⟨s', t, h, -⟩ | ⟨a, s', t, h, hrest, -⟩
  · exact hm s e (by rw [h])
  · exact hf a s s' t h s' e hrest

theorem FailsWith.each {P : ε → Prop} {f : ι → Traced E σ ε Unit} :
    ∀ {xs : List ι}, (∀ x ∈ xs, FailsWith P (f x)) → FailsWith P (each f xs)
  | [], _ => FailsWith.pure P _
  | x :: _, hf => (hf x List.mem_cons_self).bind fun _ _ _ _ _ =>
      FailsWith.each fun y hy => hf y (List.mem_cons_of_mem x hy)

theorem FailsWith.collectInto [DecidableEq κ] {P : ε → Prop} {key : ι → κ}
    {g : ι → Traced E σ ε β} : ∀ {xs : List ι} {d : Dict κ β}, (∀ x ∈ xs, FailsWith P (g x)) →
      FailsWith P (collectInto key g d xs)
  | [], d, _ => FailsWith.pure P d
  | x :: _, _, hg => (hg x List.mem_cons_self).bind fun _ _ _ _ _ =>
      FailsWith.collectInto fun y hy => hg y (List.mem_cons_of_mem x hy)

theorem FailsWith.collect [DecidableEq κ] {P : ε → Prop} {key : ι → κ} {g : ι → Traced E σ ε β}
    {xs : List ι} (hg : ∀ x ∈ xs, FailsWith P (g x)) : FailsWith P (Traced.collect key g xs) :=
  FailsWith.collectInto hg

end Traced

end Grabatus.Lib

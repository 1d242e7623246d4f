import Mathlib.Logic.Basic

/-!
# Operations on a world, and retrying them

An `Op σ ε α` runs on a world `σ` and returns an `α` or raises an `ε`; the world it leaves carries
whatever the environment does next, so a client that fails twice and then answers is one `Op`.

`retry retriable n op` repeats `op` while it raises a retriable error, at most `n` more times, and
then lets the last error out. The attempts are numbered: `outcome op i s` is what attempt `i`
gives when all before it were made.

**A property that no retriable error has holds of the result exactly when it holds of the first
attempt that is not retried** (`retry_iff`); a property of the world that each attempt hands on
holds after the last one (`retry_rule`).
-/

namespace Grabatus.Lib

/-- An operation: what it returned or raised, and the world after it. -/
def Op (σ ε α : Type) : Type := σ → Except ε α × σ

namespace Op

variable {σ ε α β ν : Type}

/-- Run `m`, then `f` on what it returned. -/
def andThen (m : Op σ ε α) (f : α → Op σ ε β) : Op σ ε β := fun s =>
  match m s with
  | (.ok a, s') => f a s'
  | (.error e, s') => (.error e, s')

instance : Monad (Op σ ε) where
  pure a := fun s => (.ok a, s)
  bind := andThen

/-- A pure computation that may raise. -/
def ofExcept (r : Except ε α) : Op σ ε α := fun s => (r, s)

/-- `raise e`. -/
def fail (e : ε) : Op σ ε α := ofExcept (.error e)

/-- `try: m except ... as exc: raise f(exc)`, where `f` leaves alone what is not caught. -/
def mapError (f : ε → ε) (m : Op σ ε α) : Op σ ε α := fun s =>
  match m s with
  | (.ok a, s') => (.ok a, s')
  | (.error e, s') => (.error (f e), s')

theorem run_bind (m : Op σ ε α) (f : α → Op σ ε β) (s : σ) : (m >>= f) s =
    match m s with
    | (.ok a, s') => f a s'
    | (.error e, s') => (.error e, s') := rfl

@[simp] theorem run_pure (a : α) (s : σ) : (pure a : Op σ ε α) s = (.ok a, s) := rfl

@[simp] theorem run_ofExcept (r : Except ε α) (s : σ) : (ofExcept r : Op σ ε α) s = (r, s) := rfl

@[simp] theorem run_fail (e : ε) (s : σ) : (fail e : Op σ ε α) s = (.error e, s) := rfl

@[simp] theorem ofExcept_ok_bind (a : α) (f : α → Op σ ε β) : (ofExcept (.ok a) >>= f) = f a := rfl

@[simp] theorem ofExcept_error_bind (e : ε) (f : α → Op σ ε β) :
    (ofExcept (.error e) >>= f) = fail e := rfl

/-- The world after `i` attempts. -/
def after (op : Op σ ε α) : Nat → σ → σ
  | 0, s => s
  | i + 1, s => after op i (op s).2

/-- What attempt `i` gives. -/
def outcome (op : Op σ ε α) (i : Nat) (s : σ) : Except ε α := (op (after op i s)).1

/-- Operations that leave the same worlds leave the same worlds after any attempts. -/
theorem after_congr {op : Op σ ε α} {op' : Op σ ε β} (h : ∀ s, (op' s).2 = (op s).2) :
    ∀ (i : Nat) (s : σ), after op' i s = after op i s
  | 0, _ => rfl
  | i + 1, s => by
    simp only [after, h s]
    exact after_congr h i (op s).2

/-- What an operation that judges another one's outcomes gives at attempt `i`. -/
theorem outcome_of_judged {op : Op σ ε α} {op' : Op σ ε β} {f : Except ε α → Except ε β}
    (h : ∀ s, op' s = (f (op s).1, (op s).2)) (i : Nat) (s : σ) :
    outcome op' i s = f (outcome op i s) := by
  have hworld : ∀ s, (op' s).2 = (op s).2 := fun s => congrArg Prod.snd (h s)
  have hafter : after op' i s = after op i s := after_congr hworld i s
  show (op' (after op' i s)).1 = f (op (after op i s)).1
  rw [hafter]
  exact congrArg Prod.fst (h _)

/-- Repeat `op` while it raises a retriable error, at most `n` more times. -/
def retry (retriable : ε → Bool) : Nat → Op σ ε α → Op σ ε α
  | 0, op => op
  | n + 1, op => fun s =>
    match op s with
    | (.error e, s') => if retriable e then retry retriable n op s' else (.error e, s')
    | r => r

/-- The attempt raised a retriable error. -/
def Retried (retriable : ε → Bool) (r : Except ε α) : Prop :=
  ∃ e, r = .error e ∧ retriable e = true

/-- A retriable error leads to the next attempt. -/
theorem retry_again {retriable : ε → Bool} {op : Op σ ε α} {s s' : σ} {e : ε} (n : Nat)
    (hop : op s = (.error e, s')) (hret : retriable e = true) :
    retry retriable (n + 1) op s = retry retriable n op s' := by
  simp only [retry, hop, hret, if_true]

/-- An attempt that is not retried is the last one. -/
theorem retry_done {retriable : ε → Bool} {op : Op σ ε α} {s : σ} (n : Nat)
    (hr : ¬ Retried retriable (op s).1) : retry retriable n op s = op s := by
  cases n with
  | zero => rfl
  | succ n =>
    rcases hop : op s with ⟨r, s'⟩
    cases r with
    | ok a => simp only [retry, hop]
    | error e =>
      have hret : ¬ retriable e = true := fun h => hr ⟨e, by rw [hop], h⟩
      simp only [retry, hop, if_neg hret]

/-- **The result of a retry is that of its first attempt not retried**, for every property that
no retriable error has. -/
theorem retry_iff {retriable : ε → Bool} {op : Op σ ε α} {Q : Except ε α → Prop}
    (hQ : ∀ e, retriable e = true → ¬ Q (.error e)) : ∀ (n : Nat) (s : σ),
      Q (retry retriable n op s).1 ↔
        ∃ k ≤ n, (∀ i < k, Retried retriable (outcome op i s)) ∧ Q (outcome op k s)
  | 0, s => by
    constructor
    · exact fun h => ⟨0, Nat.le_refl 0, fun i hi => absurd hi (Nat.not_lt_zero i), h⟩
    · rintro ⟨k, hk, -, h⟩
      obtain rfl := Nat.le_zero.mp hk
      exact h
  | n + 1, s => by
    by_cases hr : Retried retriable (op s).1
    · obtain ⟨e, he, hret⟩ := hr
      rw [retry_again n (Prod.ext he rfl) hret, retry_iff hQ n (op s).2]
      constructor
      · rintro ⟨k, hk, hbefore, hq⟩
        refine ⟨k + 1, Nat.succ_le_succ hk, fun i hi => ?_, hq⟩
        rcases i with - | i
        · exact ⟨e, he, hret⟩
        · exact hbefore i (Nat.lt_of_succ_lt_succ hi)
      · rintro ⟨k, hk, hbefore, hq⟩
        rcases k with - | k
        · have hq : Q (op s).1 := hq
          exact absurd (he ▸ hq) (hQ e hret)
        · exact
          ⟨k, Nat.le_of_succ_le_succ hk, fun i hi => hbefore (i + 1) (Nat.succ_lt_succ hi), hq⟩
    · rw [retry_done (n + 1) hr]
      constructor
      · exact fun h => ⟨0, Nat.zero_le _, fun i hi => absurd hi (Nat.not_lt_zero i), h⟩
      · rintro ⟨k, -, hbefore, hq⟩
        rcases k with - | k
        · exact hq
        · exact absurd (hbefore 0 (Nat.succ_pos k)) hr

/-- **A retry is its last attempt**, run after attempts that were all retried. -/
theorem retry_eq_last {retriable : ε → Bool} {op : Op σ ε α} : ∀ (n : Nat) (s : σ),
    ∃ k ≤ n, (∀ i < k, Retried retriable (outcome op i s)) ∧
      retry retriable n op s = op (after op k s)
  | 0, s => ⟨0, Nat.le_refl 0, fun i hi => absurd hi (Nat.not_lt_zero i), rfl⟩
  | n + 1, s => by
    by_cases hr : Retried retriable (op s).1
    · obtain ⟨e, he, hret⟩ := hr
      obtain ⟨k, hk, hbefore, hlast⟩ := retry_eq_last n (op s).2
      refine ⟨k + 1, Nat.succ_le_succ hk, fun i hi => ?_, ?_⟩
      · rcases i with - | i
        · exact ⟨e, he, hret⟩
        · exact hbefore i (Nat.lt_of_succ_lt_succ hi)
      · rw [retry_again n (Prod.ext he rfl) hret, hlast]
        rfl
    · exact ⟨0, Nat.zero_le _, fun i hi => absurd hi (Nat.not_lt_zero i), retry_done (n + 1) hr⟩

/-- **The first attempt that is not retried is the last one.** -/
theorem retry_of_done {retriable : ε → Bool} {op : Op σ ε α} : ∀ {n k : Nat} {s : σ}, k ≤ n →
    (∀ i < k, Retried retriable (outcome op i s)) → ¬ Retried retriable (outcome op k s) →
      retry retriable n op s = op (after op k s)
  | n, 0, _, _, _, hdone => retry_done n hdone
  | n + 1, k + 1, s, hk, hbefore, hdone => by
    obtain ⟨e, he, hret⟩ := hbefore 0 (Nat.succ_pos k)
    have hfirst : op s = (.error e, (op s).2) := Prod.ext he rfl
    rw [retry_again n hfirst hret]
    exact retry_of_done (Nat.le_of_succ_le_succ hk)
      (fun i hi => hbefore (i + 1) (Nat.succ_lt_succ hi)) hdone

/-- What the retried attempts leave alone is there for the last one. -/
theorem after_keeps {op : Op σ ε α} {ν : Type} {view : σ → ν} {s : σ} {k : Nat}
    (h : ∀ i < k, view (after op (i + 1) s) = view (after op i s)) :
    view (after op k s) = view s := by
  induction k with
  | zero => rfl
  | succ k ih =>
    rw [h k (Nat.lt_succ_self k), ih fun i hi => h i (Nat.lt_succ_of_lt hi)]

/-- **What every attempt gives, the retry gives**: `P` holds before each attempt, `Q` of what it
gives. -/
theorem retry_rule {retriable : ε → Bool} {op : Op σ ε α} {P : σ → Prop}
    {Q : Except ε α → σ → Prop} (hattempt : ∀ s, P s → Q (op s).1 (op s).2)
    (hagain : ∀ e s, retriable e = true → Q (.error e) s → P s) (n : Nat) (s : σ) (h : P s) :
    Q (retry retriable n op s).1 (retry retriable n op s).2 := by
  induction n generalizing s with
  | zero => exact hattempt s h
  | succ n ih =>
    by_cases hr : Retried retriable (op s).1
    · obtain ⟨e, he, hret⟩ := hr
      rw [retry_again n (Prod.ext he rfl) hret]
      exact ih _ (hagain e _ hret (he ▸ hattempt s h))
    · rw [retry_done (n + 1) hr]
      exact hattempt s h

/-! ## What an operation leaves alone, and what it costs -/

/-- No run of `op` changes `view`. -/
def Keeps (view : σ → ν) (op : Op σ ε α) : Prop := ∀ s, view (op s).2 = view s

/-- Every run of `op` adds at most `n` to `count`. -/
def Costs (count : σ → Nat) (n : Nat) (op : Op σ ε α) : Prop := ∀ s, count (op s).2 ≤ count s + n

section

variable {view : σ → ν} {count : σ → Nat} {m n : Nat}

theorem Keeps.ofExcept (r : Except ε α) : Keeps view (ofExcept r) := fun _ => rfl

/-- What is kept, every part of it is. -/
theorem Keeps.comp {μ : Type} {op : Op σ ε α} (h : Keeps view op) (g : ν → μ) :
    Keeps (fun s => g (view s)) op := fun s => congrArg g (h s)

theorem Keeps.bind {op : Op σ ε α} {f : α → Op σ ε β} (hop : Keeps view op)
    (hf : ∀ a, Keeps view (f a)) : Keeps view (op >>= f) := by
  intro s
  have h := hop s
  rw [run_bind]
  rcases hrun : op s with ⟨e | a, s'⟩ <;> rw [hrun] at h
  · exact h
  · exact (hf a s').trans h

theorem Keeps.mapError {op : Op σ ε α} (hop : Keeps view op) (f : ε → ε) :
    Keeps view (mapError f op) := by
  intro s
  have h := hop s
  unfold Op.mapError
  rcases hrun : op s with ⟨e | a, s'⟩ <;> rw [hrun] at h <;> exact h

/-- What each attempt leaves alone, the retry does. -/
theorem Keeps.retry {op : Op σ ε α} (hop : Keeps view op) (retriable : ε → Bool) (n : Nat) :
    Keeps view (retry retriable n op) := fun s =>
  retry_rule (P := fun s' => view s' = view s) (Q := fun _ s' => view s' = view s)
    (fun s' h => (hop s').trans h) (fun _ _ _ => id) n s rfl

/-- A property of operations that every way of putting them together keeps. -/
structure Closed (Q : (α : Type) → Op σ ε α → Prop) : Prop where
  ofExcept : ∀ {α : Type} (r : Except ε α), Q α (ofExcept r)
  bind : ∀ {α β : Type} {op : Op σ ε α} {f : α → Op σ ε β}, Q α op → (∀ a, Q β (f a)) →
    Q β (op >>= f)
  mapError : ∀ {α : Type} {op : Op σ ε α} (f : ε → ε), Q α op → Q α (mapError f op)
  retry : ∀ {α : Type} {op : Op σ ε α} (retriable : ε → Bool) (n : Nat), Q α op →
    Q α (retry retriable n op)

theorem Closed.keeps (view : σ → ν) : Closed (ε := ε) fun _ op => Keeps view op where
  ofExcept := Keeps.ofExcept
  bind := Keeps.bind
  mapError f hop := hop.mapError f
  retry retriable n hop := hop.retry retriable n

/-- Every run of `op` moves the world by `R`. -/
def Moves (R : σ → σ → Prop) (op : Op σ ε α) : Prop := ∀ s, R s (op s).2

/-- Operations that move by a preorder do so together. -/
theorem Closed.moves {R : σ → σ → Prop} (hrefl : ∀ s, R s s)
    (htrans : ∀ {s s' s''}, R s s' → R s' s'' → R s s'') :
    Closed (ε := ε) fun _ op => Moves R op where
  ofExcept _ s := hrefl s
  bind {_ _ op f} hop hf s := by
    have h := hop s
    rw [run_bind]
    rcases hrun : op s with ⟨e | a, s'⟩ <;> rw [hrun] at h
    · exact h
    · exact htrans h (hf a s')
  mapError {_ op} f hop s := by
    have h := hop s
    unfold Op.mapError
    rcases hrun : op s with ⟨e | a, s'⟩ <;> rw [hrun] at h <;> exact h
  retry retriable n hop s :=
    retry_rule (P := R s) (Q := fun _ s' => R s s') (fun s' h => htrans h (hop s'))
      (fun _ _ _ => id) n s (hrefl s)

theorem Costs.mono {op : Op σ ε α} (h : Costs count m op) (hmn : m ≤ n) : Costs count n op :=
  fun s => Nat.le_trans (h s) (Nat.add_le_add_left hmn _)

theorem Costs.ofExcept (r : Except ε α) : Costs count 0 (ofExcept r) := fun _ => Nat.le_refl _

theorem Costs.bind {op : Op σ ε α} {f : α → Op σ ε β} (hop : Costs count m op)
    (hf : ∀ a, Costs count n (f a)) : Costs count (m + n) (op >>= f) := by
  intro s
  have h := hop s
  rw [run_bind]
  rcases hrun : op s with ⟨e | a, s'⟩ <;> rw [hrun] at h
  · exact Nat.le_trans h (Nat.add_le_add_left (Nat.le_add_right m n) _)
  · exact Nat.le_trans (hf a s') (by rw [← Nat.add_assoc]; exact Nat.add_le_add_right h n)

theorem Costs.mapError {op : Op σ ε α} (hop : Costs count n op) (f : ε → ε) :
    Costs count n (mapError f op) := by
  intro s
  have h := hop s
  unfold Op.mapError
  rcases hrun : op s with ⟨e | a, s'⟩ <;> rw [hrun] at h <;> exact h

/-- **A retry costs what its attempts may cost together.** -/
theorem Costs.retry {op : Op σ ε α} (hop : Costs count n op) (retriable : ε → Bool) :
    ∀ k : Nat, Costs count ((k + 1) * n) (retry retriable k op)
  | 0 => hop.mono (Nat.le_of_eq (Nat.one_mul n).symm)
  | k + 1 => by
    intro s
    have h := hop s
    rw [Nat.succ_mul (k + 1) n]
    by_cases hr : Retried retriable (op s).1
    · obtain ⟨e, he, hret⟩ := hr
      have hrest : count (Op.retry retriable k op (op s).2).2 ≤ count (op s).2 + (k + 1) * n :=
        Costs.retry hop retriable k (op s).2
      have hrun : Op.retry retriable (k + 1) op s = Op.retry retriable k op (op s).2 :=
        retry_again k (Prod.ext he rfl) hret
      rw [hrun]
      omega
    · rw [retry_done (k + 1) hr]
      omega

end

end Op

end Grabatus.Lib

import Grabatus.Lib.InStep

/-!
# Operations with others at work

Between two operations of a run the world may change under it. `Among view` is a world with what
goes on elsewhere, a step before each of the next operations, none of which a `view` shows; under
`Op.among` an operation meets the step that is its turn. As the steps are arbitrary, and a step may
be any number of others' operations, a run over such operations is a run in any interleaving.

* An operation that answers by the view, and one that leaves it alone, does so among others
  (`Op.among_respects`, `Op.among_keeps`). So what is proved of a run by its operations holds of it
  in every interleaving.
* `MadeOf P op`: `op` is put together from operations under `P`. What a rule of `Op.Closed` gives
  for every such property, it gives for this one: which operations a run is made of.
-/

namespace Grabatus.Lib

variable {σ ε α ν : Type}

/-- A step of the world that the view does not show. -/
structure Elsewhere (view : σ → ν) where
  step : σ → σ
  keeps : ∀ s, view (step s) = view s

/-- A world, and what goes on elsewhere before each of the next operations. -/
structure Among (view : σ → ν) where
  world : σ
  elsewhere : List (Elsewhere view)

namespace Among

variable {view : σ → ν}

/-- What is seen of the world. -/
def seen (s : Among view) : ν := view s.world

/-- The next step elsewhere is made. -/
def next (s : Among view) : Among view :=
  match s.elsewhere with
  | [] => s
  | other :: later => ⟨other.step s.world, later⟩

theorem seen_next (s : Among view) : s.next.seen = s.seen := by
  unfold next
  split
  · rfl
  · rename_i other later h
    exact other.keeps s.world

end Among

namespace Op

variable {view : σ → ν}

/-- The operation, after the step elsewhere that comes before it. -/
def among (op : Op σ ε α) : Op (Among view) ε α := fun s =>
  ((op s.next.world).1, ⟨(op s.next.world).2, s.next.elsewhere⟩)

theorem among_keeps {op : Op σ ε α} (h : Keeps view op) :
    Keeps (Among.seen : Among view → ν) op.among := fun s => (h _).trans s.seen_next

theorem among_respects {op : Op σ ε α}
    (h : Traced.Respects (fun s s' => view s = view s') op op) :
    Traced.Respects (fun s s' : Among view => s.seen = s'.seen) op.among op.among := fun s s' hs =>
  h s.next.world s'.next.world (s.seen_next.trans (hs.trans s'.seen_next.symm))

/-- The operation is put together from operations under `P`. -/
inductive MadeOf (P : (α : Type) → Op σ ε α → Prop) : (α : Type) → Op σ ε α → Prop
  | one {α : Type} {op : Op σ ε α} (h : P α op) : MadeOf P α op
  | ofExcept {α : Type} (r : Except ε α) : MadeOf P α (ofExcept r)
  | bind {α β : Type} {op : Op σ ε α} {f : α → Op σ ε β} (hop : MadeOf P α op)
    (hf : ∀ a, MadeOf P β (f a)) : MadeOf P β (op >>= f)
  | mapError {α : Type} {op : Op σ ε α} (f : ε → ε) (hop : MadeOf P α op) :
    MadeOf P α (mapError f op)
  | retry {α : Type} {op : Op σ ε α} (retriable : ε → Bool) (n : Nat) (hop : MadeOf P α op) :
    MadeOf P α (retry retriable n op)

theorem Closed.madeOf (P : (α : Type) → Op σ ε α → Prop) : Closed (MadeOf P) where
  ofExcept := .ofExcept
  bind := .bind
  mapError := .mapError
  retry := .retry

end Op

end Grabatus.Lib

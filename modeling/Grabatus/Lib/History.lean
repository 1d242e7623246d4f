import Mathlib.Data.List.Basic

/-!
# Histories

Steps with labels, one after the other, of which a `view` of the state is what counts: between two
steps the state may change in any way that leaves the view alone.

What two steps say about the view of one state holds between them as long as every label that
stands between leaves the view alone (`History.between`).
-/

namespace Grabatus.Lib

variable {σ α ν : Type}

/-- A run of labelled steps; what goes on before, between and after them leaves `view` alone. -/
inductive History (step : σ → α → σ → Prop) (view : σ → ν) : σ → List α → σ → Prop
  | nil {s s' : σ} (hkeep : view s' = view s) : History step view s [] s'
  | cons {s s₁ s₂ s' : σ} {a : α} {as : List α} (hkeep : view s₁ = view s) (hstep : step s₁ a s₂)
    (hrest : History step view s₂ as s') : History step view s (a :: as) s'

namespace History

variable {step : σ → α → σ → Prop} {view : σ → ν} {s s' : σ} {a b : α} {as bs : List α}

theorem split (h : History step view s (as ++ bs) s') :
    ∃ mid, History step view s as mid ∧ History step view mid bs s' := by
  induction as generalizing s with
  | nil => exact ⟨s, .nil rfl, h⟩
  | cons a as ih =>
    cases h with
    | cons hkeep hstep hrest =>
      obtain ⟨mid, hbefore, hafter⟩ := ih hrest
      exact ⟨mid, .cons hkeep hstep hbefore, hafter⟩

/-- The step of a label that stands in front. -/
theorem head (h : History step view s (a :: as) s') :
    ∃ s₁ s₂, view s₁ = view s ∧ step s₁ a s₂ ∧ History step view s₂ as s' := by
  cases h with
  | cons hkeep hstep hrest => exact ⟨_, _, hkeep, hstep, hrest⟩

/-- Labels that leave the view alone, one after the other. -/
theorem view_eq (h : History step view s as s')
    (hkeeps : ∀ a ∈ as, ∀ s s', step s a s' → view s' = view s) : view s' = view s := by
  induction h with
  | nil hkeep => exact hkeep
  | cons hkeep hstep hrest ih =>
    have hfirst := hkeeps _ List.mem_cons_self _ _ hstep
    rw [ih fun b hb => hkeeps b (List.mem_cons_of_mem _ hb), hfirst, hkeep]

/-- **The view a step leaves is the view a later one finds**, where no label between touches it. -/
theorem between {cs ds : List α} (h : History step view s (cs ++ a :: (as ++ b :: ds)) s')
    (hkeeps : ∀ c ∈ as, ∀ s s', step s c s' → view s' = view s) :
    ∃ s₁ s₂ s₃ s₄, step s₁ a s₂ ∧ step s₃ b s₄ ∧ view s₃ = view s₂ := by
  obtain ⟨_, -, hrun⟩ := h.split
  obtain ⟨s₁, s₂, -, hfirst, hrest⟩ := hrun.head
  obtain ⟨mid, hmid, hlast⟩ := hrest.split
  obtain ⟨s₃, s₄, hkeep, hsecond, -⟩ := hlast.head
  exact ⟨s₁, s₂, s₃, s₄, hfirst, hsecond, hkeep.trans (hmid.view_eq hkeeps)⟩

end History

end Grabatus.Lib

import Mathlib.Logic.Basic

/-!
# Unwinding

A machine takes one input after the other and answers each. Some of the inputs are *mine*, and a
view is what I see of the state. **Where my inputs are answered by what I see alone, and the others
leave it alone, everything I see of a run is as if the others' inputs had not been there**
(`Unwinds.purge`): two conditions on one step give a property of whole runs, in any order of the
inputs.
-/

namespace Grabatus.Lib

/-- A machine: what it answers an input, and the state after it. -/
def Machine (σ ι ω : Type) : Type := ι → σ → ω × σ

namespace Machine

variable {σ ι ω ν : Type}

/-- The state after a run. -/
def after (m : Machine σ ι ω) : List ι → σ → σ
  | [], s => s
  | i :: is, s => after m is (m i s).2

/-- The inputs of a run, with their answers. -/
def log (m : Machine σ ι ω) : List ι → σ → List (ι × ω)
  | [], _ => []
  | i :: is, s => (i, (m i s).1) :: log m is (m i s).2

/-- My inputs are answered by what I see, and leave it as they make it; the others leave it
alone. -/
structure Unwinds (m : Machine σ ι ω) (mine : ι → Bool) (view : σ → ν) : Prop where
  own : ∀ i, mine i = true → ∀ s s', view s = view s' →
    (m i s).1 = (m i s').1 ∧ view (m i s).2 = view (m i s').2
  others : ∀ i, mine i = false → ∀ s, view (m i s).2 = view s

variable {m : Machine σ ι ω} {mine : ι → Bool} {view : σ → ν}

/-- **What I see of a run is what my inputs alone give.** -/
theorem Unwinds.purge (h : m.Unwinds mine view) : ∀ (is : List ι) {s s' : σ}, view s = view s' →
    (m.log is s).filter (fun e => mine e.1) = m.log (is.filter mine) s' ∧
      view (m.after is s) = view (m.after (is.filter mine) s')
  | [], _, _, hs => ⟨rfl, hs⟩
  | i :: is, s, s', hs => by
    cases hi : mine i with
    | true =>
      obtain ⟨hanswer, hview⟩ := h.own i hi s s' hs
      obtain ⟨hlog, hafter⟩ := Unwinds.purge h is hview
      simp only [log, after, List.filter_cons, hi, if_true]
      exact ⟨by rw [hlog, hanswer], hafter⟩
    | false =>
      obtain ⟨hlog, hafter⟩ := Unwinds.purge h is ((h.others i hi s).trans hs)
      simp only [log, after, List.filter_cons, hi]
      exact ⟨hlog, hafter⟩

/-- Two runs with the same inputs of mine, in the same order, are the same to me. -/
theorem Unwinds.same_of_filter (h : m.Unwinds mine view) {is js : List ι} {s s' : σ}
    (hs : view s = view s') (hmine : is.filter mine = js.filter mine) :
    (m.log is s).filter (fun e => mine e.1) = (m.log js s').filter (fun e => mine e.1) ∧
      view (m.after is s) = view (m.after js s') := by
  obtain ⟨hlog, hafter⟩ := h.purge is hs
  obtain ⟨hlog', hafter'⟩ := h.purge js (rfl : view s' = view s')
  rw [hmine] at hlog hafter
  exact ⟨hlog.trans hlog'.symm, hafter.trans hafter'.symm⟩

end Machine

end Grabatus.Lib

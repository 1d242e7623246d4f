import Mathlib.Logic.Function.Basic

/-!
# A store of values by key

A store is a partial function; `put` replaces the value under a key. A list of items written one
after the other (`writes`) leaves, under each key, the value of the last item with that key, so
**every item keeps its own value exactly when items with one key have one value**
(`writes_intact_iff`).
-/

namespace Grabatus.Lib.Store

variable {κ α ι : Type} [DecidableEq κ]

/-- Replace the value under `k`. -/
def put (m : κ → Option α) (k : κ) (v : α) : κ → Option α := Function.update m k (some v)

theorem put_self (m : κ → Option α) (k : κ) (v : α) : put m k v k = some v :=
  Function.update_self ..

theorem put_of_ne {m : κ → Option α} {k q : κ} {v : α} (h : q ≠ k) : put m k v q = m q :=
  Function.update_of_ne h ..

/-- The second of two values put under a key is the one that stays. -/
theorem put_put (m : κ → Option α) (k : κ) (v w : α) : put (put m k v) k w = put m k w :=
  Function.update_idem ..

/-- A store seen through some of its keys. -/
theorem put_comp {f : ι → κ} [DecidableEq ι] (hf : Function.Injective f) (m : κ → Option α) (k : ι)
    (v : α) : (fun q => put m (f k) v (f q)) = put (fun q => m (f q)) k v :=
  Function.update_comp_eq_of_injective _ hf ..

theorem put_eq_put_iff {m : κ → Option α} {k : κ} {v w : α} : put m k v = put m k w ↔ v = w := by
  constructor
  · intro h
    have hk := congrFun h k
    rw [put_self, put_self] at hk
    exact Option.some.inj hk
  · rintro rfl
    rfl

/-- Write the items one after the other. -/
def writes (key : ι → κ) (value : ι → α) (m : κ → Option α) (xs : List ι) : κ → Option α :=
  xs.foldl (fun m x => put m (key x) (value x)) m

/-- Under a key no item has, nothing changes. -/
theorem writes_of_forall_ne {key : ι → κ} {value : ι → α} {k : κ} :
    ∀ {xs : List ι} {m : κ → Option α}, (∀ x ∈ xs, key x ≠ k) → writes key value m xs k = m k
  | [], _, _ => rfl
  | x :: xs, m, h => by
    show writes key value (put m (key x) (value x)) xs k = m k
    rw [writes_of_forall_ne fun y hy => h y (List.mem_cons_of_mem x hy),
      put_of_ne (h x List.mem_cons_self).symm]

/-- Under a key of an item stands the value of an item with that key. -/
theorem exists_of_writes {key : ι → κ} {value : ι → α} :
    ∀ {xs : List ι} {m : κ → Option α} {x : ι}, x ∈ xs →
      ∃ y ∈ xs, key y = key x ∧ writes key value m xs (key x) = some (value y)
  | y :: xs, m, x, hx => by
    show ∃ z ∈ y :: xs, key z = key x ∧
      writes key value (put m (key y) (value y)) xs (key x) = some (value z)
    by_cases hlater : ∃ z ∈ xs, key z = key x
    · obtain ⟨z, hz, hkey⟩ := hlater
      obtain ⟨w, hw, hwz, hvalue⟩ := exists_of_writes (m := put m (key y) (value y)) hz
      exact ⟨w, List.mem_cons_of_mem y hw, hwz.trans hkey, hkey ▸ hvalue⟩
    · have hnone : ∀ z ∈ xs, key z ≠ key x := fun z hz hkey => hlater ⟨z, hz, hkey⟩
      rcases List.mem_cons.mp hx with rfl | hx
      · exact ⟨x, List.mem_cons_self, rfl, by rw [writes_of_forall_ne hnone, put_self]⟩
      · exact absurd rfl (hnone x hx)

/-- **Every item keeps its own value exactly when items with one key have one value.** -/
theorem writes_intact_iff (key : ι → κ) (value : ι → α) (m : κ → Option α) (xs : List ι) :
    (∀ x ∈ xs, writes key value m xs (key x) = some (value x)) ↔
      ∀ x ∈ xs, ∀ y ∈ xs, key x = key y → value x = value y := by
  constructor
  · intro h x hx y hy hkey
    exact Option.some.inj ((h x hx).symm.trans (hkey ▸ h y hy))
  · intro h x hx
    obtain ⟨y, hy, hkey, hvalue⟩ := exists_of_writes (m := m) hx
    rw [hvalue, h y hy x hx hkey]

end Grabatus.Lib.Store

import Grabatus.Lib.Schema

/-!
# Rules on top of a schema

A model often checks more than its declared types: a list without repetitions, a reference that
must resolve. `AddsRule f p v v'` says that the validator `v` is `v'` with the rule `p` on top,
where `f` takes the value of `v` to the declared value the rule reads.

Each combinator hands a rule on (`AddsRule.require`, `AddsRule.field`), so what a record accepts
is what it declares and the rules of its fields.
-/

namespace Grabatus.Lib

open Validated

variable {α β : Type}

/-- `v` accepts what `v'` accepts and the rule `p` allows. -/
def AddsRule (f : α → β) (p : β → Prop) (v : Json → Validated α) (v' : Json → Validated β) :
    Prop :=
  ∀ j b, (∃ a, v j = ok a ∧ f a = b) ↔ v' j = ok b ∧ p b

/-- A check over the declared value. -/
theorem AddsRule.require {p : β → Prop} [DecidablePred p] {message : β → String}
    {build : ∀ b, p b → α} {f : α → β} (hbuild : ∀ b h, f (build b h) = b)
    (v' : Json → Validated β) :
    AddsRule f p (fun j => (v' j).andThen fun b => Lib.require (p b) (message b) (build b)) v' := by
  intro j b
  simp only [andThen_eq_ok, require_eq_ok]
  constructor
  · rintro ⟨a, ⟨b', hb', h, rfl⟩, rfl⟩
    rw [hbuild]
    exact ⟨hb', h⟩
  · rintro ⟨hb, h⟩
    exact ⟨build b h, ⟨b, hb, h, rfl⟩, hbuild b h⟩

/-- A field keeps the rule of its validator. -/
theorem AddsRule.field {f : α → β} {p : β → Prop} {v : Json → Validated α}
    {v' : Json → Validated β} (h : AddsRule f p v v') (o : JsonObject) (name : String) (b : β) :
    (∃ a, Lib.field o name v = ok a ∧ f a = b) ↔ Lib.field o name v' = ok b ∧ p b := by
  simp only [field_eq_ok]
  constructor
  · rintro ⟨a, ⟨j, hj, ha⟩, hb⟩
    obtain ⟨hb, hp⟩ := (h j b).mp ⟨a, ha, hb⟩
    exact ⟨⟨j, hj, hb⟩, hp⟩
  · rintro ⟨⟨j, hj, hb⟩, hp⟩
    obtain ⟨a, ha, hab⟩ := (h j b).mpr ⟨hb, hp⟩
    exact ⟨a, ⟨j, hj, ha⟩, hab⟩

end Grabatus.Lib

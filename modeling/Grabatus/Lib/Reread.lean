import Grabatus.Lib.Schema

/-!
# Dumps that read back only sometimes

`UndoesWhen P dump v`: the validator `v` returns `a` itself from the dump of `a` exactly when
`P a`. A writer that loses a value (a number the format cannot hold becomes `null`) has such a
condition, and each combinator carries it from the parts to the whole: a list survives iff its
items do, an option iff its value does, a dictionary iff its values do.
-/

namespace Grabatus.Lib

open Validated

variable {α β : Type}

/-- `v` returns `a` from what `dump` writes of it exactly when `P a`. -/
def UndoesWhen (P : α → Prop) (dump : α → Json) (v : Json → Validated α) : Prop :=
  ∀ a, v (dump a) = ok a ↔ P a

theorem Undoes.undoesWhen {dump : α → Json} {v : Json → Validated α} (h : Undoes dump v) :
    UndoesWhen (fun _ => True) dump v :=
  fun a => iff_true_intro (h a)

/-- A list reads back as itself iff each of its items does. -/
theorem items_self_iff {lo hi : Nat} {P : α → Prop} {dump : α → Json} {v : Json → Validated α}
    {xs : Items lo hi α} (h : ∀ x ∈ xs.toList, (v (dump x) = ok x ↔ P x)) :
    Lib.items lo hi v (.arr (xs.toList.map dump)) = ok xs ↔ ∀ x ∈ xs.toList, P x := by
  rw [items_eq_ok]
  simp only [Json.arr.injEq, exists_eq_left', List.forall₂_map_left_iff, List.forall₂_same]
  exact forall₂_congr h

namespace UndoesWhen

variable {P : α → Prop} {dump : α → Json} {v : Json → Validated α}

/-- **A list survives iff its items do.** -/
theorem items {lo hi : Nat} (h : UndoesWhen P dump v) (xs : Items lo hi α) :
    Lib.items lo hi v (.arr (xs.toList.map dump)) = ok xs ↔ ∀ x ∈ xs.toList, P x :=
  items_self_iff fun x _ => h x

/-- **An option survives iff its value does**, when a value dumped as `null` never survives. -/
theorem nullable (h : UndoesWhen P dump v) (hnull : ∀ a, dump a = .null → ¬ P a) (o : Option α) :
    Lib.nullable v (dumpNullable dump o) = ok o ↔ ∀ a ∈ o, P a := by
  cases o with
  | none => exact ⟨fun _ => nofun, fun _ => rfl⟩
  | some a =>
    simp only [Option.mem_some_iff, forall_eq']
    show Lib.nullable v (dump a) = ok (some a) ↔ P a
    by_cases hd : dump a = .null
    · rw [hd]
      refine iff_of_false (fun hread => ?_) (hnull a hd)
      cases Validated.ok.inj hread
    · rw [nullable_of_ne_null hd, map_eq_ok]
      constructor
      · rintro ⟨b, hb, hba⟩
        obtain rfl := Option.some.inj hba
        exact (h _).mp hb
      · intro ha
        exact ⟨a, (h a).mpr ha, rfl⟩

end UndoesWhen

/-! ## Dictionaries -/

theorem eachEntry_eq_ok {key : Json → Validated α} {value : Json → Validated β} :
    ∀ {o : JsonObject} {ps : List (α × β)}, eachEntry key value o = ok ps ↔
      List.Forall₂ (fun e p => key (.str e.1) = ok p.1 ∧ value e.2 = ok p.2) o ps
  | [], ps => by
    unfold eachEntry
    constructor
    · intro h
      obtain rfl := Validated.ok.inj h
      exact .nil
    · rintro ⟨⟩
      rfl
  | (k, j) :: o, ps => by
    simp only [eachEntry, seq_eq_ok, map_eq_ok, under_eq_ok, eachEntry_eq_ok]
    constructor
    · rintro ⟨_, qs, ⟨_, b, ⟨a, ha, rfl⟩, hb, rfl⟩, hqs, rfl⟩
      exact .cons ⟨ha, hb⟩ hqs
    · intro h
      cases h with
      | cons hp hqs => exact ⟨_, _, ⟨_, _, ⟨_, hp.1, rfl⟩, hp.2, rfl⟩, hqs, rfl⟩

/-- **A dictionary is accepted** iff its entries are, and filling it with them gives it. -/
theorem dict_eq_ok [DecidableEq α] {lo hi : Nat} {key : Json → Validated α}
    {value : Json → Validated β} {j : Json}
    {d : {d : Dict α β // lo ≤ d.entries.length ∧ d.entries.length ≤ hi}} :
    dict lo hi key value j = ok d ↔
      ∃ o ps, j = .obj o ∧ Dict.fill id Dict.empty ps = d.val ∧
        List.Forall₂ (fun e p => key (.str e.1) = ok p.1 ∧ value e.2 = ok p.2) o ps := by
  constructor
  · intro h
    unfold dict at h
    split at h
    · rename_i o
      obtain ⟨ps, hps, h⟩ := andThen_eq_ok.mp h
      by_cases hsize : lo ≤ (Dict.fill id Dict.empty ps).entries.length ∧
          (Dict.fill id Dict.empty ps).entries.length ≤ hi
      · obtain rfl := Validated.ok.inj ((dif_pos hsize).symm.trans h)
        exact ⟨o, ps, rfl, rfl, eachEntry_eq_ok.mp hps⟩
      · exact absurd ((dif_neg hsize).symm.trans h) (fail_ne_ok _ _)
    · exact absurd h (fail_ne_ok _ _)
  · rintro ⟨o, ps, rfl, hd, hps⟩
    simp only [dict, eachEntry_eq_ok.mpr hps, andThen]
    rcases d with ⟨d, hsize⟩
    obtain rfl : Dict.fill id Dict.empty ps = d := hd
    exact dif_pos hsize

/-- **A dictionary survives iff its values do**, when its keys always do. -/
theorem UndoesWhen.dict [DecidableEq α] {lo hi : Nat} {name : α → String}
    {key : Json → Validated α} {P : β → Prop} {dump : β → Json} {value : Json → Validated β}
    (hkey : Undoes (fun a => .str (name a)) key) (h : UndoesWhen P dump value)
    (d : {d : Dict α β // lo ≤ d.entries.length ∧ d.entries.length ≤ hi}) :
    Lib.dict lo hi key value (.obj (d.val.entries.map fun e => (name e.1, dump e.2))) = ok d ↔
      ∀ e ∈ d.val.entries, P e.2 := by
  rw [dict_eq_ok]
  constructor
  · rintro ⟨o, ps, ho, hfill, hall⟩
    obtain rfl := Json.obj.inj ho
    rw [List.forall₂_map_left_iff] at hall
    -- the keys read back as themselves, so they are distinct and the pairs are the entries
    have hkeys : d.val.entries.map Prod.fst = ps.map Prod.fst := by
      rw [← List.forall₂_eq_eq_eq, List.forall₂_map_left_iff, List.forall₂_map_right_iff]
      refine hall.imp fun e p hep => ?_
      exact Validated.ok.inj ((hkey e.1).symm.trans hep.1)
    obtain rfl := (Dict.fill_eq_iff (hkeys ▸ d.val.nodup)).mp hfill
    intro e he
    exact (h e.2).mp (List.forall₂_same.mp hall e he).2
  · intro hP
    refine ⟨_, d.val.entries, rfl, (Dict.fill_eq_iff d.val.nodup).mpr rfl, ?_⟩
    rw [List.forall₂_map_left_iff, List.forall₂_same]
    exact fun e he => ⟨hkey e.1, (h e.2).mpr (hP e he)⟩

/-! ## Records -/

/-- A check that holds passes. -/
theorem require_of {p : Prop} [Decidable p] {message : String} {build : p → α} (h : p) :
    require p message build = ok (build h) :=
  dif_pos h

/-- Over an object of exactly the declared fields, a record is its body. -/
theorem model_of_keys {names : List String} {body : JsonObject → Validated α} {o : JsonObject}
    (h : o.map Prod.fst = names) : model names body (.obj o) = body o := by
  have hall : forbidExtra names o = ok () :=
    forbidExtra_eq_ok.mpr fun e he => h ▸ List.mem_map_of_mem he
  simp only [model, hall]
  cases body o <;> rfl

end Grabatus.Lib

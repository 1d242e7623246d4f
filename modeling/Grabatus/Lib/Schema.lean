import Grabatus.Lib.Dict
import Mathlib.Data.Rat.Defs
import Mathlib.Algebra.Order.Ring.Rat

/-!
# Schemas over JSON documents

A validator is a function `Json → Validated α` that returns a typed value or every line error of
the document. The typed value carries what was checked: a `Str c` is a string that satisfies `c`,
an `Items lo hi α` a list whose length is between the bounds, so a record built from them cannot
be out of range and no later step checks again.

* Sections of a record validate side by side and their errors accumulate (`seq`); a check over
  the whole record runs once its fields are valid (`andThen`).
* `*_eq_ok` invert a successful validation into one fact per field.
* `Undoes dump v`: the validator `v` accepts what `dump` writes and returns the value dumped. Each
  combinator has its `Undoes` rule, so a record's round trip is assembled from its fields'.
-/

namespace Grabatus.Lib

/-! ## Documents -/

/-- A floating-point number: a finite value, an infinity or NaN. -/
inductive Double where
  | finite (q : ℚ)
  | posInf
  | negInf
  | nan
  deriving DecidableEq

namespace Double

/-- `x < y`; false whenever one side is NaN. -/
def lt : Double → Double → Bool
  | .nan, _ | _, .nan => false
  | .finite p, .finite q => decide (p < q)
  | .negInf, .negInf | .posInf, _ | _, .negInf => false
  | .negInf, _ | _, .posInf => true

/-- `x <= y`; false whenever one side is NaN. -/
def le : Double → Double → Bool
  | .nan, _ | _, .nan => false
  | .finite p, .finite q => decide (p ≤ q)
  | .negInf, _ | _, .posInf => true
  | .posInf, _ | _, .negInf => false

/-- Neither an infinity nor NaN. -/
def isFinite : Double → Bool
  | .finite _ => true
  | .posInf | .negInf | .nan => false

/-- On NaN the negated comparison says nothing of the positive one. -/
theorem le_iff : ∀ {x y : Double}, x.le y = true ↔ y.lt x = false ∧ x ≠ .nan ∧ y ≠ .nan
  | .finite p, .finite q => by simp [le, lt]
  | .finite _, .posInf | .finite _, .negInf | .finite _, .nan | .posInf, .finite _
  | .negInf, .finite _ | .nan, .finite _ => by simp [le, lt]
  | .posInf, .posInf | .posInf, .negInf | .posInf, .nan | .negInf, .posInf | .negInf, .negInf
  | .negInf, .nan | .nan, .posInf | .nan, .negInf | .nan, .nan => by decide

end Double

/-- A JSON document. A number without fraction or exponent is an `int`. -/
inductive Json where
  | null
  | bool (b : Bool)
  | int (n : Int)
  | float (x : Double)
  | str (s : String)
  | arr (items : List Json)
  | obj (entries : List (String × Json))

/-- The entries of an object. -/
abbrev JsonObject := List (String × Json)

/-- One step of the path to the place an error is about. -/
inductive Loc where
  | key (k : String)
  | index (i : Nat)
  deriving DecidableEq

/-- What is wrong at one place. `value` is a check of the application's own, with its text;
`leaf` is the rejection of a leaf type. -/
inductive ErrorType where
  | missing
  | extraForbidden
  | modelType
  | stringType
  | stringTooShort (min : Nat)
  | stringTooLong (max : Nat)
  | stringPattern
  | literal (expected : List String)
  | unionTag (expected : List String)
  | listType
  | dictType
  | tooShort (min : Nat)
  | tooLong (max : Nat)
  | outOfRange
  | leaf (type : String)
  | value (message : String)
  deriving DecidableEq

/-- One error of a validation: where, and what. -/
structure LineError where
  loc : List Loc
  type : ErrorType
  deriving DecidableEq

/-- The outcome of a validation. -/
inductive Validated (α : Type) where
  | ok (a : α)
  | errors (es : List LineError)
  deriving DecidableEq

namespace Validated

variable {α β γ : Type}

/-- Apply `f` to the value of a successful validation. -/
def map (f : α → β) : Validated α → Validated β
  | ok a => ok (f a)
  | errors es => errors es

/-- Two validations side by side; their errors accumulate. -/
def seq : Validated (α → β) → Validated α → Validated β
  | ok f, ok a => ok (f a)
  | ok _, errors es => errors es
  | errors es, ok _ => errors es
  | errors es, errors es' => errors (es ++ es')

/-- A check that runs once `x` succeeded. -/
def andThen (x : Validated α) (f : α → Validated β) : Validated β :=
  match x with
  | ok a => f a
  | errors es => errors es

instance : Applicative Validated where
  pure := ok
  map := map
  seq f x := seq f (x ())

/-- Put the errors of `x` under `step`. -/
def under (step : Loc) : Validated α → Validated α
  | ok a => ok a
  | errors es => errors (es.map fun e => ⟨step :: e.loc, e.type⟩)

/-- `x` succeeded. -/
def isOk : Validated α → Bool
  | ok _ => true
  | errors _ => false

/-- One error at the place itself. -/
def fail (type : ErrorType) : Validated α := errors [⟨[], type⟩]

@[simp] theorem pure_eq (a : α) : (pure a : Validated α) = ok a := rfl

@[simp] theorem map_ok (f : α → β) (a : α) : f <$> ok a = ok (f a) := rfl

@[simp] theorem seq_ok (f : α → β) (a : α) : (ok f <*> ok a) = ok (f a) := rfl

@[simp] theorem under_ok (step : Loc) (a : α) : under step (ok a) = ok a := rfl

@[simp] theorem fail_ne_ok (type : ErrorType) (a : α) : fail type ≠ ok a := nofun

@[simp] theorem map_eq_ok {f : α → β} {x : Validated α} {b : β} :
    f <$> x = ok b ↔ ∃ a, x = ok a ∧ f a = b := by
  cases x with
  | ok a => exact ⟨fun h => ⟨a, rfl, Validated.ok.inj h⟩, by rintro ⟨_, ⟨rfl⟩, rfl⟩; rfl⟩
  | errors es => exact ⟨nofun, by rintro ⟨_, h, -⟩; exact nomatch h⟩

@[simp] theorem seq_eq_ok {f : Validated (α → β)} {x : Validated α} {b : β} :
    (f <*> x) = ok b ↔ ∃ g a, f = ok g ∧ x = ok a ∧ g a = b := by
  cases f with
  | errors es =>
    refine ⟨fun h => ?_, by rintro ⟨_, _, h, -⟩; exact nomatch h⟩
    cases x <;> exact nomatch h
  | ok g =>
    cases x with
    | ok a =>
      exact ⟨fun h => ⟨g, a, rfl, rfl, Validated.ok.inj h⟩,
        by rintro ⟨_, _, ⟨rfl⟩, ⟨rfl⟩, rfl⟩; rfl⟩
    | errors es => exact ⟨nofun, by rintro ⟨_, _, -, h, -⟩; exact nomatch h⟩

@[simp] theorem andThen_eq_ok {x : Validated α} {f : α → Validated β} {b : β} :
    x.andThen f = ok b ↔ ∃ a, x = ok a ∧ f a = ok b := by
  cases x with
  | ok a => exact ⟨fun h => ⟨a, rfl, h⟩, by rintro ⟨_, ⟨rfl⟩, h⟩; exact h⟩
  | errors es => exact ⟨nofun, by rintro ⟨_, h, -⟩; exact nomatch h⟩

@[simp] theorem under_eq_ok {step : Loc} {x : Validated α} {a : α} :
    under step x = ok a ↔ x = ok a := by
  cases x with
  | ok b => exact Iff.rfl
  | errors es => exact ⟨nofun, nofun⟩

theorem isOk_iff {x : Validated α} : x.isOk = true ↔ ∃ a, x = ok a := by
  cases x with
  | ok a => exact ⟨fun _ => ⟨a, rfl⟩, fun _ => rfl⟩
  | errors es => exact ⟨nofun, by rintro ⟨_, h⟩; exact nomatch h⟩

end Validated

open Validated

variable {α β : Type}

/-- `v` accepts what `dump` writes and returns the value dumped. -/
def Undoes (dump : α → Json) (v : Json → Validated α) : Prop := ∀ a, v (dump a) = ok a

/-! ## Strings -/

/-- The constraints on a string field. -/
structure StrSpec where
  minLength : Nat := 0
  maxLength : Option Nat := none
  pattern : Option (String → Bool) := none

/-- The first constraint `s` breaks. -/
def StrSpec.check (c : StrSpec) (s : String) : Option ErrorType :=
  if s.length < c.minLength then some (.stringTooShort c.minLength)
  else if c.maxLength.any (· < s.length) then some (.stringTooLong (c.maxLength.getD 0))
  else if c.pattern.all (· s) then none
  else some .stringPattern

/-- A string that satisfies `c`. -/
structure Str (c : StrSpec) where
  val : String
  ok : c.check val = none
  deriving DecidableEq

theorem Str.ext {c : StrSpec} : ∀ {s t : Str c}, s.val = t.val → s = t
  | ⟨_, _⟩, ⟨_, _⟩, rfl => rfl

/-- The validator of a string field. -/
def str (c : StrSpec) : Json → Validated (Str c)
  | .str s =>
    match h : c.check s with
    | none => ok ⟨s, h⟩
    | some e => fail e
  | _ => fail .stringType

/-- A string field accepts exactly its string. -/
theorem str_eq_ok {c : StrSpec} {j : Json} {s : Str c} : str c j = ok s ↔ j = .str s.val := by
  constructor
  · intro h
    unfold str at h
    split at h
    · split at h
      · obtain rfl := Validated.ok.inj h
        rfl
      · exact absurd h (fail_ne_ok _ _)
    · exact absurd h (fail_ne_ok _ _)
  · rintro rfl
    unfold str
    split
    · rename_i t ht
      obtain rfl := Json.str.inj ht
      split
      · rfl
      · rename_i e he
        exact absurd (he.symm.trans s.ok) nofun
    · rename_i hne
      exact absurd rfl (hne s.val)

@[simp] theorem str_val {c : StrSpec} (s : Str c) : str c (.str s.val) = ok s :=
  str_eq_ok.mpr rfl

theorem Undoes.str (c : StrSpec) : Undoes (fun s : Str c => .str s.val) (Lib.str c) := str_val

/-- The facts a checked string carries. -/
theorem StrSpec.check_eq_none {c : StrSpec} {s : String} : c.check s = none ↔
    c.minLength ≤ s.length ∧ (∀ n, c.maxLength = some n → s.length ≤ n) ∧
      ∀ p, c.pattern = some p → p s = true := by
  unfold StrSpec.check
  by_cases hlo : s.length < c.minLength
  · simp [hlo]
  · have hle : c.minLength ≤ s.length := by omega
    rw [if_neg hlo]
    by_cases hhi : c.maxLength.any (· < s.length) = true
    · obtain ⟨n, hn, hlt⟩ := (Option.any_eq_true _ _).mp hhi
      have hlt : n < s.length := of_decide_eq_true hlt
      rw [if_pos hhi]
      exact ⟨nofun, fun h => absurd (h.2.1 n hn) (by omega)⟩
    · have hmax : ∀ n, c.maxLength = some n → s.length ≤ n := by
        intro n hn
        simpa [hn] using hhi
      rw [if_neg hhi]
      by_cases hp : c.pattern.all (· s) = true
      · rw [if_pos hp]
        exact ⟨fun _ => ⟨hle, hmax, fun p hc => by simpa [hc] using hp⟩, fun _ => rfl⟩
      · rw [if_neg hp]
        refine ⟨nofun, fun h => absurd ?_ hp⟩
        rcases hc : c.pattern with - | p
        · rfl
        · exact h.2.2 p hc

/-! ## Closed vocabularies -/

/-- The value named by a string of a closed vocabulary. -/
def literal (values : List (String × α)) : Json → Validated α
  | .str s =>
    match Dict.lookup s values with
    | some a => ok a
    | none => fail (.literal (values.map Prod.fst))
  | _ => fail (.literal (values.map Prod.fst))

theorem literal_eq_ok {values : List (String × α)} {j : Json} {a : α} :
    literal values j = ok a ↔ ∃ s, j = .str s ∧ Dict.lookup s values = some a := by
  unfold literal
  constructor
  · intro h
    split at h
    · rename_i s
      split at h
      · rename_i hs
        exact ⟨s, rfl, hs.trans (congrArg some (Validated.ok.inj h))⟩
      · exact absurd h (fail_ne_ok _ _)
    · exact absurd h (fail_ne_ok _ _)
  · rintro ⟨s, rfl, hs⟩
    simp only [hs]

theorem Undoes.literal {values : List (String × α)} {name : α → String}
    (h : ∀ a, Dict.lookup (name a) values = some a) :
    Undoes (fun a => .str (name a)) (Lib.literal values) :=
  fun a => literal_eq_ok.mpr ⟨name a, rfl, h a⟩

/-! ## Lists -/

/-- A list whose length is between `lo` and `hi`. -/
structure Items (lo hi : Nat) (α : Type) where
  toList : List α
  lo_le : lo ≤ toList.length
  le_hi : toList.length ≤ hi
  deriving DecidableEq

theorem Items.ext {lo hi : Nat} : ∀ {xs ys : Items lo hi α}, xs.toList = ys.toList → xs = ys
  | ⟨_, _, _⟩, ⟨_, _, _⟩, rfl => rfl

/-- Every item under its index; the errors of all items accumulate. -/
def eachItem (v : Json → Validated α) : Nat → List Json → Validated (List α)
  | _, [] => ok []
  | i, j :: js => List.cons <$> under (.index i) (v j) <*> eachItem v (i + 1) js

/-- The validator of a list field. -/
def items (lo hi : Nat) (v : Json → Validated α) : Json → Validated (Items lo hi α)
  | .arr js => (eachItem v 0 js).andThen fun xs =>
      if hlo : lo ≤ xs.length then
        if hhi : xs.length ≤ hi then ok ⟨xs, hlo, hhi⟩ else fail (.tooLong hi)
      else fail (.tooShort lo)
  | _ => fail .listType

theorem eachItem_eq_ok {v : Json → Validated α} : ∀ {js : List Json} {i : Nat} {xs : List α},
    eachItem v i js = ok xs ↔ List.Forall₂ (fun j x => v j = ok x) js xs
  | [], i, xs => by
    unfold eachItem
    constructor
    · intro h
      obtain rfl := Validated.ok.inj h
      exact .nil
    · rintro ⟨⟩
      rfl
  | j :: js, i, xs => by
    simp only [eachItem, seq_eq_ok, map_eq_ok, under_eq_ok, eachItem_eq_ok]
    constructor
    · rintro ⟨_, ys, ⟨x, hx, rfl⟩, hys, rfl⟩
      exact .cons hx hys
    · rintro (_ | ⟨hx, hys⟩)
      exact ⟨_, _, ⟨_, hx, rfl⟩, hys, rfl⟩

theorem items_eq_ok {lo hi : Nat} {v : Json → Validated α} {j : Json} {xs : Items lo hi α} :
    items lo hi v j = ok xs ↔
      ∃ js, j = .arr js ∧ List.Forall₂ (fun j x => v j = ok x) js xs.toList := by
  constructor
  · intro h
    unfold items at h
    split at h
    · rename_i js
      obtain ⟨ys, hys, h⟩ := andThen_eq_ok.mp h
      split at h
      · split at h
        · obtain rfl := Validated.ok.inj h
          exact ⟨js, rfl, eachItem_eq_ok.mp hys⟩
        · exact absurd h (fail_ne_ok _ _)
      · exact absurd h (fail_ne_ok _ _)
    · exact absurd h (fail_ne_ok _ _)
  · rintro ⟨js, rfl, hjs⟩
    simp only [items, eachItem_eq_ok.mpr hjs, andThen]
    rw [dif_pos xs.lo_le, dif_pos xs.le_hi]

theorem forall₂_congr_of_mem {R S : α → β → Prop} : ∀ {xs : List α} {ys : List β},
    (∀ x ∈ xs, ∀ y, R x y ↔ S x y) → (List.Forall₂ R xs ys ↔ List.Forall₂ S xs ys)
  | [], ys, _ => by simp
  | x :: xs, [], _ => by simp
  | x :: xs, y :: ys, h => by
    rw [List.forall₂_cons, List.forall₂_cons, h x List.mem_cons_self y,
      forall₂_congr_of_mem fun x' hx' => h x' (List.mem_cons_of_mem _ hx')]

/-- **What a dumped list reads back as**, item by item. -/
theorem items_dump_eq_ok {lo hi : Nat} {dump : α → Json} {v : Json → Validated α}
    {R : α → α → Prop} {xs ys : Items lo hi α}
    (h : ∀ x ∈ xs.toList, ∀ y, v (dump x) = ok y ↔ R x y) :
    items lo hi v (.arr (xs.toList.map dump)) = ok ys ↔ List.Forall₂ R xs.toList ys.toList := by
  rw [items_eq_ok]
  simp only [Json.arr.injEq, exists_eq_left', List.forall₂_map_left_iff]
  exact forall₂_congr_of_mem h

theorem Undoes.items {lo hi : Nat} {dump : α → Json} {v : Json → Validated α}
    (h : Undoes dump v) :
    Undoes (fun xs : Items lo hi α => .arr (xs.toList.map dump)) (Lib.items lo hi v) := by
  intro xs
  refine items_eq_ok.mpr ⟨_, rfl, ?_⟩
  rw [List.forall₂_map_left_iff]
  exact List.forall₂_same.mpr fun x _ => h x

/-! ## Optional values -/

/-- `T | None`. -/
def nullable (v : Json → Validated α) : Json → Validated (Option α)
  | .null => ok none
  | j => some <$> v j

/-- How `T | None` is written. -/
def dumpNullable (dump : α → Json) : Option α → Json
  | none => .null
  | some a => dump a

theorem nullable_of_ne_null {v : Json → Validated α} {j : Json} (h : j ≠ .null) :
    nullable v j = some <$> v j := by
  cases j <;> first | rfl | exact absurd rfl h

theorem nullable_eq_some {v : Json → Validated α} {j : Json} {a : α}
    (h : nullable v j = .ok (some a)) : v j = .ok a := by
  by_cases hnull : j = .null
  · subst hnull
    exact nomatch h
  · rw [nullable_of_ne_null hnull] at h
    obtain ⟨b, hb, hba⟩ := map_eq_ok.mp h
    exact hb.trans (congrArg ok (Option.some.inj hba))

theorem Undoes.nullable {dump : α → Json} {v : Json → Validated α} (h : Undoes dump v)
    (hn : ∀ a, dump a ≠ .null) : Undoes (dumpNullable dump) (Lib.nullable v)
  | none => rfl
  | some a => by
    show Lib.nullable v (dump a) = _
    rw [nullable_of_ne_null (hn a), h a]
    rfl

/-! ## Checks of the application -/

/-- A check over a value that is otherwise built: `build` gets the fact checked. -/
def require (p : Prop) [Decidable p] (message : String) (build : p → α) : Validated α :=
  if h : p then ok (build h) else fail (.value message)

theorem require_eq_ok {p : Prop} [Decidable p] {message : String} {build : p → α} {a : α} :
    require p message build = ok a ↔ ∃ h, build h = a := by
  unfold require
  split
  · rename_i h
    exact ⟨fun ha => ⟨h, Validated.ok.inj ha⟩, fun ⟨_, ha⟩ => congrArg ok ha⟩
  · rename_i h
    exact ⟨fun ha => absurd ha (fail_ne_ok _ _), fun ⟨h', _⟩ => absurd h' h⟩

/-! ## Dictionaries -/

/-- Every entry under its key; the errors of all entries accumulate. -/
def eachEntry (key : Json → Validated α) (value : Json → Validated β) :
    JsonObject → Validated (List (α × β))
  | [] => ok []
  | (k, j) :: o =>
    (fun a b rest => (a, b) :: rest) <$> under (.key k) (key (.str k)) <*>
      under (.key k) (value j) <*> eachEntry key value o

/-- `dict[K, V]` whose size is between the bounds. -/
def dict [DecidableEq α] (lo hi : Nat) (key : Json → Validated α) (value : Json → Validated β) :
    Json → Validated {d : Dict α β // lo ≤ d.entries.length ∧ d.entries.length ≤ hi}
  | .obj o => (eachEntry key value o).andThen fun ps =>
      let d := Dict.fill id Dict.empty ps
      if h : lo ≤ d.entries.length ∧ d.entries.length ≤ hi then ok ⟨d, h⟩
      else fail (if d.entries.length < lo then .tooShort lo else .tooLong hi)
  | _ => fail .dictType

/-! ## Records -/

/-- A field without a default. -/
def field (o : JsonObject) (name : String) (v : Json → Validated α) : Validated α :=
  match Dict.lookup name o with
  | some j => under (.key name) (v j)
  | none => errors [⟨[.key name], .missing⟩]

/-- A field with a default. -/
def fieldOr (o : JsonObject) (name : String) (default : α) (v : Json → Validated α) :
    Validated α :=
  match Dict.lookup name o with
  | some j => under (.key name) (v j)
  | none => ok default

/-- `extra="forbid"`: one error per key that is not a field. -/
def forbidExtra (names : List String) (o : JsonObject) : Validated Unit :=
  match o.filterMap fun e => if e.1 ∈ names then none else some e.1 with
  | [] => ok ()
  | extra => errors (extra.map fun k => ⟨[.key k], .extraForbidden⟩)

/-- A record whose fields `names` are validated by `body` and which allows no other. -/
def model (names : List String) (body : JsonObject → Validated α) : Json → Validated α
  | .obj o => (fun a _ => a) <$> body o <*> forbidExtra names o
  | _ => fail .modelType

theorem field_eq_ok {o : JsonObject} {name : String} {v : Json → Validated α} {a : α} :
    field o name v = ok a ↔ ∃ j, Dict.lookup name o = some j ∧ v j = ok a := by
  unfold field
  split <;> simp [*]

theorem fieldOr_eq_ok {o : JsonObject} {name : String} {d : α} {v : Json → Validated α} {a : α} :
    fieldOr o name d v = ok a ↔
      (∃ j, Dict.lookup name o = some j ∧ v j = ok a) ∨ (Dict.lookup name o = none ∧ d = a) := by
  unfold fieldOr
  split <;> simp [*]

theorem forbidExtra_eq_ok {names : List String} {o : JsonObject} :
    forbidExtra names o = ok () ↔ ∀ e ∈ o, e.1 ∈ names := by
  unfold forbidExtra
  split
  · rename_i h
    simpa [List.filterMap_eq_nil_iff] using h
  · rename_i h
    refine ⟨nofun, fun hall => absurd (List.filterMap_eq_nil_iff.mpr ?_) h⟩
    intro e he
    simp [hall e he]

theorem model_eq_ok {names : List String} {body : JsonObject → Validated α} {j : Json} {a : α} :
    model names body j = ok a ↔ ∃ o, j = .obj o ∧ body o = ok a ∧ ∀ e ∈ o, e.1 ∈ names := by
  unfold model
  constructor
  · intro h
    split at h
    · rename_i o
      simp only [seq_eq_ok, map_eq_ok] at h
      obtain ⟨_, u, ⟨b, hb, rfl⟩, hu, rfl⟩ := h
      exact ⟨o, rfl, hb, forbidExtra_eq_ok.mp hu⟩
    · exact absurd h (fail_ne_ok _ _)
  · rintro ⟨o, rfl, hb, hall⟩
    simp only [hb, forbidExtra_eq_ok.mpr hall, map_ok, seq_ok]

end Grabatus.Lib

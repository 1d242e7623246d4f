import Grabatus.Lib.Reread
import Mathlib.Data.List.Perm.Subperm

/-!
# How large an accepted document can be

`j.BoundedBy B`: no string and no key of `j` has more than `B` characters, no list and no object
more than `B` entries. A validator bounds most of what it accepts and leaves some strings free:
`BoundedBut m v free` says that a document `v` accepts is within any bound from `m` on exactly when
the strings `free` finds in it are. Each combinator has its rule, so the free strings of a record
are those of its fields.
-/

namespace Grabatus.Lib

open Validated

variable {α β : Type}

/-! ## Bounded documents -/

mutual

/-- Every string, key, list and object in the document is within `B`. -/
def Json.BoundedBy (B : Nat) : Json → Prop
  | .str s => s.length ≤ B
  | .arr items => items.length ≤ B ∧ Json.ItemsBoundedBy B items
  | .obj entries => entries.length ≤ B ∧ Json.EntriesBoundedBy B entries
  | .null | .bool _ | .int _ | .float _ => True

/-- Every item is within `B`. -/
def Json.ItemsBoundedBy (B : Nat) : List Json → Prop
  | [] => True
  | j :: js => j.BoundedBy B ∧ Json.ItemsBoundedBy B js

/-- Every key and value is within `B`. -/
def Json.EntriesBoundedBy (B : Nat) : List (String × Json) → Prop
  | [] => True
  | (k, j) :: es => (k.length ≤ B ∧ j.BoundedBy B) ∧ Json.EntriesBoundedBy B es

end

mutual

/-- No object of the document repeats a key. -/
def Json.KeysDistinct : Json → Prop
  | .arr items => Json.ItemsKeysDistinct items
  | .obj entries => (entries.map Prod.fst).Nodup ∧ Json.EntriesKeysDistinct entries
  | .null | .bool _ | .int _ | .float _ | .str _ => True

/-- No object of an item repeats a key. -/
def Json.ItemsKeysDistinct : List Json → Prop
  | [] => True
  | j :: js => j.KeysDistinct ∧ Json.ItemsKeysDistinct js

/-- No object of a value repeats a key. -/
def Json.EntriesKeysDistinct : List (String × Json) → Prop
  | [] => True
  | (_, j) :: es => j.KeysDistinct ∧ Json.EntriesKeysDistinct es

end

mutual

/-- `KeysDistinct` is decidable. -/
def Json.decideKeysDistinct : (j : Json) → Decidable j.KeysDistinct
  | .arr items => Json.decideItemsKeysDistinct items
  | .obj entries => @instDecidableAnd _ _ inferInstance (Json.decideEntriesKeysDistinct entries)
  | .null | .bool _ | .int _ | .float _ | .str _ => .isTrue trivial

/-- `ItemsKeysDistinct` is decidable. -/
def Json.decideItemsKeysDistinct : (js : List Json) → Decidable (Json.ItemsKeysDistinct js)
  | [] => .isTrue trivial
  | j :: js => @instDecidableAnd _ _ (Json.decideKeysDistinct j) (Json.decideItemsKeysDistinct js)

/-- `EntriesKeysDistinct` is decidable. -/
def Json.decideEntriesKeysDistinct :
    (es : List (String × Json)) → Decidable (Json.EntriesKeysDistinct es)
  | [] => .isTrue trivial
  | (_, j) :: es =>
    @instDecidableAnd _ _ (Json.decideKeysDistinct j) (Json.decideEntriesKeysDistinct es)

end

instance (j : Json) : Decidable j.KeysDistinct := j.decideKeysDistinct

namespace Json

theorem itemsBoundedBy_iff {B : Nat} {js : List Json} :
    ItemsBoundedBy B js ↔ ∀ j ∈ js, j.BoundedBy B := by
  induction js with
  | nil => simp [ItemsBoundedBy]
  | cons j js ih => simp [ItemsBoundedBy, ih]

theorem entriesBoundedBy_iff {B : Nat} {es : List (String × Json)} :
    EntriesBoundedBy B es ↔ ∀ e ∈ es, e.1.length ≤ B ∧ e.2.BoundedBy B := by
  induction es with
  | nil => simp [EntriesBoundedBy]
  | cons e es ih => simp [EntriesBoundedBy, ih]

theorem itemsKeysDistinct_iff {js : List Json} :
    ItemsKeysDistinct js ↔ ∀ j ∈ js, j.KeysDistinct := by
  induction js with
  | nil => simp [ItemsKeysDistinct]
  | cons j js ih => simp [ItemsKeysDistinct, ih]

theorem entriesKeysDistinct_iff {es : List (String × Json)} :
    EntriesKeysDistinct es ↔ ∀ e ∈ es, e.2.KeysDistinct := by
  induction es with
  | nil => simp [EntriesKeysDistinct]
  | cons e es ih => simp [EntriesKeysDistinct, ih]

@[simp] theorem boundedBy_str {B : Nat} {s : String} : (str s).BoundedBy B ↔ s.length ≤ B := by
  rw [BoundedBy]

theorem boundedBy_arr {B : Nat} {js : List Json} :
    (arr js).BoundedBy B ↔ js.length ≤ B ∧ ∀ j ∈ js, j.BoundedBy B := by
  rw [BoundedBy, itemsBoundedBy_iff]

theorem boundedBy_obj {B : Nat} {es : List (String × Json)} :
    (obj es).BoundedBy B ↔ es.length ≤ B ∧ ∀ e ∈ es, e.1.length ≤ B ∧ e.2.BoundedBy B := by
  rw [BoundedBy, entriesBoundedBy_iff]

/-- A bound on an object bounds the value under each key. -/
theorem BoundedBy.of_lookup {B : Nat} {es : List (String × Json)} (h : (obj es).BoundedBy B)
    {k : String} {j : Json} (hj : Dict.lookup k es = some j) : j.BoundedBy B :=
  ((boundedBy_obj.mp h).2 _ (Dict.mem_of_lookup hj)).2

/-- A bound on a list bounds each item. -/
theorem BoundedBy.of_mem {B : Nat} {js : List Json} (h : (arr js).BoundedBy B) {j : Json}
    (hj : j ∈ js) : j.BoundedBy B :=
  (boundedBy_arr.mp h).2 j hj

theorem keysDistinct_arr {js : List Json} :
    (arr js).KeysDistinct ↔ ∀ j ∈ js, j.KeysDistinct := by
  rw [KeysDistinct, itemsKeysDistinct_iff]

theorem keysDistinct_obj {es : List (String × Json)} :
    (obj es).KeysDistinct ↔ (es.map Prod.fst).Nodup ∧ ∀ e ∈ es, e.2.KeysDistinct := by
  rw [KeysDistinct, entriesKeysDistinct_iff]

end Json

/-! ## Where the free strings are -/

/-- The string itself. -/
def freeString : Json → List String
  | .str s => [s]
  | _ => []

/-- The free strings of each item. -/
def freeItems (free : Json → List String) : Json → List String
  | .arr js => js.flatMap free
  | _ => []

/-- The free strings under the given keys. -/
def freeFields (fields : List (String × (Json → List String))) : Json → List String
  | .obj o => fields.flatMap fun f => ((Dict.lookup f.1 o).map f.2).getD []
  | _ => []

theorem mem_freeFields {fields : List (String × (Json → List String))} {o : JsonObject}
    {s : String} : s ∈ freeFields fields (.obj o) ↔
      ∃ f ∈ fields, ∃ j, Dict.lookup f.1 o = some j ∧ s ∈ f.2 j := by
  simp only [freeFields, List.mem_flatMap]
  constructor
  · rintro ⟨f, hf, hs⟩
    cases hj : Dict.lookup f.1 o with
    | none => simp [hj] at hs
    | some j => exact ⟨f, hf, j, hj, by simpa [hj] using hs⟩
  · rintro ⟨f, hf, j, hj, hs⟩
    exact ⟨f, hf, by simpa [hj] using hs⟩

/-! ## What a validator bounds -/

/-- The document is within every bound from `m` on, up to the strings in `free`. -/
def Json.WithinBut (m : Nat) (free : List String) (j : Json) : Prop :=
  ∀ B, m ≤ B → (j.BoundedBy B ↔ ∀ s ∈ free, s.length ≤ B)

/-- What `v` accepts is within every bound from `m` on, up to the strings `free` finds in it. -/
def BoundedBut (m : Nat) (v : Json → Validated α) (free : Json → List String) : Prop :=
  ∀ ⦃j a⦄, v j = ok a → j.KeysDistinct → j.WithinBut m (free j)

/-- What `v` accepts is within `m`. -/
def Closed (m : Nat) (v : Json → Validated α) : Prop := BoundedBut m v fun _ => []

theorem Json.withinBut_nil {m : Nat} {j : Json} (h : ∀ B, m ≤ B → j.BoundedBy B) :
    j.WithinBut m [] := fun B hB => iff_of_true (h B hB) nofun

theorem Closed.boundedBy {m : Nat} {v : Json → Validated α} (h : Closed m v) {j : Json} {a : α}
    (hv : v j = ok a) (hj : j.KeysDistinct) {B : Nat} (hB : m ≤ B) : j.BoundedBy B :=
  (h hv hj B hB).mpr nofun

section

variable {m : Nat}

/-- A string is free where nothing bounds it. -/
theorem boundedBut_str (c : StrSpec) : BoundedBut m (str c) freeString := by
  intro j s h _ B _
  obtain rfl := str_eq_ok.mp h
  simp [freeString]

/-- A string is bounded as soon as its constraints bound it. -/
theorem closed_str_of {c : StrSpec} (h : ∀ s, c.check s = none → s.length ≤ m) :
    Closed m (str c) := by
  intro j s hs _
  obtain rfl := str_eq_ok.mp hs
  refine Json.withinBut_nil fun B hB => Json.boundedBy_str.mpr ?_
  have hlen := h s.val s.ok
  omega

/-- **A string with a maximum is bounded.** -/
theorem closed_str {c : StrSpec} {n : Nat} (hmax : c.maxLength = some n) (hn : n ≤ m) :
    Closed m (str c) :=
  closed_str_of fun _ hs => ((StrSpec.check_eq_none.mp hs).2.1 n hmax).trans hn

theorem closed_literal {values : List (String × α)}
    (h : ∀ e ∈ values, e.1.length ≤ m) : Closed m (literal values) := by
  intro j a hv _
  obtain ⟨s, rfl, hs⟩ := literal_eq_ok.mp hv
  refine Json.withinBut_nil fun B hB => Json.boundedBy_str.mpr ?_
  have hlen : s.length ≤ m := h _ (Dict.mem_of_lookup hs)
  omega

/-- A leaf that is no list and no object is free where it is a string. -/
theorem boundedBut_scalar {v : Json → Validated α} (harr : ∀ js a, v (.arr js) ≠ ok a)
    (hobj : ∀ o a, v (.obj o) ≠ ok a) : BoundedBut m v freeString := by
  intro j a h _ B _
  cases j with
  | arr js => exact absurd h (harr js a)
  | obj o => exact absurd h (hobj o a)
  | str s => simp [freeString]
  | _ => simp [freeString, Json.BoundedBy]

/-- A check after the validation changes nothing. -/
theorem BoundedBut.andThen {v : Json → Validated α} {free : Json → List String}
    (h : BoundedBut m v free) (f : α → Validated β) :
    BoundedBut m (fun j => (v j).andThen f) free := by
  intro j b hv hj
  obtain ⟨a, ha, -⟩ := andThen_eq_ok.mp hv
  exact h ha hj

theorem BoundedBut.nullable {v : Json → Validated α} {free : Json → List String}
    (h : BoundedBut m v free) (hnull : free .null = []) : BoundedBut m (nullable v) free := by
  intro j o hv hj
  by_cases hn : j = .null
  · obtain rfl := hn
    rw [hnull]
    exact Json.withinBut_nil fun B _ => by simp [Json.BoundedBy]
  · rw [nullable_of_ne_null hn] at hv
    obtain ⟨a, ha, -⟩ := map_eq_ok.mp hv
    exact h ha hj

theorem exists_of_forall₂ {R : α → β → Prop} {xs : List α} {ys : List β}
    (h : List.Forall₂ R xs ys) {x : α} (hx : x ∈ xs) : ∃ y ∈ ys, R x y := by
  induction h with
  | nil => exact absurd hx List.not_mem_nil
  | cons hr _ ih =>
    rcases List.mem_cons.mp hx with rfl | hx
    · exact ⟨_, List.mem_cons_self, hr⟩
    · obtain ⟨y, hy, hr⟩ := ih hx
      exact ⟨y, List.mem_cons_of_mem _ hy, hr⟩

/-- **The free strings of a list** are those of its items. -/
theorem BoundedBut.items {v : Json → Validated α} {free : Json → List String}
    (h : BoundedBut m v free) {lo hi : Nat} (hhi : hi ≤ m) :
    BoundedBut m (items lo hi v) (freeItems free) := by
  intro j xs hv hj B hB
  obtain ⟨js, rfl, hjs⟩ := items_eq_ok.mp hv
  have hlen : js.length ≤ B := by
    have := hjs.length_eq
    have := xs.le_hi
    omega
  have hitem : ∀ j ∈ js, (j.BoundedBy B ↔ ∀ s ∈ free j, s.length ≤ B) := by
    intro j hmem
    obtain ⟨x, -, hx⟩ := exists_of_forall₂ hjs hmem
    exact h hx (Json.keysDistinct_arr.mp hj j hmem) B hB
  rw [Json.boundedBy_arr, freeItems, List.forall_mem_flatMap]
  constructor
  · exact fun hB' j hmem => (hitem j hmem).mp (hB'.2 j hmem)
  · exact fun hfree => ⟨hlen, fun j hmem => (hitem j hmem).mpr (hfree j hmem)⟩

theorem Closed.items {v : Json → Validated α} (h : Closed m v) {lo hi : Nat}
    (hhi : hi ≤ m) : Closed m (Lib.items lo hi v) := by
  intro j xs hv hj
  have hfree : freeItems (fun _ => []) j = [] := by
    cases j <;> simp [freeItems]
  exact hfree ▸ BoundedBut.items h hhi hv hj

theorem Closed.andThen {v : Json → Validated α} (h : Closed m v) (f : α → Validated β) :
    Closed m fun j => (v j).andThen f :=
  BoundedBut.andThen h f

theorem Closed.nullable {v : Json → Validated α} (h : Closed m v) : Closed m (Lib.nullable v) :=
  BoundedBut.nullable h rfl

/-! ### Dictionaries -/

/-- **A dictionary over bounded keys and values is bounded**: its keys read back as they stand, so
none is lost and the size checked is the size of the object. -/
theorem Closed.dict {c : StrSpec} {n : Nat} (hmax : c.maxLength = some n) {v : Json → Validated β}
    (h : Closed m v) {lo hi : Nat} (hn : n ≤ m) (hhi : hi ≤ m) :
    Closed m (Lib.dict lo hi (str c) v) := by
  intro j d hv hj
  obtain ⟨o, ps, rfl, hfill, hall⟩ := dict_eq_ok.mp hv
  obtain ⟨hdistinct, hvalues⟩ := Json.keysDistinct_obj.mp hj
  have hkeys : o.map Prod.fst = ps.map fun p => p.1.val := by
    rw [← List.forall₂_eq_eq_eq, List.forall₂_map_left_iff, List.forall₂_map_right_iff]
    exact hall.imp fun e p hep => Json.str.inj (str_eq_ok.mp hep.1)
  have hnodup : (ps.map Prod.fst).Nodup := by
    refine List.Nodup.of_map Str.val ?_
    rw [List.map_map]
    exact hkeys ▸ hdistinct
  refine Json.withinBut_nil fun B hB => Json.boundedBy_obj.mpr ⟨?_, fun e he => ?_⟩
  · have hlen : o.length = d.val.entries.length := by
      rw [← (Dict.fill_eq_iff hnodup).mp hfill]
      exact hall.length_eq
    have := d.property.2
    omega
  · obtain ⟨p, -, hkey, hvalue⟩ := exists_of_forall₂ hall he
    refine ⟨?_, h.boundedBy hvalue (hvalues e he) hB⟩
    exact (Json.boundedBy_str).mp ((closed_str hmax hn).boundedBy hkey trivial hB)

/-! ### Records -/

/-- A record's body bounds the fields in `closed`, and those in `free` up to their free
strings. -/
def FieldsBounded (m : Nat) (closed : List String) (free : List (String × (Json → List String)))
    (body : JsonObject → Validated α) : Prop :=
  ∀ ⦃o a⦄, body o = ok a →
    (∀ k ∈ closed, ∀ j, Dict.lookup k o = some j → j.KeysDistinct → j.WithinBut m []) ∧
      ∀ f ∈ free, ∀ j, Dict.lookup f.1 o = some j → j.KeysDistinct → j.WithinBut m (f.2 j)

/-- The one field read by `x`: the validator `v` accepted the value under `k`. -/
def Reads (k : String) (v : Json → Validated α) (x : JsonObject → Validated α) : Prop :=
  ∀ ⦃o a j⦄, x o = ok a → Dict.lookup k o = some j → v j = ok a

theorem reads_field {k : String} {v : Json → Validated α} : Reads k v fun o => field o k v := by
  intro o a j hx hj
  obtain ⟨j', hj', hv⟩ := field_eq_ok.mp hx
  obtain rfl := Option.some.inj (hj.symm.trans hj')
  exact hv

theorem reads_fieldOr {k : String} {d : α} {v : Json → Validated α} :
    Reads k v fun o => fieldOr o k d v := by
  intro o a j hx hj
  rcases fieldOr_eq_ok.mp hx with ⟨j', hj', hv⟩ | ⟨hnone, -⟩
  · obtain rfl := Option.some.inj (hj.symm.trans hj')
    exact hv
  · exact nomatch hj.symm.trans hnone

section Fields

variable {closed : List String} {free : List (String × (Json → List String))} {γ : Type}

theorem FieldsBounded.ofReads {k : String} {v : Json → Validated α} {fv : Json → List String}
    {x : JsonObject → Validated α} (hx : Reads k v x) (hv : BoundedBut m v fv) {f : α → β} :
    FieldsBounded m [] [(k, fv)] fun o => f <$> x o := by
  intro o b hb
  obtain ⟨a, ha, -⟩ := map_eq_ok.mp hb
  refine ⟨nofun, fun g hg j hj hdist => ?_⟩
  obtain rfl := List.mem_singleton.mp hg
  exact hv (hx ha hj) hdist

theorem FieldsBounded.andReads {body : JsonObject → Validated (α → β)}
    (h : FieldsBounded m closed free body) {k : String} {v : Json → Validated α}
    {fv : Json → List String} {x : JsonObject → Validated α} (hx : Reads k v x)
    (hv : BoundedBut m v fv) :
    FieldsBounded m closed ((k, fv) :: free) fun o => body o <*> x o := by
  intro o b hb
  obtain ⟨g, a, hg, ha, -⟩ := seq_eq_ok.mp hb
  refine ⟨(h hg).1, fun f hf j hj hdist => ?_⟩
  rcases List.mem_cons.mp hf with rfl | hf
  · exact hv (hx ha hj) hdist
  · exact (h hg).2 f hf j hj hdist

/-- A field without free strings is closed. -/
theorem FieldsBounded.close {body : JsonObject → Validated α} {k : String}
    (h : FieldsBounded m closed ((k, fun _ => []) :: free) body) :
    FieldsBounded m (k :: closed) free body := by
  intro o a hb
  obtain ⟨hclosed, hfree⟩ := h hb
  refine ⟨fun k' hk' => ?_, fun f hf => hfree f (List.mem_cons_of_mem _ hf)⟩
  rcases List.mem_cons.mp hk' with rfl | hk'
  · exact hfree _ List.mem_cons_self
  · exact hclosed k' hk'

variable {k : String} {v : Json → Validated α} {fv : Json → List String} {d : α}
  {body : JsonObject → Validated (α → β)} {f : α → β}

theorem FieldsBounded.first (hv : Closed m v) :
    FieldsBounded m [k] [] fun o => f <$> field o k v :=
  close (ofReads reads_field hv)

theorem FieldsBounded.firstFree (hv : BoundedBut m v fv) :
    FieldsBounded m [] [(k, fv)] fun o => f <$> field o k v :=
  ofReads reads_field hv

theorem FieldsBounded.firstOr (hv : Closed m v) :
    FieldsBounded m [k] [] fun o => f <$> fieldOr o k d v :=
  close (ofReads reads_fieldOr hv)

theorem FieldsBounded.firstOrFree (hv : BoundedBut m v fv) :
    FieldsBounded m [] [(k, fv)] fun o => f <$> fieldOr o k d v :=
  ofReads reads_fieldOr hv

theorem FieldsBounded.next (h : FieldsBounded m closed free body) (hv : Closed m v) :
    FieldsBounded m (k :: closed) free fun o => body o <*> field o k v :=
  close (h.andReads reads_field hv)

theorem FieldsBounded.nextFree (h : FieldsBounded m closed free body) (hv : BoundedBut m v fv) :
    FieldsBounded m closed ((k, fv) :: free) fun o => body o <*> field o k v :=
  h.andReads reads_field hv

theorem FieldsBounded.nextOr (h : FieldsBounded m closed free body) (hv : Closed m v) :
    FieldsBounded m (k :: closed) free fun o => body o <*> fieldOr o k d v :=
  close (h.andReads reads_fieldOr hv)

theorem FieldsBounded.nextOrFree (h : FieldsBounded m closed free body)
    (hv : BoundedBut m v fv) :
    FieldsBounded m closed ((k, fv) :: free) fun o => body o <*> fieldOr o k d v :=
  h.andReads reads_fieldOr hv

/-- The names of a record are short and few, and each is among `known`. -/
def NamesFit (m : Nat) (known names : List String) : Prop :=
  names.length ≤ m ∧ ∀ k ∈ names, k.length ≤ m ∧ k ∈ known

instance (known names : List String) : Decidable (NamesFit m known names) := by
  unfold NamesFit
  exact inferInstance

/-- **The free strings of a record** are those of its free fields, when its names are short and
few, and each field is accounted for. -/
theorem BoundedBut.model {body : JsonObject → Validated α}
    (h : FieldsBounded m closed free body) {names : List String}
    (hnames : NamesFit m (closed ++ free.map Prod.fst) names) :
    BoundedBut m (Lib.model names body) (freeFields free.reverse) := by
  intro j a hv hj B hB
  obtain ⟨o, rfl, hbody, hall⟩ := model_eq_ok.mp hv
  obtain ⟨hdistinct, hvalues⟩ := Json.keysDistinct_obj.mp hj
  obtain ⟨hclosed, hfree⟩ := h hbody
  obtain ⟨hcount, hknown⟩ := hnames
  have hsize : o.length ≤ B := by
    have hsub : o.map Prod.fst ⊆ names := fun k hk => by
      obtain ⟨e, he, rfl⟩ := List.mem_map.mp hk
      exact hall e he
    have hlen := (List.subperm_of_subset hdistinct hsub).length_le
    rw [List.length_map] at hlen
    omega
  rw [Json.boundedBy_obj]
  constructor
  · intro hbounded s hs
    obtain ⟨f, hf, j, hlookup, hs⟩ := mem_freeFields.mp hs
    have hmem := Dict.mem_of_lookup hlookup
    exact (hfree f (List.mem_reverse.mp hf) j hlookup (hvalues _ hmem) B hB).mp
      (hbounded.2 _ hmem).2 s hs
  · refine fun hbounded => ⟨hsize, fun e he => ⟨?_, ?_⟩⟩
    · have := (hknown _ (hall e he)).1
      omega
    · have hlookup : Dict.lookup e.1 o = some e.2 := Dict.lookup_of_mem hdistinct he
      rcases List.mem_append.mp (hknown _ (hall e he)).2 with hk | hk
      · exact (hclosed _ hk _ hlookup (hvalues e he) B hB).mpr nofun
      · obtain ⟨f, hf, hkey⟩ := List.mem_map.mp hk
        rw [← hkey] at hlookup
        refine (hfree f hf _ hlookup (hvalues e he) B hB).mpr fun s hs => hbounded s ?_
        exact mem_freeFields.mpr ⟨f, List.mem_reverse.mpr hf, _, hlookup, hs⟩

/-- **A record of bounded fields is bounded.** -/
theorem Closed.model {body : JsonObject → Validated α}
    (h : FieldsBounded m closed [] body) {names : List String}
    (hnames : NamesFit m closed names) : Closed m (Lib.model names body) := by
  intro j a hv hj
  have hfree : freeFields [].reverse j = [] := by
    cases j <;> simp [freeFields]
  have hknown : NamesFit m (closed ++ ([] : List (String × (Json → List String))).map Prod.fst)
      names := by
    rwa [List.map_nil, List.append_nil]
  exact hfree ▸ BoundedBut.model h hknown hv hj

end Fields

end

end Grabatus.Lib

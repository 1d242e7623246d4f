import Mathlib.Data.List.Nodup

/-!
# Insertion-ordered dictionaries

A `Dict κ α` is the dictionary of a language whose mappings remember the order keys were first
written in: a list of entries without a repeated key. `set` overwrites the value of a key it
holds, in place, and appends a key it does not hold.

* `get?_set` reads after a write.
* `Same` is equality of mappings, which no order of the entries affects; a map of the values that
  is injective reflects it (`same_mapValues`).
* `fill` is the loop `for x in xs: d[key x] = value x`. Over distinct keys it keeps the order of
  `xs` and holds every pair (`fill_entries`), so nothing is lost; over repeated keys the last
  write wins and the earlier value is gone, which is why every theorem about it asks `Nodup`.
-/

namespace Grabatus.Lib

variable {κ α ι β : Type}

/-- A dictionary: entries in insertion order, one per key. -/
structure Dict (κ α : Type) where
  entries : List (κ × α)
  nodup : (entries.map Prod.fst).Nodup
  deriving DecidableEq

namespace Dict

/-- `{}`. -/
def empty : Dict κ α := ⟨[], List.nodup_nil⟩

/-- The keys, in insertion order. -/
def keys (d : Dict κ α) : List κ := d.entries.map Prod.fst

section Lookup

variable [DecidableEq κ]

/-- `d.get(k)`: the value of the first entry for `k`. -/
def lookup (k : κ) : List (κ × α) → Option α
  | [] => none
  | (k', v) :: rest => if k' = k then some v else lookup k rest

/-- `d.get(k)`. -/
def get? (d : Dict κ α) (k : κ) : Option α := lookup k d.entries

/-- Overwrite the entry for `k` in place, or append one. -/
def write (k : κ) (v : α) : List (κ × α) → List (κ × α)
  | [] => [(k, v)]
  | (k', v') :: rest => if k' = k then (k, v) :: rest else (k', v') :: write k v rest

theorem keys_write_of_mem {k : κ} {v : α} :
    ∀ {l : List (κ × α)}, k ∈ l.map Prod.fst → (write k v l).map Prod.fst = l.map Prod.fst
  | [], h => absurd h (by simp)
  | (k', v') :: rest, h => by
    unfold write
    split
    · rename_i hk
      simp [hk]
    · rename_i hk
      have hr : k ∈ rest.map Prod.fst := by
        rcases List.mem_cons.mp h with h | h
        · exact absurd h.symm hk
        · exact h
      simp [keys_write_of_mem hr]

theorem write_of_not_mem {k : κ} {v : α} :
    ∀ {l : List (κ × α)}, k ∉ l.map Prod.fst → write k v l = l ++ [(k, v)]
  | [], _ => rfl
  | (k', v') :: rest, h => by
    simp only [List.map_cons, List.mem_cons, not_or] at h
    unfold write
    rw [if_neg (Ne.symm h.1), write_of_not_mem h.2, List.cons_append]

theorem nodup_write {k : κ} {v : α} {l : List (κ × α)} (h : (l.map Prod.fst).Nodup) :
    ((write k v l).map Prod.fst).Nodup := by
  by_cases hk : k ∈ l.map Prod.fst
  · rw [keys_write_of_mem hk]
    exact h
  · rw [write_of_not_mem hk, List.map_append, List.map_singleton]
    refine List.nodup_append.mpr ⟨h, List.nodup_singleton k, ?_⟩
    rintro a ha b hb rfl
    obtain rfl := List.mem_singleton.mp hb
    exact hk ha

/-- `d[k] = v`. -/
def set (d : Dict κ α) (k : κ) (v : α) : Dict κ α := ⟨write k v d.entries, nodup_write d.nodup⟩

theorem lookup_write (k : κ) (v : α) (q : κ) :
    ∀ l : List (κ × α), lookup q (write k v l) = if k = q then some v else lookup q l
  | [] => rfl
  | (k', v') :: rest => by
    unfold write
    split
    · rename_i hk
      subst hk
      simp only [lookup]
      split <;> rfl
    · rename_i hk
      simp only [lookup, lookup_write k v q rest]
      split
      · rename_i hq
        rw [if_neg (fun h => hk (hq.trans h.symm))]
      · rfl

/-- **Reading after a write.** -/
theorem get?_set (d : Dict κ α) (k : κ) (v : α) (q : κ) :
    (d.set k v).get? q = if k = q then some v else d.get? q := lookup_write k v q d.entries

theorem lookup_isSome {k : κ} : ∀ {l : List (κ × α)}, (lookup k l).isSome ↔ k ∈ l.map Prod.fst
  | [] => by simp [lookup]
  | (k', v') :: rest => by
    simp only [lookup, List.map_cons, List.mem_cons]
    split
    · rename_i hk
      simp [hk]
    · rename_i hk
      rw [lookup_isSome]
      constructor
      · exact Or.inr
      · rintro (h | h)
        · exact absurd h.symm hk
        · exact h

/-- A key is readable iff it was written. -/
theorem get?_isSome {d : Dict κ α} {k : κ} : (d.get? k).isSome ↔ k ∈ d.keys := lookup_isSome

theorem lookup_of_mem {k : κ} {v : α} :
    ∀ {l : List (κ × α)}, (l.map Prod.fst).Nodup → (k, v) ∈ l → lookup k l = some v
  | [], _, h => absurd h List.not_mem_nil
  | (k', v') :: rest, hd, h => by
    obtain ⟨hnot, hrest⟩ := List.nodup_cons.mp hd
    simp only [lookup]
    rcases List.mem_cons.mp h with h | h
    · simp only [Prod.mk.injEq] at h
      rw [if_pos h.1.symm, h.2]
    · have hk : k' ≠ k := by
        rintro rfl
        exact hnot (List.mem_map.mpr ⟨_, h, rfl⟩)
      rw [if_neg hk, lookup_of_mem hrest h]

theorem mem_of_lookup {k : κ} {v : α} :
    ∀ {l : List (κ × α)}, lookup k l = some v → (k, v) ∈ l
  | [], h => absurd h (by simp [lookup])
  | (k', v') :: rest, h => by
    simp only [lookup] at h
    split at h
    · rename_i hk
      obtain rfl := Option.some.inj h
      exact hk ▸ List.mem_cons_self
    · exact List.mem_cons_of_mem _ (mem_of_lookup h)

/-- An entry is what its key reads. -/
theorem get?_of_mem {d : Dict κ α} {k : κ} {v : α} (h : (k, v) ∈ d.entries) : d.get? k = some v :=
  lookup_of_mem d.nodup h

theorem mem_entries_of_get? {d : Dict κ α} {k : κ} {v : α} (h : d.get? k = some v) :
    (k, v) ∈ d.entries := mem_of_lookup h

/-- `d == e`: the same value under each key, in whatever order. -/
def Same (d e : Dict κ α) : Prop := ∀ k, d.get? k = e.get? k

/-- **The order of the entries does not matter.** -/
theorem same_of_perm {d e : Dict κ α} (h : d.entries.Perm e.entries) : d.Same e := by
  intro k
  rcases hd : d.get? k with - | v
  · rcases he : e.get? k with - | v
    · rfl
    · rw [get?_of_mem (h.mem_iff.mpr (mem_entries_of_get? he))] at hd
      exact absurd hd nofun
  · rw [get?_of_mem (h.mem_iff.mp (mem_entries_of_get? hd))]

theorem lookup_map_snd {f : α → β} {k : κ} :
    ∀ l : List (κ × α), lookup k (l.map fun e => (e.1, f e.2)) = (lookup k l).map f
  | [] => rfl
  | (k', v) :: l => by
    simp only [List.map_cons, lookup, lookup_map_snd l]
    split <;> rfl

/-- `{k: f(v) for k, v in d.items()}`. -/
def mapValues (f : α → β) (d : Dict κ α) : Dict κ β where
  entries := d.entries.map fun e => (e.1, f e.2)
  nodup := by
    rw [List.map_map]
    exact d.nodup

theorem get?_mapValues (f : α → β) (d : Dict κ α) (k : κ) :
    (d.mapValues f).get? k = (d.get? k).map f := lookup_map_snd d.entries

/-- An injective map of the values tells dictionaries apart. -/
theorem same_mapValues {f : α → β} (hf : ∀ v w, f v = f w → v = w) {d e : Dict κ α} :
    (d.mapValues f).Same (e.mapValues f) ↔ d.Same e := by
  constructor
  · intro h k
    have hk := h k
    rw [get?_mapValues, get?_mapValues] at hk
    exact Option.map_injective hf hk
  · intro h k
    rw [get?_mapValues, get?_mapValues, h k]

/-- The loop `for x in xs: d[key x] = value x`, over the pairs `(x, value x)`. -/
def fill (key : ι → κ) (d : Dict κ α) (ps : List (ι × α)) : Dict κ α :=
  ps.foldl (fun d p => d.set (key p.1) p.2) d

theorem fill_append_entries (key : ι → κ) :
    ∀ (ps : List (ι × α)) (d : Dict κ α),
      (d.keys ++ ps.map fun p => key p.1).Nodup →
        (fill key d ps).entries = d.entries ++ ps.map fun p => (key p.1, p.2)
  | [], d, _ => by simp [fill]
  | p :: ps, d, h => by
    have hp : key p.1 ∉ d.entries.map Prod.fst := fun hm =>
      (List.nodup_append.mp h).2.2 _ hm _ (by simp) rfl
    have hset : (d.set (key p.1) p.2).entries = d.entries ++ [(key p.1, p.2)] :=
      write_of_not_mem hp
    have hkeys : ((d.set (key p.1) p.2).keys ++ ps.map fun p => key p.1).Nodup := by
      unfold keys
      rw [hset]
      simpa [keys] using h
    show (fill key (d.set (key p.1) p.2) ps).entries = _
    rw [fill_append_entries key ps _ hkeys, hset]
    simp

/-- **Filling under distinct keys loses nothing**: the entries are the pairs, in their order. -/
theorem fill_entries {key : ι → κ} {ps : List (ι × α)} (h : (ps.map fun p => key p.1).Nodup) :
    (fill key empty ps).entries = ps.map fun p => (key p.1, p.2) := by
  rw [fill_append_entries key ps empty (by simpa [keys, empty] using h)]
  rfl

/-- A dictionary is what filling it with pairs under distinct keys gives iff they are its
entries. -/
theorem fill_eq_iff {ps : List (κ × α)} (hps : (ps.map Prod.fst).Nodup)
    {d : Dict κ α} : fill id empty ps = d ↔ ps = d.entries := by
  have hentries : (fill id empty ps).entries = ps.map fun p => (id p.1, p.2) :=
    fill_entries hps
  simp only [id_eq, List.map_id'] at hentries
  constructor
  · rintro rfl
    exact hentries.symm
  · intro h
    rcases hfill : fill id empty ps with ⟨es, hes⟩
    rcases d with ⟨fs, hfs⟩
    rw [hfill] at hentries
    obtain rfl : es = ps := hentries
    obtain rfl : es = fs := h
    rfl

theorem mem_of_fill_from {key : ι → κ} {q : κ} {v : α} {ps : List (ι × α)} {d : Dict κ α}
    (h : (fill key d ps).get? q = some v) :
    d.get? q = some v ∨ ∃ i, (i, v) ∈ ps ∧ key i = q := by
  induction ps generalizing d with
  | nil => exact .inl h
  | cons p ps ih =>
    rcases ih h with h | ⟨i, hi, hq⟩
    · rw [get?_set] at h
      split at h
      · rename_i hq
        obtain rfl := Option.some.inj h
        exact .inr ⟨p.1, List.mem_cons_self, hq⟩
      · exact .inl h
    · exact .inr ⟨i, List.mem_cons_of_mem _ hi, hq⟩

/-- **Filling makes nothing up**: what a key reads is the value of a pair with that key. -/
theorem mem_of_fill {key : ι → κ} {ps : List (ι × α)} {q : κ} {v : α}
    (h : (fill key empty ps).get? q = some v) : ∃ i, (i, v) ∈ ps ∧ key i = q := by
  rcases mem_of_fill_from h with h | h
  · exact absurd h nofun
  · exact h

/-- **Under distinct keys, each key reads the value computed for it.** -/
theorem get?_fill_of_mem {key : ι → κ} {ps : List (ι × α)}
    (h : (ps.map fun p => key p.1).Nodup) {p : ι × α} (hp : p ∈ ps) :
    (fill key empty ps).get? (key p.1) = some p.2 := by
  apply get?_of_mem
  rw [fill_entries h]
  exact List.mem_map.mpr ⟨p, hp, rfl⟩

end Lookup

/-! ## Two dictionaries -/

section

/-- The same keys in the same order, with values under `V`. -/
def Alike (V : α → β → Prop) (d : Dict κ α) (e : Dict κ β) : Prop :=
  List.Forall₂ (fun x y => x.1 = y.1 ∧ V x.2 y.2) d.entries e.entries

variable {V : α → β → Prop}

theorem Alike.empty : Alike V (empty : Dict κ α) (empty : Dict κ β) := .nil

theorem Alike.eq {d e : Dict κ α} (h : Alike Eq d e) : d = e := by
  rcases d with ⟨xs, hxs⟩
  rcases e with ⟨ys, hys⟩
  have h : List.Forall₂ (fun x y : κ × α => x.1 = y.1 ∧ x.2 = y.2) xs ys := h
  simp only [← Prod.ext_iff, List.forall₂_eq_eq_eq] at h
  subst h
  rfl

variable [DecidableEq κ]

theorem write_alike {k : κ} {v : α} {w : β} (hv : V v w) :
    ∀ {xs : List (κ × α)} {ys : List (κ × β)},
      List.Forall₂ (fun x y => x.1 = y.1 ∧ V x.2 y.2) xs ys →
        List.Forall₂ (fun x y => x.1 = y.1 ∧ V x.2 y.2) (write k v xs) (write k w ys)
  | [], [], _ => .cons ⟨rfl, hv⟩ .nil
  | (q, x) :: xs, (_, y) :: ys, .cons ⟨rfl, hxy⟩ hrest => by
    unfold write
    by_cases hq : q = k
    · rw [if_pos hq, if_pos hq]
      exact .cons ⟨rfl, hv⟩ hrest
    · rw [if_neg hq, if_neg hq]
      exact .cons ⟨rfl, hxy⟩ (write_alike hv hrest)

/-- Writing values under `V` keeps two dictionaries alike. -/
theorem Alike.set {d : Dict κ α} {e : Dict κ β} (h : Alike V d e) (k : κ) {v : α} {w : β}
    (hv : V v w) : Alike V (d.set k v) (e.set k w) := write_alike hv h

theorem lookup_alike {k : κ} : ∀ {xs : List (κ × α)} {ys : List (κ × β)},
    List.Forall₂ (fun x y => x.1 = y.1 ∧ V x.2 y.2) xs ys →
      (lookup k xs = none ∧ lookup k ys = none) ∨
        ∃ v w, lookup k xs = some v ∧ lookup k ys = some w ∧ V v w
  | [], [], _ => .inl ⟨rfl, rfl⟩
  | (q, x) :: xs, (_, y) :: ys, .cons ⟨rfl, hxy⟩ hrest => by
    unfold lookup
    by_cases hq : q = k
    · rw [if_pos hq, if_pos hq]
      exact .inr ⟨x, y, rfl, rfl, hxy⟩
    · rw [if_neg hq, if_neg hq]
      exact lookup_alike hrest

/-- Two dictionaries that are alike read nothing under a key, or values under `V`. -/
theorem Alike.get? {d : Dict κ α} {e : Dict κ β} (h : Alike V d e) (k : κ) :
    (d.get? k = none ∧ e.get? k = none) ∨ ∃ v w, d.get? k = some v ∧ e.get? k = some w ∧ V v w :=
  lookup_alike h

end

end Dict

end Grabatus.Lib

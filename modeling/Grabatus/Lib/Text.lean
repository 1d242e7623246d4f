import Mathlib.Data.List.Infix
import Mathlib.Data.List.TakeWhile

/-!
# Cutting lists at separators

The string operations a hand-written parser is made of, over lists of any alphabet:

* `cut c` is `s.partition(c)` / `s.split(c, 1)` for a one-letter separator: what stands before
  the first `c`, and what stands after it, if there is one;
* `cutAt sep` is the same for a longer separator, `none` when it does not occur;
* `upTo p` and `onward p` split at the first letter of a class, the letter kept on the right.

Each has the lemma that rebuilds the input from its parts and the lemma that finds the cut in a
list built from parts, which is what a round trip needs.
-/

namespace Grabatus.Lib.Text

variable {α : Type}

/-! ## Bounded quantifiers

A quantifier over the members of a list is decided along the list, also where the alphabet is
finite and could be searched whole. -/

instance (priority := 2000) decidableForallMem (p : α → Prop) [DecidablePred p] (l : List α) :
    Decidable (∀ a, a ∈ l → p a) :=
  List.decidableBAll p l

instance (priority := 2000) decidableExistsMem (p : α → Prop) [DecidablePred p] (l : List α) :
    Decidable (∃ a, a ∈ l ∧ p a) :=
  List.decidableBEx p l

/-! ## One separator letter -/

section Cut

variable [DecidableEq α]

/-- What stands before the first `c`, and what stands after it. -/
def cut (c : α) : List α → List α × Option (List α)
  | [] => ([], none)
  | a :: l => if a = c then ([], some l) else (a :: (cut c l).1, (cut c l).2)

theorem cut_of_not_mem {c : α} : ∀ {l : List α}, c ∉ l → cut c l = (l, none)
  | [], _ => rfl
  | a :: l, h => by
    simp only [List.mem_cons, not_or] at h
    simp only [cut]
    rw [if_neg (Ne.symm h.1), cut_of_not_mem h.2]

theorem cut_append {c : α} {rest : List α} :
    ∀ {pre : List α}, c ∉ pre → cut c (pre ++ c :: rest) = (pre, some rest)
  | [], _ => by simp [cut]
  | a :: pre, h => by
    simp only [List.mem_cons, not_or] at h
    simp only [List.cons_append, cut]
    rw [if_neg (Ne.symm h.1), cut_append h.2]

theorem not_mem_cut_fst (c : α) : ∀ l : List α, c ∉ (cut c l).1
  | [] => by simp [cut]
  | a :: l => by
    simp only [cut]
    split
    · simp
    · rename_i ha
      simp only [List.mem_cons, not_or]
      exact ⟨Ne.symm ha, not_mem_cut_fst c l⟩

theorem mem_of_mem_cut_fst {c x : α} : ∀ {l : List α}, x ∈ (cut c l).1 → x ∈ l
  | [], h => absurd h (by simp [cut])
  | a :: l, h => by
    simp only [cut] at h
    split at h
    · exact absurd h List.not_mem_nil
    · rcases List.mem_cons.mp h with rfl | h
      · exact List.mem_cons_self
      · exact List.mem_cons_of_mem _ (mem_of_mem_cut_fst h)

/-- A cut that found the separator rebuilds the input. -/
theorem eq_of_cut_some {c : α} : ∀ {l pre rest : List α}, cut c l = (pre, some rest) →
    l = pre ++ c :: rest ∧ c ∉ pre
  | [], _, _, h => absurd h (by simp [cut])
  | a :: l, pre, rest, h => by
    simp only [cut] at h
    split at h
    · rename_i ha
      simp only [Prod.mk.injEq, Option.some.injEq] at h
      obtain ⟨rfl, rfl⟩ := h
      simp [ha]
    · rename_i ha
      simp only [Prod.mk.injEq] at h
      obtain ⟨rfl, h2⟩ := h
      obtain ⟨hl, hc⟩ := eq_of_cut_some (Prod.ext rfl h2 : cut c l = ((cut c l).1, some rest))
      refine ⟨congrArg (a :: ·) hl, ?_⟩
      simp only [List.mem_cons, not_or]
      exact ⟨Ne.symm ha, hc⟩

theorem cut_snd_eq_none {c : α} : ∀ {l : List α}, (cut c l).2 = none ↔ c ∉ l
  | [] => by simp [cut]
  | a :: l => by
    simp only [cut, List.mem_cons, not_or]
    split
    · rename_i ha
      simp [ha]
    · rename_i ha
      rw [cut_snd_eq_none]
      exact ⟨fun h => ⟨Ne.symm ha, h⟩, And.right⟩

end Cut

/-! ## A longer separator -/

section CutAt

variable [DecidableEq α]

/-- The parts around the first occurrence of `sep`. -/
def cutAt (sep : List α) : List α → Option (List α × List α)
  | [] => if sep = [] then some ([], []) else none
  | a :: l =>
    if sep.isPrefixOf (a :: l) then some ([], (a :: l).drop sep.length)
    else (cutAt sep l).map fun p => (a :: p.1, p.2)

/-- The parts rebuild the input. -/
theorem eq_of_cutAt {sep : List α} : ∀ {l pre rest : List α}, cutAt sep l = some (pre, rest) →
    l = pre ++ sep ++ rest
  | [], pre, rest, h => by
    unfold cutAt at h
    split at h
    · rename_i hs
      simp only [Option.some.injEq, Prod.mk.injEq] at h
      obtain ⟨rfl, rfl⟩ := h
      simp [hs]
    · exact absurd h (by simp)
  | a :: l, pre, rest, h => by
    unfold cutAt at h
    split at h
    · rename_i hs
      simp only [Option.some.injEq, Prod.mk.injEq] at h
      obtain ⟨rfl, rfl⟩ := h
      obtain ⟨r, hr⟩ := List.isPrefixOf_iff_prefix.mp hs
      rw [List.nil_append, ← hr, List.drop_left]
    · simp only [Option.map_eq_some_iff, Prod.mk.injEq, Prod.exists] at h
      obtain ⟨p, r, hp, rfl, rfl⟩ := h
      rw [List.cons_append, List.cons_append, ← eq_of_cutAt hp]

/-- A separator whose first letter is not in `pre` is found right after it. -/
theorem cutAt_append {c : α} (sep rest : List α) : ∀ {pre : List α}, c ∉ pre →
    cutAt (c :: sep) (pre ++ (c :: sep) ++ rest) = some (pre, rest)
  | [], _ => by
    have hp : (c :: sep).isPrefixOf (c :: (sep ++ rest)) = true :=
      List.isPrefixOf_iff_prefix.mpr ⟨rest, rfl⟩
    show cutAt (c :: sep) (c :: (sep ++ rest)) = _
    unfold cutAt
    rw [if_pos hp]
    simp
  | a :: pre, h => by
    simp only [List.mem_cons, not_or] at h
    have hp : ¬ (c :: sep).isPrefixOf (a :: (pre ++ (c :: sep) ++ rest)) = true := by
      rw [List.isPrefixOf_iff_prefix]
      rintro ⟨r, hr⟩
      exact h.1 (List.cons.inj hr).1
    show cutAt (c :: sep) (a :: (pre ++ (c :: sep) ++ rest)) = _
    unfold cutAt
    rw [if_neg hp, cutAt_append sep rest h.2]
    rfl

end CutAt

/-! ## A class of separators -/

/-- What stands before the first letter of class `p`. -/
def upTo (p : α → Bool) (l : List α) : List α := l.takeWhile fun a => !p a

/-- The first letter of class `p` and what follows it. -/
def onward (p : α → Bool) (l : List α) : List α := l.dropWhile fun a => !p a

theorem not_of_mem_upTo {p : α → Bool} {l : List α} {a : α} (h : a ∈ upTo p l) : p a = false := by
  simpa using List.mem_takeWhile_imp h

theorem upTo_append_of_not {p : α → Bool} {l r : List α} (h : ∀ a ∈ l, p a = false) :
    upTo p (l ++ r) = l ++ upTo p r :=
  List.takeWhile_append_of_pos fun a ha => by rw [h a ha]; rfl

theorem onward_append_of_not {p : α → Bool} {l r : List α} (h : ∀ a ∈ l, p a = false) :
    onward p (l ++ r) = onward p r :=
  List.dropWhile_append_of_pos fun a ha => by rw [h a ha]; rfl

/-- The text before a separator ends where the separator stands. -/
theorem upTo_cons_of_sep {p : α → Bool} {a : α} {l : List α} (h : p a = true) :
    upTo p (a :: l) = [] := by simp [upTo, h]

theorem onward_cons_of_sep {p : α → Bool} {a : α} {l : List α} (h : p a = true) :
    onward p (a :: l) = a :: l := by simp [onward, h]

/-- A cut at `c` is a cut at the class of `c` alone. -/
theorem cut_fst [DecidableEq α] (c : α) : ∀ l : List α, (cut c l).1 = upTo (· == c) l
  | [] => rfl
  | a :: l => by
    simp only [cut]
    by_cases h : a = c
    · rw [if_pos h, upTo_cons_of_sep (by simpa using h)]
    · rw [if_neg h, cut_fst c l]
      simp [upTo, h]

/-- Two cuts, the one at `q` first, are one cut at either class. -/
theorem upTo_upTo (p q : α → Bool) (l : List α) :
    upTo p (upTo q l) = upTo (fun a => p a || q a) l := by
  unfold upTo
  rw [List.takeWhile_takeWhile]
  refine congrArg (List.takeWhile · l) (funext fun a => ?_)
  simp

/-- A text with a separator goes on with one of its own. -/
theorem onward_append_of_mem {p : α → Bool} {l r : List α} {c : α} (hc : c ∈ l) (hp : p c = true) :
    ∃ d t, d ∈ l ∧ p d = true ∧ onward p (l ++ r) = d :: t := by
  rcases hl : onward p l with - | ⟨d, t⟩
  · have h := List.dropWhile_eq_nil_iff.mp hl c hc
    rw [hp] at h
    exact absurd h (by decide)
  · have hne : l.dropWhile (fun a => !p a) ≠ [] := by
      show onward p l ≠ []
      simp [hl]
    have hd : (!p d) = false := by
      have h := List.head_dropWhile_not (fun a => !p a) hne
      simp only [show l.dropWhile (fun a => !p a) = d :: t from hl, List.head_cons] at h
      exact h
    refine
      ⟨d, t ++ r, (List.dropWhile_suffix _).mem (hl ▸ List.mem_cons_self), by simpa using hd, ?_⟩
    unfold onward at hl ⊢
    rw [List.dropWhile_append, hl]
    rfl

end Grabatus.Lib.Text

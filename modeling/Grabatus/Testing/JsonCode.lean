import Grabatus.Testing.Leaves
import Mathlib.Data.Countable.Basic
import Mathlib.Data.Rat.Denumerable
import Mathlib.Logic.Equiv.List
import Mathlib.Algebra.Order.BigOperators.Group.List

/-!
# A `json` module without gaps

`Leaves.jsonText` reads the documents it is given and no other. `codedText docs` writes those the
way `json.dumps` does and every further document as a row of `#`, one row per document
(`Json` is countable: `code_inj`), so it reads back every document there is
(`loads_dumps_codedText`).
-/

namespace Grabatus.Leaves

open Grabatus.Lib Grabatus.Python

/-! ## Documents are countable -/

/-- A piece of a document's code; a list and an object start with their length. -/
inductive Token where
  | null
  | bool (b : Bool)
  | int (n : Int)
  | float (x : Double)
  | str (s : String)
  | arr (length : Nat)
  | obj (length : Nat)

mutual

/-- The code of a document. -/
def code : Json → List Token
  | .null => [.null]
  | .bool b => [.bool b]
  | .int n => [.int n]
  | .float x => [.float x]
  | .str s => [.str s]
  | .arr items => .arr items.length :: codeItems items
  | .obj entries => .obj entries.length :: codeEntries entries

/-- The codes of the items, in order. -/
def codeItems : List Json → List Token
  | [] => []
  | j :: js => code j ++ codeItems js

/-- The codes of the entries, in order. -/
def codeEntries : List (String × Json) → List Token
  | [] => []
  | (k, j) :: es => .str k :: (code j ++ codeEntries es)

end

mutual

/-- **A code ends where it ends**, whatever follows it. -/
theorem code_inj : ∀ (j j' : Json) (t t' : List Token),
    code j ++ t = code j' ++ t' → j = j' ∧ t = t'
  | .arr items, .arr items', t, t', h => by
    simp only [code, List.cons_append, List.cons.injEq, Token.arr.injEq] at h
    obtain ⟨rfl, ht⟩ := codeItems_inj items items' t t' h.1 h.2
    exact ⟨rfl, ht⟩
  | .obj entries, .obj entries', t, t', h => by
    simp only [code, List.cons_append, List.cons.injEq, Token.obj.injEq] at h
    obtain ⟨rfl, ht⟩ := codeEntries_inj entries entries' t t' h.1 h.2
    exact ⟨rfl, ht⟩
  | .null, j', t, t', h => by cases j' <;> simp_all [code]
  | .bool b, j', t, t', h => by cases j' <;> simp_all [code]
  | .int n, j', t, t', h => by cases j' <;> simp_all [code]
  | .float x, j', t, t', h => by cases j' <;> simp_all [code]
  | .str s, j', t, t', h => by cases j' <;> simp_all [code]
  | .arr items, .null, t, t', h | .arr items, .bool _, t, t', h | .arr items, .int _, t, t', h
  | .arr items, .float _, t, t', h | .arr items, .str _, t, t', h
  | .arr items, .obj _, t, t', h => by simp [code] at h
  | .obj entries, .null, t, t', h | .obj entries, .bool _, t, t', h
  | .obj entries, .int _, t, t', h | .obj entries, .float _, t, t', h
  | .obj entries, .str _, t, t', h | .obj entries, .arr _, t, t', h => by simp [code] at h

theorem codeItems_inj : ∀ (js js' : List Json) (t t' : List Token), js.length = js'.length →
    codeItems js ++ t = codeItems js' ++ t' → js = js' ∧ t = t'
  | [], [], _, _, _, h => ⟨rfl, h⟩
  | j :: js, j' :: js', t, t', hlen, h => by
    simp only [codeItems, List.append_assoc] at h
    obtain ⟨rfl, hrest⟩ := code_inj j j' _ _ h
    obtain ⟨rfl, ht⟩ := codeItems_inj js js' t t' (Nat.succ.inj hlen) hrest
    exact ⟨rfl, ht⟩

theorem codeEntries_inj : ∀ (es es' : List (String × Json)) (t t' : List Token),
    es.length = es'.length → codeEntries es ++ t = codeEntries es' ++ t' → es = es' ∧ t = t'
  | [], [], _, _, _, h => ⟨rfl, h⟩
  | (k, j) :: es, (k', j') :: es', t, t', hlen, h => by
    simp only [codeEntries, List.cons_append, List.cons.injEq, Token.str.injEq,
      List.append_assoc] at h
    obtain ⟨rfl, hentry⟩ := h
    obtain ⟨rfl, hrest⟩ := code_inj j j' _ _ hentry
    obtain ⟨rfl, ht⟩ := codeEntries_inj es es' t t' (Nat.succ.inj hlen) hrest
    exact ⟨rfl, ht⟩

end

/-- A float as a rational, or one of the three others. -/
def floatKey : Double → Option (Option (Option ℚ))
  | .finite q => some (some (some q))
  | .posInf => some (some none)
  | .negInf => some none
  | .nan => none

/-- A token as a member of a sum. -/
def tokenKey : Token → Option Bool ⊕ Int ⊕ Double ⊕ List Char ⊕ Nat ⊕ Nat
  | .null => .inl none
  | .bool b => .inl (some b)
  | .int n => .inr (.inl n)
  | .float x => .inr (.inr (.inl x))
  | .str s => .inr (.inr (.inr (.inl s.toList)))
  | .arr n => .inr (.inr (.inr (.inr (.inl n))))
  | .obj n => .inr (.inr (.inr (.inr (.inr n))))

instance : Countable Double := by
  refine Function.Injective.countable (f := floatKey) fun x y h => ?_
  cases x <;> cases y <;> simp_all [floatKey]

instance countableChar : Countable Char :=
  Function.Injective.countable (f := Char.toNat) fun _ _ h => Char.toNat_inj.mp h

instance : Countable Token := by
  refine Function.Injective.countable (f := tokenKey) fun x y h => ?_
  cases x <;> cases y <;> simp_all [tokenKey, String.toList_inj]

instance : Countable Json := Function.Injective.countable (f := code) fun j j' h =>
  (code_inj j j' [] [] (by rw [h])).1

/-! ## The module -/

section

variable (docs : List Json)

/-- More characters than any document of `docs` has. -/
def bound : Nat := (docs.map fun j => (render j).length).sum + 1

theorem length_lt_bound {j : Json} (hj : j ∈ docs) : (render j).length < bound docs :=
  Nat.lt_succ_of_le (List.single_le_sum (fun _ _ => Nat.zero_le _) _ (List.mem_map_of_mem hj))

/-- The number of a document. -/
noncomputable def number : Json → Nat := (exists_injective_nat Json).choose

theorem number_inj : Function.Injective number := (exists_injective_nat Json).choose_spec

open Classical in
/-- The text of a document. -/
noncomputable def text (j : Json) : String :=
  String.ofList (if j ∈ docs then render j else List.replicate (bound docs + number j) '#')

/-- Documents of `docs` with one text are one document. -/
def Distinct : Prop := ∀ j ∈ docs, ∀ j' ∈ docs, render j = render j' → j = j'

theorem text_inj (hdocs : Distinct docs) : Function.Injective (text docs) := by
  intro j j' h
  have hlist := String.ofList_injective h
  by_cases hj : j ∈ docs <;> by_cases hj' : j' ∈ docs
  · rw [if_pos hj, if_pos hj'] at hlist
    exact hdocs j hj j' hj' hlist
  · rw [if_pos hj, if_neg hj'] at hlist
    have hlen := length_lt_bound docs hj
    rw [hlist, List.length_replicate] at hlen
    omega
  · rw [if_neg hj, if_pos hj'] at hlist
    have hlen := length_lt_bound docs hj'
    rw [← hlist, List.length_replicate] at hlen
    omega
  · rw [if_neg hj, if_neg hj'] at hlist
    have hlen := congrArg List.length hlist
    rw [List.length_replicate, List.length_replicate] at hlen
    exact number_inj (Nat.add_left_cancel hlen)

open Classical in
/-- The `json` module that writes `docs` as `json.dumps` does, and reads back every document. -/
@[reducible] noncomputable def codedText : JsonText where
  dumps j := .ok (text docs j)
  loads s :=
    if h : ∃ j, text docs j = s then .ok h.choose
    else .error (.raised .jsonDecodeError ("Expecting value: " ++ s))

theorem loads_dumps_codedText (hdocs : Distinct docs) (j : Json) :
    (codedText docs).dumps j = .ok (text docs j) ∧
      (codedText docs).loads (text docs j) = .ok j := by
  have h : ∃ j', text docs j' = text docs j := ⟨j, rfl⟩
  exact ⟨rfl, (dif_pos h).trans (congrArg Except.ok (text_inj docs hdocs h.choose_spec))⟩

end

end Grabatus.Leaves

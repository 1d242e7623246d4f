import Grabatus.Contract.Readout.Rules

/-!
# The guardrails over Python values

Over `contract/readout/guide.py` and `contract/readout/root.py`. A readout is also built from
values that are not JSON: keyword arguments, nested mappings, and instances of the models
themselves, which `model_copy(update=...)` changes without a validation. Pydantic takes an
instance of the expected class as it is, unless the class asks for it to be validated again
(`revalidate_instances="always"`). `ExplanationGuide` asks, `ModelReadout` does not, so a guide is
judged wherever it is nested and a readout never is.

**Which calls keep the base guardrails** (`base_guardrails_iff`): the constructor and
`model_validate_json` always do; `model_validate` does on every value that is no readout, and on a
readout iff its guide already starts with them. A readout over a tampered guide is returned as it
is (`tampered_readout_passes`).

What an arbitrary object does under `repr`, `hash`, `sorted` and iteration, and under `==` where the
uniqueness rules and the narrative compare values, is a parameter (`Interpreter`), and so are the
validators of the fields that hold no guardrail: the theorems hold for all of them.

Out of scope: subclasses of `str`, `list` and `tuple` with an `==` or a slicing of their own. The
guardrails are compared by the contents of their strings.
-/

namespace Grabatus

open Grabatus.Lib Grabatus.Python

/-! ## Values -/

/-- The sequences of `isinstance(rules, (list, tuple))`. -/
inductive SeqKind where
  | list
  | tuple
  deriving DecidableEq

/-- A Python value. A key that is no string is `none`; an instance has the class that `isinstance`
finds and its `__dict__`; anything else is an object of the interpreter. -/
inductive PyValue where
  | none
  | bool (b : Bool)
  | int (n : Int)
  | float (x : Double)
  | str (s : String)
  | bytes (b : Bytes)
  | datetime (t : Datetime)
  | seq (kind : SeqKind) (items : List PyValue)
  | mapping (entries : List (Option String × PyValue))
  | instance (cls : String) (attrs : List (String × PyValue))
  | object (id : Nat)

/-- What a call raises. -/
inductive Raised where
  | validationError (errors : List LineError)
  | attributeError (name : String)
  | typeError (message : String)

/-- What the language does with an object of any class. An iteration has a number, since a
generator yields nothing the second time; `lax` are the items of what Pydantic also takes for a
tuple. -/
class Interpreter where
  repr : PyValue → String
  eq : PyValue → PyValue → Bool
  hash : PyValue → Except Raised Unit
  sorted : List PyValue → Except Raised (List PyValue)
  iter : Nat → PyValue → Except Raised (List PyValue)
  lax : PyValue → Option (List PyValue)

namespace PyValue

/-- The string a value is. -/
def str? : PyValue → Option String
  | .str s => some s
  | _ => Option.none

/-- `getattr(v, name)`. -/
def getattr (name : String) : PyValue → Except Raised PyValue
  | .instance _ attrs =>
    match Dict.lookup name attrs with
    | some v => .ok v
    | Option.none => .error (.attributeError name)
  | .datetime t =>
    if name = "tzinfo" then .ok (if t.utcoffset.isSome then .object 0 else .none)
    else .error (.attributeError name)
  | _ => .error (.attributeError name)

@[simp] theorem getattr_instance {name cls : String} {attrs : List (String × PyValue)}
    {v : PyValue} : (PyValue.instance cls attrs).getattr name = .ok v ↔
      Dict.lookup name attrs = some v := by
  unfold getattr
  rcases hlookup : Dict.lookup name attrs with - | w
  · simp only [hlookup, reduceCtorEq]
  · simp only [hlookup, Except.ok.injEq, Option.some.injEq]

/-- `isinstance(v, cls)`. -/
def isInstance (cls : String) : PyValue → Bool
  | .instance c _ => c = cls
  | _ => false

/-- `v.model_copy(update={name: value})`. -/
def modelCopy (v : PyValue) (name : String) (value : PyValue) : PyValue :=
  match v with
  | .instance cls attrs => .instance cls (Dict.write name value attrs)
  | v => v

/-- The items of the `n`-th iteration of a value. -/
def iter [Interpreter] (n : Nat) : PyValue → Except Raised (List PyValue)
  | .seq _ items => .ok items
  | v => Interpreter.iter n v

/-- The items of a value Pydantic takes for a tuple. -/
def items? [Interpreter] : PyValue → Option (List PyValue)
  | .seq _ items => some items
  | v => Interpreter.lax v

end PyValue

/-! ## Models over values -/

/-- One field of a model: its default, when it has one, and its validator. -/
structure ModelField where
  name : String
  default : Option PyValue := none
  validate : PyValue → Validated PyValue

/-- The attribute a field gives an instance. -/
def ModelField.read (f : ModelField) (entries : List (Option String × PyValue)) :
    Validated (String × PyValue) :=
  match Dict.lookup (some f.name) entries with
  | some v => (f.name, ·) <$> Validated.under (.key f.name) (f.validate v)
  | none =>
    match f.default with
    | some v => .ok (f.name, v)
    | none => Validated.under (.key f.name) (.fail .missing)

/-- The attributes of an instance, field by field. -/
def readFields : List ModelField → List (Option String × PyValue) →
    Validated (List (String × PyValue))
  | [], _ => .ok []
  | f :: fs, entries => List.cons <$> f.read entries <*> readFields fs entries

/-- `extra="forbid"`. -/
def forbidExtra [Interpreter] (fs : List ModelField) (entries : List (Option String × PyValue)) :
    List LineError :=
  (entries.filter fun e => decide (e.1 ∉ fs.map fun f => some f.name)).map fun e =>
    ⟨[.key (e.1.getD "")], .extraForbidden⟩

/-- Validate a mapping into an instance of `cls`. -/
def construct [Interpreter] (cls : String) (fs : List ModelField)
    (entries : List (Option String × PyValue)) : Validated PyValue :=
  match readFields fs entries, forbidExtra fs entries with
  | .ok attrs, [] => .ok (.instance cls attrs)
  | .ok _, e :: es => .errors (e :: es)
  | .errors es, es' => .errors (es ++ es')

/-- The validator of a model class. An instance of it is validated again, from its `__dict__`, if
the class asks for that; else it is returned as it is. -/
def modelOf [Interpreter] (cls : String) (revalidate : Bool) (fs : List ModelField) :
    PyValue → Validated PyValue
  | .mapping entries => construct cls fs entries
  | .instance c attrs =>
    if c = cls then
      if revalidate then construct cls fs (attrs.map fun a => (some a.1, a.2))
      else .ok (.instance c attrs)
    else .fail .modelType
  | _ => .fail .modelType

/-- A string field: bytes are decoded. -/
def pyStr (c : StrSpec) : PyValue → Validated PyValue
  | .str s => (PyValue.str ∘ Str.val) <$> str c (.str s)
  | .bytes b =>
    match decodeUtf8 b with
    | some s => (PyValue.str ∘ Str.val) <$> str c (.str s)
    | none => .fail (.leaf "string_unicode")
  | _ => .fail .stringType

/-- Every item of a tuple under its index. -/
def pyItems (v : PyValue → Validated PyValue) : Nat → List PyValue → Validated (List PyValue)
  | _, [] => .ok []
  | i, x :: xs => List.cons <$> Validated.under (.index i) (v x) <*> pyItems v (i + 1) xs

/-- `tuple[T, ...] = Field(min_length=lo, max_length=hi)`. -/
def pyTuple [Interpreter] (lo hi : Nat) (v : PyValue → Validated PyValue) (value : PyValue) :
    Validated PyValue :=
  match value.items? with
  | some xs => (pyItems v 0 xs).andThen fun ys =>
      if ys.length < lo then .fail (.tooShort lo)
      else if hi < ys.length then .fail (.tooLong hi) else .ok (.seq .tuple ys)
  | none => .fail .listType

/-! ## The models -/

section

variable [Interpreter]

/-- `_starts_with_the_base`, then the field's own validator. Strings are equal when their contents
are. -/
def pyGuardrails (rules : PyValue) : Validated PyValue :=
  match rules with
  | .seq _ xs =>
    if (xs.take 4).map PyValue.str? = baseGuardrails.map some then
      pyTuple 4 20 (pyStr { maxLength := some 500 }) rules
    else .fail (.value ("guardrails must start with the SDK base guardrails, got " ++
      Interpreter.repr (.seq .tuple (xs.take 4))))
  | _ => .fail (.value ("guardrails must be a sequence of strings, got " ++
      Interpreter.repr rules))

/-- The fields of `ExplanationGuide`. -/
def ExplanationGuide.modelFields : List ModelField :=
  [{ name := "audience", validate := pyStr { minLength := 1, maxLength := some 200 } },
    { name := "summary_for_llm", validate := pyStr { minLength := 1, maxLength := some 2000 } },
    { name := "what_was_solved", validate := pyStr { minLength := 1, maxLength := some 1000 } },
    { name := "recommended_narrative_order", default := some (.seq .tuple []),
      validate := pyTuple 0 20 (pyStr { maxLength := some 64 }) },
    { name := "must_not_claim", validate := pyTuple 1 20 (pyStr { maxLength := some 500 }) },
    { name := "guardrails", validate := pyGuardrails }]

/-- `ExplanationGuide`, `revalidate_instances="always"`. -/
def ExplanationGuide.modelValidate : PyValue → Validated PyValue :=
  modelOf "ExplanationGuide" true modelFields

/-- The loop of `duplicated` over values of any type. -/
def pyRepeated (seen repeats : List PyValue) : List PyValue → Except Raised (List PyValue)
  | [] => .ok repeats
  | v :: vs => do
    Interpreter.hash v
    pyRepeated (v :: seen) (if seen.any (Interpreter.eq v) then
      if repeats.any (Interpreter.eq v) then repeats else v :: repeats else repeats) vs

/-- The `ValueError` of a model validator. -/
def invalid {α : Type} (message : String) : Except Raised α :=
  .error (.validationError [⟨[], .value message⟩])

/-- Raise on the values `duplicated` finds. -/
def uniqueOrRaise (what : String) (values : List PyValue) : Except Raised Unit := do
  match ← pyRepeated [] [] values with
  | [] => return
  | v :: vs =>
    let repeated ← Interpreter.sorted (v :: vs)
    invalid (what ++ " must be unique, got duplicates=" ++
      Interpreter.repr (.seq .list repeated))

/-- `_generated_at_is_aware`. -/
def generatedAtIsAware (self : PyValue) : Except Raised Unit := do
  let generatedAt ← self.getattr "generated_at"
  match ← generatedAt.getattr "tzinfo" with
  | .none => invalid ("generated_at must carry a timezone, got " ++
      Interpreter.repr generatedAt)
  | _ => return

/-- `_finding_ids_are_unique`. -/
def findingIdsAreUnique (self : PyValue) : Except Raised Unit := do
  let findings ← (← self.getattr "findings").iter 0
  uniqueOrRaise "finding ids" (← findings.mapM (PyValue.getattr "id"))

/-- `_artifact_roles_are_unique`. -/
def artifactRolesAreUnique (self : PyValue) : Except Raised Unit := do
  let artifacts ← (← self.getattr "artifacts").iter 0
  uniqueOrRaise "artifact roles" (← artifacts.mapM (PyValue.getattr "role"))

/-- `_narrative_order_names_real_findings`. -/
def narrativeOrderNamesRealFindings (self : PyValue) : Except Raised Unit := do
  let findings ← (← self.getattr "findings").iter 1
  let known ← findings.mapM (PyValue.getattr "id")
  known.forM Interpreter.hash
  let guide ← self.getattr "explanation_guide"
  let order ← (← guide.getattr "recommended_narrative_order").iter 0
  order.forM Interpreter.hash
  match order.filter fun step => !known.any (Interpreter.eq step) with
  | [] => return
  | step :: steps =>
    let dangling ← Interpreter.sorted (step :: steps)
    invalid ("recommended_narrative_order names findings that do not exist: " ++
      Interpreter.repr (.seq .list dangling) ++ "; known finding ids=" ++
        Interpreter.repr (.seq .list (← Interpreter.sorted known)))

/-- The model validators of `ModelReadout`, in order. -/
def ModelReadout.after (self : PyValue) : Except Raised PyValue := do
  generatedAtIsAware self
  findingIdsAreUnique self
  artifactRolesAreUnique self
  narrativeOrderNamesRealFindings self
  return self

/-- The fields of `ModelReadout`; `others` validates those that hold no guardrail. -/
def ModelReadout.modelFields (others : String → PyValue → Validated PyValue) : List ModelField :=
  [{ name := "readout_version", default := some (.str "1.0"),
      validate := others "readout_version" },
    { name := "generated_at", validate := others "generated_at" },
    { name := "request", validate := others "request" },
    { name := "service", validate := others "service" },
    { name := "service_knowledge", validate := others "service_knowledge" },
    { name := "model", validate := others "model" },
    { name := "data", validate := others "data" },
    { name := "artifacts", validate := others "artifacts" },
    { name := "findings", default := some (.seq .tuple []), validate := others "findings" },
    { name := "diagnostics", default := some (.seq .tuple []), validate := others "diagnostics" },
    { name := "overall_quality", validate := others "overall_quality" },
    { name := "caveats", default := some (.seq .tuple []), validate := others "caveats" },
    { name := "explanation_guide", validate := ExplanationGuide.modelValidate },
    { name := "reproducibility", validate := others "reproducibility" }]

/-- What the pipeline of a call makes of a validation. -/
def raiseErrors : Validated PyValue → Except Raised PyValue
  | .ok v => .ok v
  | .errors es => .error (.validationError es)

/-- `ModelReadout(**kwargs)`. -/
def ModelReadout.init (others : String → PyValue → Validated PyValue)
    (kwargs : List (String × PyValue)) : Except Raised PyValue := do
  ModelReadout.after (← raiseErrors (construct "ModelReadout" (modelFields others)
    (kwargs.map fun a => (some a.1, a.2))))

/-- `ModelReadout.model_validate(v)`. The model validators also see an instance taken as it is. -/
def ModelReadout.modelValidate (others : String → PyValue → Validated PyValue) (v : PyValue) :
    Except Raised PyValue := do
  ModelReadout.after (← raiseErrors (modelOf "ModelReadout" false (modelFields others) v))

/-! ## Reading a validated value -/

/-- The guardrails of a guide start with the base ones. -/
def GuideKeepsBase (guide : PyValue) : Prop :=
  ∃ kind xs, guide.getattr "guardrails" = .ok (.seq kind xs) ∧
    (xs.take 4).map PyValue.str? = baseGuardrails.map some

/-- The first four entries of `r.explanation_guide.guardrails` are the base guardrails. -/
def KeepsBase (r : PyValue) : Prop :=
  ∃ guide, r.getattr "explanation_guide" = .ok guide ∧ GuideKeepsBase guide

omit [Interpreter] in
theorem pyItems_eq_ok {v : PyValue → Validated PyValue} : ∀ {xs : List PyValue} {i : Nat}
    {ys : List PyValue}, pyItems v i xs = .ok ys → List.Forall₂ (fun x y => v x = .ok y) xs ys
  | [], _, _, h => by
    obtain rfl := Validated.ok.inj h
    exact .nil
  | x :: xs, i, ys, h => by
    simp only [pyItems, Validated.seq_eq_ok, Validated.map_eq_ok, Validated.under_eq_ok] at h
    obtain ⟨_, ys, ⟨y, hy, rfl⟩, hys, rfl⟩ := h
    exact .cons hy (pyItems_eq_ok hys)

omit [Interpreter] in
/-- A string field gives back the string it was given. -/
theorem str?_of_pyStr {c : StrSpec} {x y : PyValue} (h : pyStr c x = .ok y) {s : String}
    (hs : x.str? = some s) : y.str? = some s := by
  cases x with
  | str t =>
    obtain rfl := Option.some.inj hs
    obtain ⟨t, ht, rfl⟩ := Validated.map_eq_ok.mp h
    obtain rfl := Json.str.inj (str_eq_ok.mp ht)
    rfl
  | _ => exact nomatch hs

omit [Interpreter] in
theorem map_str?_of_forall₂ : ∀ {xs ys : List PyValue} {ss : List String},
    List.Forall₂ (fun x y => ∀ s, x.str? = some s → y.str? = some s) xs ys →
      xs.map PyValue.str? = ss.map some → ys.map PyValue.str? = ss.map some
  | [], _, _, .nil, h => h
  | _ :: _, _, [], _, h => nomatch h
  | x :: xs, _, s :: ss, .cons (b := y) hxy hrest, h => by
    simp only [List.map_cons, List.cons.injEq] at h ⊢
    exact ⟨hxy s h.1, map_str?_of_forall₂ hrest h.2⟩

/-- What the guardrails field accepts starts with the base, and so does what it gives back. -/
theorem pyGuardrails_eq_ok {v w : PyValue} (h : pyGuardrails v = .ok w) :
    ∃ ys, w = .seq .tuple ys ∧ (ys.take 4).map PyValue.str? = baseGuardrails.map some := by
  unfold pyGuardrails at h
  split at h
  · rename_i kind xs
    split at h
    · rename_i hbase
      obtain ⟨ys, hys, h⟩ := Validated.andThen_eq_ok.mp h
      split at h
      · exact absurd h (Validated.fail_ne_ok _ _)
      · split at h
        · exact absurd h (Validated.fail_ne_ok _ _)
        · obtain rfl := Validated.ok.inj h
          refine ⟨ys, rfl, map_str?_of_forall₂ ?_ hbase⟩
          exact List.forall₂_take 4 ((pyItems_eq_ok hys).imp fun _ _ hxy _ => str?_of_pyStr hxy)
    · exact absurd h (Validated.fail_ne_ok _ _)
  · exact absurd h (Validated.fail_ne_ok _ _)

omit [Interpreter] in
/-- A field gives the attribute of its name. -/
theorem ModelField.name_of_read {f : ModelField} {entries : List (Option String × PyValue)}
    {a : String × PyValue} (h : f.read entries = .ok a) : a.1 = f.name := by
  unfold read at h
  split at h
  · obtain ⟨_, -, rfl⟩ := Validated.map_eq_ok.mp h
    rfl
  · split at h
    · obtain rfl := Validated.ok.inj h
      rfl
    · exact absurd (Validated.under_eq_ok.mp h) (Validated.fail_ne_ok _ _)

omit [Interpreter] in
/-- A field without a default was given, and its validator accepted what it was given. -/
theorem ModelField.validate_of_read {f : ModelField} {entries : List (Option String × PyValue)}
    {a : String × PyValue} (hdefault : f.default = none) (h : f.read entries = .ok a) :
    ∃ v, f.validate v = .ok a.2 := by
  unfold read at h
  split at h
  · rename_i v _
    obtain ⟨w, hw, rfl⟩ := Validated.map_eq_ok.mp h
    exact ⟨v, Validated.under_eq_ok.mp hw⟩
  · rw [hdefault] at h
    exact absurd (Validated.under_eq_ok.mp h) (Validated.fail_ne_ok _ _)

omit [Interpreter] in
/-- Every field of a model is an attribute of the instance, as its validator gave it back. -/
theorem lookup_of_readFields {entries : List (Option String × PyValue)} {f : ModelField} :
    ∀ {fs : List ModelField} {attrs : List (String × PyValue)},
      (fs.map ModelField.name).Nodup → readFields fs entries = .ok attrs → f ∈ fs →
        ∃ v, Dict.lookup f.name attrs = some v ∧ f.read entries = .ok (f.name, v)
  | g :: fs, attrs, hnodup, h, hf => by
    simp only [readFields, Validated.seq_eq_ok, Validated.map_eq_ok] at h
    obtain ⟨_, rest, ⟨⟨name, v⟩, hread, rfl⟩, hrest, rfl⟩ := h
    obtain rfl : name = g.name := ModelField.name_of_read hread
    obtain ⟨hfresh, hnodup⟩ := List.nodup_cons.mp hnodup
    rcases List.mem_cons.mp hf with rfl | hf
    · exact ⟨v, if_pos rfl, hread⟩
    · have hne : g.name ≠ f.name := fun heq => hfresh (heq ▸ List.mem_map_of_mem hf)
      obtain ⟨w, hw, hread⟩ := lookup_of_readFields hnodup hrest hf
      exact ⟨w, (if_neg hne).trans hw, hread⟩

theorem construct_eq_ok {cls : String} {fs : List ModelField}
    {entries : List (Option String × PyValue)} {r : PyValue}
    (h : construct cls fs entries = .ok r) :
    ∃ attrs, readFields fs entries = .ok attrs ∧ r = .instance cls attrs := by
  unfold construct at h
  split at h
  · rename_i attrs hread _
    exact ⟨attrs, hread, (Validated.ok.inj h).symm⟩
  · exact nomatch h
  · exact nomatch h

/-- A constructed instance holds what the validator of a required field gave back. -/
theorem getattr_of_construct {cls : String} {fs : List ModelField} {f : ModelField}
    {entries : List (Option String × PyValue)} {r : PyValue}
    (hnodup : (fs.map ModelField.name).Nodup) (hf : f ∈ fs) (hdefault : f.default = none)
    (h : construct cls fs entries = .ok r) :
    ∃ v w, r.getattr f.name = .ok w ∧ f.validate v = .ok w := by
  obtain ⟨attrs, hread, rfl⟩ := construct_eq_ok h
  obtain ⟨w, hlookup, hw⟩ := lookup_of_readFields hnodup hread hf
  obtain ⟨v, hv⟩ := ModelField.validate_of_read hdefault hw
  exact ⟨v, w, PyValue.getattr_instance.mpr hlookup, hv⟩

omit [Interpreter] in
theorem lookup_map_name {value : String → PyValue} {f : ModelField} : ∀ {fs : List ModelField},
    f ∈ fs → Dict.lookup (some f.name) (fs.map fun g => (some g.name, value g.name)) =
      some (value f.name)
  | g :: fs, hf => by
    simp only [List.map_cons, Dict.lookup, Option.some.injEq]
    by_cases hname : g.name = f.name
    · rw [if_pos hname, hname]
    · rw [if_neg hname]
      refine lookup_map_name ((List.mem_cons.mp hf).resolve_left ?_)
      rintro rfl
      exact hname rfl

/-- **An instance that is as its validators give it back is rebuilt as it is.** -/
theorem construct_of_valid {cls : String} {fs : List ModelField} (value : String → PyValue)
    (h : ∀ f ∈ fs, f.validate (value f.name) = .ok (value f.name)) :
    construct cls fs (fs.map fun f => (some f.name, value f.name)) =
      .ok (.instance cls (fs.map fun f => (f.name, value f.name))) := by
  have hread : ∀ {gs : List ModelField}, (∀ g ∈ gs, g ∈ fs) →
      readFields gs (fs.map fun f => (some f.name, value f.name)) =
        .ok (gs.map fun f => (f.name, value f.name)) := by
    intro gs hgs
    induction gs with
    | nil => rfl
    | cons g gs ih =>
      have hg := hgs g List.mem_cons_self
      have hfield : g.read (fs.map fun f => (some f.name, value f.name)) =
          .ok (g.name, value g.name) := by
        unfold ModelField.read
        simp only [lookup_map_name hg, h g hg, Validated.under_ok, Validated.map_ok]
      simp only [readFields, hfield, ih fun f hf => hgs f (List.mem_cons_of_mem g hf),
        Validated.map_ok, Validated.seq_ok, List.map_cons]
  have hextra : forbidExtra fs (fs.map fun f => (some f.name, value f.name)) = [] := by
    unfold forbidExtra
    rw [List.map_eq_nil_iff, List.filter_eq_nil_iff]
    intro e he
    obtain ⟨f, hf, rfl⟩ := List.mem_map.mp he
    simp only [decide_eq_true_eq, not_not]
    exact List.mem_map_of_mem (f := fun f : ModelField => some f.name) hf
  unfold construct
  rw [hread fun _ hg => hg, hextra]

/-- A class that asks for it validates an instance again, from its attributes. -/
theorem modelOf_revalidate {cls : String} {fs : List ModelField} (attrs : List (String × PyValue)) :
    modelOf cls true fs (.instance cls attrs) =
      construct cls fs (attrs.map fun a => (some a.1, a.2)) :=
  if_pos rfl

/-- A class that does not takes an instance as it is. -/
theorem modelOf_verbatim {cls : String} {fs : List ModelField} (attrs : List (String × PyValue)) :
    modelOf cls false fs (.instance cls attrs) = .ok (.instance cls attrs) :=
  if_pos rfl

/-! ## Every level of nesting -/

/-- **A guide is judged wherever it is nested**, also one that already is an instance. -/
theorem GuideKeepsBase.of_modelValidate {v guide : PyValue}
    (h : ExplanationGuide.modelValidate v = .ok guide) : GuideKeepsBase guide := by
  obtain ⟨entries, h⟩ :
      ∃ entries, construct "ExplanationGuide" ExplanationGuide.modelFields entries = .ok guide := by
    unfold ExplanationGuide.modelValidate modelOf at h
    split at h
    · exact ⟨_, h⟩
    · split at h
      · exact ⟨_, h⟩
      · exact absurd h (Validated.fail_ne_ok _ _)
    · exact absurd h (Validated.fail_ne_ok _ _)
  obtain ⟨rules, w, hattr, hw⟩ := getattr_of_construct
    (f := { name := "guardrails", validate := pyGuardrails })
    (by simp [ExplanationGuide.modelFields])
    (by simp [ExplanationGuide.modelFields]) rfl h
  obtain ⟨ys, rfl, hbase⟩ := pyGuardrails_eq_ok hw
  exact ⟨.tuple, ys, hattr, hbase⟩

/-- **A readout built from fields keeps the base guardrails.** -/
theorem KeepsBase.of_construct {others : String → PyValue → Validated PyValue}
    {entries : List (Option String × PyValue)} {r : PyValue}
    (h : construct "ModelReadout" (ModelReadout.modelFields others) entries = .ok r) :
    KeepsBase r := by
  obtain ⟨v, guide, hattr, hguide⟩ := getattr_of_construct
    (f := { name := "explanation_guide", validate := ExplanationGuide.modelValidate })
    (by simp [ModelReadout.modelFields]) (by simp [ModelReadout.modelFields]) rfl h
  exact ⟨guide, hattr, GuideKeepsBase.of_modelValidate hguide⟩

/-- The model validators give back what they were given. -/
theorem ModelReadout.after_eq_ok {self r : PyValue} (h : after self = .ok r) : r = self := by
  unfold after at h
  simp only [bind, Except.bind] at h
  split at h
  · exact nomatch h
  · split at h
    · exact nomatch h
    · split at h
      · exact nomatch h
      · split at h
        · exact nomatch h
        · exact (Except.ok.inj h).symm

omit [Interpreter] in
theorem raiseErrors_bind_eq_ok {x : Validated PyValue} {f : PyValue → Except Raised PyValue}
    {r : PyValue} (h : raiseErrors x >>= f = .ok r) : ∃ v, x = .ok v ∧ f v = .ok r := by
  cases x with
  | ok v => exact ⟨v, rfl, h⟩
  | errors es => exact nomatch h

/-- `ModelReadout(**kwargs)` builds from the fields it is given. -/
theorem ModelReadout.init_eq_ok {others : String → PyValue → Validated PyValue}
    {kwargs : List (String × PyValue)} {r : PyValue} (h : init others kwargs = .ok r) :
    construct "ModelReadout" (modelFields others) (kwargs.map fun a => (some a.1, a.2)) =
      .ok r := by
  obtain ⟨built, hbuilt, hafter⟩ := raiseErrors_bind_eq_ok h
  obtain rfl := after_eq_ok hafter
  exact hbuilt

/-- **What `model_validate` gives back**: a readout as it is, anything else built from fields. -/
theorem ModelReadout.modelValidate_eq_ok {others : String → PyValue → Validated PyValue}
    {v r : PyValue} (h : modelValidate others v = .ok r) :
    (v.isInstance "ModelReadout" = true ∧ r = v) ∨
      (v.isInstance "ModelReadout" = false ∧
        ∃ entries, construct "ModelReadout" (modelFields others) entries = .ok r) := by
  obtain ⟨built, hbuilt, hafter⟩ := raiseErrors_bind_eq_ok h
  obtain rfl := after_eq_ok hafter
  unfold modelOf at hbuilt
  split at hbuilt
  · exact .inr ⟨rfl, _, hbuilt⟩
  · split at hbuilt
    · rename_i hcls
      exact .inl ⟨decide_eq_true hcls, (Validated.ok.inj hbuilt).symm⟩
    · exact absurd hbuilt (Validated.fail_ne_ok _ _)
  · exact absurd hbuilt (Validated.fail_ne_ok _ _)

/-- **When a validating call keeps the base guardrails**: always, but on a readout that is handed
to `model_validate`, which is returned with the guide it has. -/
theorem base_guardrails_iff [UnicodeData] [Pydantic]
    (others : String → PyValue → Validated PyValue) :
    (∀ kwargs r, ModelReadout.init others kwargs = .ok r → KeepsBase r) ∧
    (∀ payload r, ModelReadout.validateJson payload = .ok r →
      r.explanationGuide.StartsWithTheBase) ∧
    ∀ v r, ModelReadout.modelValidate others v = .ok r →
      (KeepsBase r ↔ (v.isInstance "ModelReadout" = true → KeepsBase v)) := by
  refine ⟨fun kwargs r h => KeepsBase.of_construct (ModelReadout.init_eq_ok h), ?_, ?_⟩
  · intro payload r h
    unfold ModelReadout.validateJson at h
    split at h
    · rename_i j hjson
      obtain ⟨f, hf, hcheck⟩ := Validated.andThen_eq_ok.mp h
      obtain rfl := ModelReadout.check_eq_ok.mp hcheck
      obtain ⟨o, rfl, hbody, -⟩ := model_eq_ok.mp hf
      obtain ⟨-, -, -, -, -, -, -, -, -, -, -, -, hguide, -⟩ :=
        ReadoutFields.validate_eq_ok.mp hbody
      obtain ⟨_, -, hguide⟩ := field_eq_ok.mp hguide
      exact ExplanationGuide.startsWithTheBase hguide
    · exact absurd h (Validated.fail_ne_ok _ _)
  · intro v r h
    rcases ModelReadout.modelValidate_eq_ok h with ⟨hinstance, rfl⟩ | ⟨hother, entries, hbuilt⟩
    · exact ⟨fun hkeeps _ => hkeeps, fun hkeeps => hkeeps hinstance⟩
    · refine ⟨fun _ hinstance => ?_, fun _ => KeepsBase.of_construct hbuilt⟩
      exact absurd (hinstance.symm.trans hother) nofun

end

/-! ## A readout that is returned as it is -/

namespace Sample

/-- An interpreter of strings. -/
@[reducible] def interpreter : Interpreter where
  repr _ := ""
  eq v w := v.str?.isSome && decide (v.str? = w.str?)
  hash _ := .ok ()
  sorted := .ok
  iter _ _ := .error (.typeError "object is not iterable")
  lax _ := none

attribute [local instance] interpreter

/-- A tuple of strings. -/
def strings (ss : List String) : PyValue := .seq .tuple (ss.map .str)

/-- The fields of a guide over its guardrails. -/
def guideValue (guardrails : PyValue) (name : String) : PyValue :=
  (Dict.lookup name [("audience", .str "a"), ("summary_for_llm", .str "s"),
    ("what_was_solved", .str "w"), ("recommended_narrative_order", strings []),
    ("must_not_claim", strings ["c"])]).getD guardrails

/-- The fields of a readout over its guide. -/
def readoutValue (guide : PyValue) (name : String) : PyValue :=
  (Dict.lookup name [("generated_at", .datetime ⟨⟨2026, 5, 1⟩, 9, 30, 0, 0, some 0⟩),
    ("artifacts", .seq .tuple [.instance "ArtifactDescription" [("role", .str "result")]]),
    ("findings", .seq .tuple []), ("explanation_guide", guide)]).getD .none

/-- Every other field of the sample is valid. -/
def others : String → PyValue → Validated PyValue := fun _ v => .ok v

/-- A guide over its guardrails. -/
def guide (guardrails : PyValue) : PyValue :=
  .instance "ExplanationGuide"
    (ExplanationGuide.modelFields.map fun f => (f.name, guideValue guardrails f.name))

/-- The keyword arguments of a readout over its guide. -/
def readoutKwargs (guide : PyValue) : List (String × PyValue) :=
  (ModelReadout.modelFields others).map fun f => (f.name, readoutValue guide f.name)

/-- A readout over its guide. -/
def pyReadout (guide : PyValue) : PyValue := .instance "ModelReadout" (readoutKwargs guide)

theorem pyItems_map_str {c : StrSpec} : ∀ {ss : List String} (i : Nat),
    (∀ s ∈ ss, c.check s = none) → pyItems (pyStr c) i (ss.map .str) = .ok (ss.map .str)
  | [], _, _ => rfl
  | s :: ss, i, h => by
    have hs : str c (.str s) = .ok ⟨s, h s List.mem_cons_self⟩ := str_eq_ok.mpr rfl
    simp only [List.map_cons, pyItems, pyStr, hs, Validated.map_ok, Validated.under_ok,
      pyItems_map_str (i + 1) fun t ht => h t (List.mem_cons_of_mem s ht), Validated.seq_ok]
    rfl

/-- A tuple of strings that fit is valid. -/
theorem pyTuple_strings {lo hi : Nat} {c : StrSpec} {ss : List String}
    (hfit : ∀ s ∈ ss, c.check s = none) (hlo : lo ≤ ss.length) (hhi : ss.length ≤ hi) :
    pyTuple lo hi (pyStr c) (strings ss) = .ok (strings ss) := by
  unfold pyTuple strings
  simp only [PyValue.items?, pyItems_map_str 0 hfit, Validated.andThen, List.length_map]
  rw [if_neg (Nat.not_lt.mpr hlo), if_neg (Nat.not_lt.mpr hhi)]

theorem pyGuardrails_base :
    pyGuardrails (strings baseGuardrails) = .ok (strings baseGuardrails) := by
  have hfour : baseGuardrails.length = 4 := rfl
  have htuple : pyTuple 4 20 (pyStr { maxLength := some 500 }) (strings baseGuardrails) =
      .ok (strings baseGuardrails) :=
    pyTuple_strings baseGuardrails_fit hfour.ge (hfour.trans_le (by decide))
  have hbase : ((baseGuardrails.map PyValue.str).take 4).map PyValue.str? =
      baseGuardrails.map some := by
    have hstr : PyValue.str? ∘ PyValue.str = some := rfl
    rw [← List.map_take, List.map_map, hstr, List.take_of_length_le hfour.le]
  unfold pyGuardrails strings
  show (if _ = _ then _ else _) = _
  rw [if_pos hbase]
  exact htuple

/-- The guide over the base guardrails is valid. -/
theorem modelValidate_guide :
    ExplanationGuide.modelValidate (guide (strings baseGuardrails)) =
      .ok (guide (strings baseGuardrails)) := by
  have hbase := pyGuardrails_base
  generalize strings baseGuardrails = base at hbase ⊢
  refine (modelOf_revalidate _).trans ?_
  rw [List.map_map]
  refine construct_of_valid (guideValue base) fun f hf => ?_
  simp only [ExplanationGuide.modelFields, List.mem_cons, List.not_mem_nil, or_false] at hf
  rcases hf with rfl | rfl | rfl | rfl | rfl | rfl
  · rfl
  · rfl
  · rfl
  · rfl
  · rfl
  · exact hbase

/-- The model validators accept the sample, whatever its guardrails. -/
theorem after_pyReadout (guardrails : PyValue) :
    ModelReadout.after (pyReadout (guide guardrails)) = .ok (pyReadout (guide guardrails)) :=
  rfl

/-- The readout is one its constructor builds. -/
theorem init_pyReadout :
    ModelReadout.init others (readoutKwargs (guide (strings baseGuardrails))) =
      .ok (pyReadout (guide (strings baseGuardrails))) := by
  have hguide := modelValidate_guide
  have hbuilt : construct "ModelReadout" (ModelReadout.modelFields others)
      ((readoutKwargs (guide (strings baseGuardrails))).map fun a => (some a.1, a.2)) =
        .ok (pyReadout (guide (strings baseGuardrails))) := by
    generalize guide (strings baseGuardrails) = g at hguide ⊢
    unfold readoutKwargs
    rw [List.map_map]
    refine construct_of_valid (readoutValue g) fun f hf => ?_
    simp only [ModelReadout.modelFields, List.mem_cons, List.not_mem_nil, or_false] at hf
    rcases hf with rfl | rfl | rfl | rfl | rfl | rfl | rfl | rfl | rfl | rfl | rfl | rfl | rfl | rfl
    case inr.inr.inr.inr.inr.inr.inr.inr.inr.inr.inr.inr.inl => exact hguide
    all_goals rfl
  unfold ModelReadout.init
  rw [hbuilt]
  exact after_pyReadout _

/-- The readout with other guardrails, by `model_copy` of its guide and of itself. -/
def tampered (guardrails : PyValue) : PyValue :=
  (pyReadout (guide (strings baseGuardrails))).modelCopy "explanation_guide"
    ((guide (strings baseGuardrails)).modelCopy "guardrails" guardrails)

theorem after_tampered (guardrails : PyValue) :
    ModelReadout.after (tampered guardrails) = .ok (tampered guardrails) := by
  unfold tampered
  generalize strings baseGuardrails = base
  rfl

theorem guardrails_tampered (guardrails : PyValue) :
    ∃ guide, (tampered guardrails).getattr "explanation_guide" = .ok guide ∧
      guide.getattr "guardrails" = .ok guardrails := by
  unfold tampered
  generalize strings baseGuardrails = base
  exact ⟨_, rfl, rfl⟩

end Sample

section

attribute [local instance] Sample.interpreter

open Sample in
/-- A readout whose guide `model_copy` gave other guardrails comes back from `model_validate` as
it is. -/
theorem tampered_readout_passes :
    ModelReadout.init others (readoutKwargs (guide (strings baseGuardrails))) =
        .ok (pyReadout (guide (strings baseGuardrails))) ∧
      ModelReadout.modelValidate others (tampered (strings ["Invente à vontade."])) =
        .ok (tampered (strings ["Invente à vontade."])) ∧
      ¬ KeepsBase (tampered (strings ["Invente à vontade."])) := by
  refine ⟨init_pyReadout, ?_, ?_⟩
  · have hverbatim : modelOf "ModelReadout" false (ModelReadout.modelFields others)
        (tampered (strings ["Invente à vontade."])) =
          .ok (tampered (strings ["Invente à vontade."])) := modelOf_verbatim _
    unfold ModelReadout.modelValidate
    rw [hverbatim]
    exact after_tampered _
  · rintro ⟨guide, hguide, kind, xs, hattr, hbase⟩
    obtain ⟨guide', hguide', hattr'⟩ := guardrails_tampered (strings ["Invente à vontade."])
    obtain rfl := Except.ok.inj (hguide.symm.trans hguide')
    obtain ⟨rfl, rfl⟩ := PyValue.seq.inj (Except.ok.inj (hattr.symm.trans hattr'))
    exact absurd (congrArg List.length hbase) (by decide)

end

end Grabatus

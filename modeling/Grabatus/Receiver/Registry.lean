import Grabatus.Errors
import Grabatus.Lib.Dict
import Grabatus.Lib.Text
import Grabatus.Python.Str

/-!
# `ServiceRegistry`

Model of `receiver/registry.py`. The lookup from `envelope.service.name` to the Cloud Run Job that
runs the service, and its configuration: a comma-separated string of `name:worker_job_name` items.

* **The parser keeps every item** (`parseItems_eq_ok`): an accepted string has well-formed items
  under distinct names, and the dictionary is the items, in order. Nothing is overwritten, since a
  name that is already there is refused.
* **It accepts exactly these strings, and undoes the rendering of a map** in any order of its
  entries (`fromEnvString_iff`).
-/

namespace Grabatus

open Grabatus.Lib Grabatus.Lib.Text Grabatus.Python

/-- `ServiceRegistry`: worker jobs by service name. -/
structure ServiceRegistry where
  byName : Dict String String

namespace ServiceRegistry

/-! ## The parser -/

/-- The name of an item: what stands before its first `:`, stripped. -/
def itemName (item : String) : String := strip (String.ofList (cut ':' item.toList).1)

/-- The worker of an item: what stands after its first `:`, stripped. -/
def itemWorker (item : String) : String :=
  strip (String.ofList ((cut ':' item.toList).2.getD []))

/-- `raw.split(",")`. -/
def splitItems (raw : String) : List String := (raw.toList.splitOn ',').map String.ofList

variable [UnicodeData]

/-- `ServiceRegistry.resolve`. -/
def resolve (registry : ServiceRegistry) (serviceName : String) : Except PyException String :=
  match registry.byName.get? serviceName with
  | some workerJob => .ok workerJob
  | none => .error (serviceError .unknownServiceError
      ("service.name=" ++ pyRepr serviceName ++ " not in registry; known: " ++
        pyReprList (sorted registry.byName.keys.toFinset)))

/-- The loop of `from_env_string`, into `byName`. -/
def parseItems (byName : Dict String String) :
    List String → Except PyException (Dict String String)
  | [] => .ok byName
  | item :: items =>
    if ':' ∉ item.toList then
      .error (valueError
        ("registry entry " ++ pyRepr item ++ " malformed; expected 'name:worker'"))
    else
      let name := itemName item
      let worker := itemWorker item
      if name = "" ∨ worker = "" then
        .error (valueError ("registry entry " ++ pyRepr item ++ " has empty name or worker"))
      else if name ∈ byName.keys then
        .error (valueError ("duplicate service name " ++ pyRepr name ++ " in registry"))
      else parseItems (byName.set name worker) items

/-- `ServiceRegistry.from_env_string`. -/
def fromEnvString (raw : String) : Except PyException ServiceRegistry :=
  if strip raw = "" then .ok ⟨Dict.empty⟩
  else (parseItems Dict.empty (splitItems raw)).map ServiceRegistry.mk

/-! ## Resolving -/

theorem resolve_eq_ok {registry : ServiceRegistry} {serviceName job : String} :
    registry.resolve serviceName = .ok job ↔ registry.byName.get? serviceName = some job := by
  unfold resolve
  split <;> simp [*]

/-- A name that is no key is an `UnknownServiceError`. -/
theorem resolve_error {registry : ServiceRegistry} {serviceName : String} {e : PyException}
    (h : registry.resolve serviceName = .error e) :
    registry.byName.get? serviceName = none ∧
      ∃ message, e = serviceError .unknownServiceError message := by
  unfold resolve at h
  split at h
  · cases h
  · rename_i hnone
    exact ⟨hnone, _, (Except.error.inj h).symm⟩

/-! ## What is accepted -/

omit [UnicodeData] in
/-- A string of whitespace. -/
def Blank (s : String) : Prop := ∀ c ∈ s.toList, isSpace c = true

omit [UnicodeData] in
/-- `name:worker`, neither of them blank. -/
structure NamesWorker (item : String) : Prop where
  colon : ':' ∈ item.toList
  name : ¬ Blank (String.ofList (cut ':' item.toList).1)
  worker : ¬ Blank (String.ofList ((cut ':' item.toList).2.getD []))

omit [UnicodeData] in
/-- An item as an entry. -/
def entryOf (item : String) : String × String := (itemName item, itemWorker item)

omit [UnicodeData] in
/-- The entries a string declares; a blank one declares none. -/
def entries (raw : String) : List (String × String) :=
  if strip raw = "" then [] else (splitItems raw).map entryOf

/-- **The loop accepts well-formed items under fresh names, and appends them all.** -/
theorem parseItems_eq_ok {byName : Dict String String} {items : List String}
    {result : Dict String String} : parseItems byName items = .ok result ↔
      (∀ item ∈ items, NamesWorker item) ∧ (byName.keys ++ items.map itemName).Nodup ∧
        result.entries = byName.entries ++ items.map entryOf := by
  induction items generalizing byName with
  | nil =>
    have hnodup : byName.keys.Nodup := byName.nodup
    constructor
    · intro h
      obtain rfl := Except.ok.inj h
      simp [hnodup]
    · rintro ⟨-, -, hentries⟩
      rw [List.map_nil, List.append_nil] at hentries
      rcases byName with ⟨es, hes⟩
      rcases result with ⟨fs, hfs⟩
      obtain rfl : fs = es := hentries
      rfl
  | cons item items ih =>
    have hfresh : itemName item ∉ byName.keys →
        (byName.set (itemName item) (itemWorker item)).entries =
          byName.entries ++ [entryOf item] := Dict.write_of_not_mem
    have hkeys : itemName item ∉ byName.keys →
        (byName.set (itemName item) (itemWorker item)).keys = byName.keys ++ [itemName item] := by
      intro hnot
      unfold Dict.keys
      rw [hfresh hnot, List.map_append]
      rfl
    simp only [parseItems, List.forall_mem_cons, List.map_cons]
    constructor
    · intro h
      split at h
      · exact absurd h nofun
      · rename_i hcolon
        split at h
        · exact absurd h nofun
        · rename_i hempty
          split at h
          · exact absurd h nofun
          · rename_i hnot
            obtain ⟨hall, hnodup, hentries⟩ := ih.mp h
            rw [hkeys hnot] at hnodup
            rw [hfresh hnot] at hentries
            rw [not_or] at hempty
            refine ⟨⟨⟨not_not.mp hcolon, fun hblank => hempty.1 (strip_eq_empty.mpr hblank),
              fun hblank => hempty.2 (strip_eq_empty.mpr hblank)⟩, hall⟩, ?_, ?_⟩
            · simpa using hnodup
            · simpa using hentries
    · rintro ⟨⟨hitem, hall⟩, hnodup, hentries⟩
      have hnot : itemName item ∉ byName.keys := fun hmem =>
        (List.nodup_append.mp hnodup).2.2 _ hmem _ List.mem_cons_self rfl
      have hempty : ¬ (itemName item = "" ∨ itemWorker item = "") := by
        rintro (hname | hworker)
        · exact hitem.name (strip_eq_empty.mp hname)
        · exact hitem.worker (strip_eq_empty.mp hworker)
      rw [if_neg (not_not.mpr hitem.colon), if_neg hempty, if_neg hnot, ih, hkeys hnot, hfresh hnot]
      refine ⟨hall, ?_, ?_⟩
      · simpa using hnodup
      · simpa using hentries

/-- **What `from_env_string` accepts**, and the registry it makes of it. -/
theorem fromEnvString_eq_ok {raw : String} {registry : ServiceRegistry} :
    fromEnvString raw = .ok registry ↔
      (Blank raw ∨ (∀ item ∈ splitItems raw, NamesWorker item) ∧
        ((splitItems raw).map itemName).Nodup) ∧ registry.byName.entries = entries raw := by
  have hext : ∀ d : Dict String String, registry.byName.entries = d.entries ↔ d = registry.byName :=
    fun d => by
    rcases registry with ⟨⟨es, hes⟩⟩
    rcases d with ⟨fs, hfs⟩
    simp [eq_comm]
  unfold fromEnvString entries
  by_cases hblank : strip raw = ""
  · rw [if_pos hblank, if_pos hblank]
    constructor
    · intro h
      obtain rfl := Except.ok.inj h
      exact ⟨.inl (strip_eq_empty.mp hblank), rfl⟩
    · rintro ⟨-, hentries⟩
      rcases registry with ⟨d⟩
      obtain rfl : Dict.empty = d := (hext Dict.empty).mp hentries
      rfl
  · rw [if_neg hblank, if_neg hblank]
    have hnot : ¬ Blank raw := fun h => hblank (strip_eq_empty.mpr h)
    have hloop : parseItems Dict.empty (splitItems raw) = .ok registry.byName ↔ _ :=
      parseItems_eq_ok
    simp only [Dict.keys, Dict.empty, List.map_nil, List.nil_append] at hloop
    have hmap : (parseItems Dict.empty (splitItems raw)).map ServiceRegistry.mk = .ok registry ↔
        parseItems Dict.empty (splitItems raw) = .ok registry.byName := by
      rcases registry with ⟨d⟩
      rcases parseItems Dict.empty (splitItems raw) with e | d' <;> simp [Except.map]
    rw [hmap, or_iff_right hnot, and_assoc]
    exact hloop

/-! ## The round trip -/

omit [UnicodeData] in
/-- An entry that stands in a string as it is: both sides stripped and not empty, no separator but
a `:` in the worker. -/
structure PlainEntry (e : String × String) : Prop where
  name_stripped : strip e.1 = e.1
  name_ne : e.1 ≠ ""
  name_comma : ',' ∉ e.1.toList
  name_colon : ':' ∉ e.1.toList
  worker_stripped : strip e.2 = e.2
  worker_ne : e.2 ≠ ""
  worker_comma : ',' ∉ e.2.toList

omit [UnicodeData] in
/-- `n:w`. -/
def renderEntry (e : String × String) : String := String.ofList (e.1.toList ++ ':' :: e.2.toList)

omit [UnicodeData] in
/-- `n1:w1,n2:w2,...`. -/
def render (es : List (String × String)) : String :=
  String.ofList ([','].intercalate (es.map fun e => (renderEntry e).toList))

section

variable {e : String × String} {es : List (String × String)}

omit [UnicodeData] in
theorem cut_renderEntry (h : PlainEntry e) :
    cut ':' (renderEntry e).toList = (e.1.toList, some e.2.toList) := by
  unfold renderEntry
  rw [String.toList_ofList, cut_append h.name_colon]

omit [UnicodeData] in
/-- A rendered entry is read back. -/
theorem entryOf_renderEntry (h : PlainEntry e) : entryOf (renderEntry e) = e := by
  unfold entryOf itemName itemWorker
  rw [cut_renderEntry h, Option.getD_some, String.ofList_toList, String.ofList_toList,
    h.name_stripped, h.worker_stripped]

omit [UnicodeData] in
theorem namesWorker_renderEntry (h : PlainEntry e) : NamesWorker (renderEntry e) where
  colon := by
    unfold renderEntry
    rw [String.toList_ofList]
    simp
  name := by
    rw [cut_renderEntry h, String.ofList_toList]
    exact fun hblank => h.name_ne (h.name_stripped ▸ strip_eq_empty.mpr hblank)
  worker := by
    rw [cut_renderEntry h, Option.getD_some, String.ofList_toList]
    exact fun hblank => h.worker_ne (h.worker_stripped ▸ strip_eq_empty.mpr hblank)

omit [UnicodeData] in
/-- A rendering splits into the rendered entries. -/
theorem splitItems_render (hes : es ≠ []) (h : ∀ e ∈ es, PlainEntry e) :
    splitItems (render es) = es.map renderEntry := by
  have hcomma : ∀ l ∈ es.map fun e => (renderEntry e).toList, ',' ∉ l := by
    rintro l hl
    obtain ⟨e, he, rfl⟩ := List.mem_map.mp hl
    unfold renderEntry
    rw [String.toList_ofList]
    simp [(h e he).name_comma, (h e he).worker_comma]
  unfold splitItems render
  rw [String.toList_ofList, List.splitOn_intercalate ',' hcomma (by simpa using hes), List.map_map]
  exact List.map_congr_left fun e _ => String.ofList_toList

omit [UnicodeData] in
theorem not_blank_render (hes : es ≠ []) (h : ∀ e ∈ es, PlainEntry e) : ¬ Blank (render es) := by
  rcases es with - | ⟨e, es⟩
  · exact absurd rfl hes
  · -- the first entry has a `:`
    have hentry : ':' ∈ (renderEntry e).toList :=
      (namesWorker_renderEntry (h e List.mem_cons_self)).colon
    have hcolon : ':' ∈ (render (e :: es)).toList := by
      unfold render
      rw [String.toList_ofList, List.map_cons]
      by_cases hrest : es = []
      · rw [hrest, List.map_nil, List.intercalate_singleton]
        exact hentry
      · rw [List.intercalate_cons_of_ne_nil (by simpa using hrest)]
        simp [hentry]
    have hspace : isSpace ':' = false := rfl
    intro hblank
    rw [hblank ':' hcolon] at hspace
    exact absurd hspace nofun

/-- **A rendering is parsed into its entries.** -/
theorem fromEnvString_render (hnodup : (es.map Prod.fst).Nodup) (h : ∀ e ∈ es, PlainEntry e) :
    fromEnvString (render es) = .ok ⟨⟨es, hnodup⟩⟩ := by
  rw [fromEnvString_eq_ok]
  by_cases hes : es = []
  · subst hes
    exact ⟨.inl (by simp [Blank, render]), rfl⟩
  · have hnot := not_blank_render hes h
    have hentries : (es.map renderEntry).map entryOf = es := by
      rw [List.map_map]
      refine (List.map_congr_left fun e he => ?_).trans (List.map_id es)
      exact entryOf_renderEntry (h e he)
    have hnames : (es.map renderEntry).map itemName = es.map Prod.fst := by
      have hfst : itemName = Prod.fst ∘ entryOf := rfl
      rw [hfst, ← List.map_map, hentries]
    unfold entries
    rw [if_neg (fun hblank => hnot (strip_eq_empty.mp hblank)), splitItems_render hes h, hnames,
      hentries]
    refine ⟨.inr ⟨fun item hitem => ?_, hnodup⟩, rfl⟩
    obtain ⟨e, he, rfl⟩ := List.mem_map.mp hitem
    exact namesWorker_renderEntry (h e he)

end

/-- **The strings that are accepted, what they resolve, and the round trip**: every item of an
accepted string is an entry of its registry and the only one of its name; a map is read back from
its rendering, whatever the order. -/
theorem fromEnvString_iff :
    (∀ raw, (∃ registry, fromEnvString raw = .ok registry) ↔
      Blank raw ∨ (∀ item ∈ splitItems raw, NamesWorker item) ∧
        ((splitItems raw).map itemName).Nodup) ∧
    (∀ raw registry, fromEnvString raw = .ok registry →
      registry.byName.entries = entries raw ∧ ((entries raw).map Prod.fst).Nodup ∧
        ∀ n, (∃ worker, (n, worker) ∈ entries raw ∧ registry.resolve n = .ok worker) ∨
          (∀ e ∈ entries raw, e.1 ≠ n) ∧
            ∃ message, registry.resolve n = .error (serviceError .unknownServiceError message)) ∧
    ∀ (map : Dict String String) (es : List (String × String)),
      (∀ e ∈ map.entries, PlainEntry e) → es.Perm map.entries →
        ∃ registry, fromEnvString (render es) = .ok registry ∧ registry.byName.Same map := by
  refine ⟨fun raw => ⟨?_, fun h => ?_⟩, fun raw registry h => ?_, fun map es hplain hperm => ?_⟩
  · rintro ⟨registry, h⟩
    exact (fromEnvString_eq_ok.mp h).1
  · have hnodup : ((entries raw).map Prod.fst).Nodup := by
      unfold entries
      split
      · exact List.nodup_nil
      · rename_i hblank
        rw [List.map_map]
        exact (h.resolve_left fun hb => hblank (strip_eq_empty.mpr hb)).2
    exact ⟨⟨⟨entries raw, hnodup⟩⟩, fromEnvString_eq_ok.mpr ⟨h, rfl⟩⟩
  · obtain ⟨-, hentries⟩ := fromEnvString_eq_ok.mp h
    rw [← hentries]
    refine ⟨rfl, registry.byName.nodup, fun n => ?_⟩
    rcases hn : registry.resolve n with e | worker
    · obtain ⟨hnone, message, rfl⟩ := resolve_error hn
      refine .inr ⟨fun e he hname => ?_, message, rfl⟩
      rw [← hname, Dict.get?_of_mem he] at hnone
      exact absurd hnone nofun
    · exact .inl ⟨worker, Dict.mem_entries_of_get? (resolve_eq_ok.mp hn), rfl⟩
  · have hnodup : (es.map Prod.fst).Nodup :=
      (hperm.map Prod.fst).nodup_iff.mpr map.nodup
    exact ⟨_, fromEnvString_render hnodup fun e he => hplain e (hperm.mem_iff.mp he),
      Dict.same_of_perm hperm⟩

end ServiceRegistry

end Grabatus

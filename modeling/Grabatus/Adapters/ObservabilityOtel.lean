import Grabatus.Lib.Traced
import Grabatus.Ports.Ports
import Grabatus.Python.Str

/-!
# `OpenTelemetryObservability`

Model of `adapters/observability_otel.py`. The adapter keeps the instruments it created, by name,
and picks the kind of an instrument by the suffix of the metric's name. The meter and the tracer
are the SDK's: here they are any operations on a world of which `signals` is what they were told,
in order.

Results:

* `metric_refines`: on such an SDK the adapter is the list of signals with `withMeasurement` on it,
  which creates an instrument before its first measurement and never again.
* `WellFormed.withMeasurement`: in a list made this way every instrument is created once, and
  before it measures anything.

Out of scope: log lines, and what the SDK exports of a signal.
-/

namespace Grabatus

open Grabatus.Lib Grabatus.Python

/-- `Counter` or `Histogram`. -/
inductive InstrumentKind where
  | counter
  | histogram
  deriving DecidableEq

/-- The suffixes of a counter's name; every other metric is a histogram. -/
def kindOf (name : String) : InstrumentKind :=
  if endsWith name ".total" || endsWith name ".failures" then .counter else .histogram

/-- `Meter`, and what its instruments do. -/
structure Meter (ω I : Type) where
  createCounter : String → PyOp ω I
  createHistogram : String → PyOp ω I
  add : I → Double → List (String × String) → PyOp ω Unit
  record : I → Double → List (String × String) → PyOp ω Unit

/-- `Tracer.start_as_current_span`: entering the span it gives, and leaving it. -/
structure Tracer (ω : Type) where
  startSpan : String → List (String × String) → PyOp ω Unit
  endSpan : String → PyOp ω Unit

variable {ω I : Type}

/-- `create_counter` or `create_histogram`. -/
def Meter.create (m : Meter ω I) : InstrumentKind → String → PyOp ω I
  | .counter => m.createCounter
  | .histogram => m.createHistogram

/-- `counter.add` or `histogram.record`. -/
def Meter.measure (m : Meter ω I) :
    InstrumentKind → I → Double → List (String × String) → PyOp ω Unit
  | .counter => m.add
  | .histogram => m.record

/-- The attributes `_counters` and `_histograms`, and the world the SDK and everything else is
in. -/
structure Instrumented (ω I : Type) where
  counters : Dict String I
  histograms : Dict String I
  sdk : ω

namespace Instrumented

/-- The cache of a kind. -/
def cache (s : Instrumented ω I) : InstrumentKind → Dict String I
  | .counter => s.counters
  | .histogram => s.histograms

/-- The caches with an instrument under a name. -/
def keep (s : Instrumented ω I) (kind : InstrumentKind) (name : String) (instrument : I) :
    Instrumented ω I :=
  match kind with
  | .counter => { s with counters := s.counters.set name instrument }
  | .histogram => { s with histograms := s.histograms.set name instrument }

@[simp] theorem sdk_keep (s : Instrumented ω I) (kind : InstrumentKind) (name : String) (i : I) :
    (s.keep kind name i).sdk = s.sdk := by cases kind <;> rfl

theorem get?_keep (s : Instrumented ω I) (kind kind' : InstrumentKind) (name name' : String)
    (i : I) : ((s.keep kind name i).cache kind').get? name' =
      if kind' = kind ∧ name' = name then some i else (s.cache kind').get? name' := by
  cases kind <;> cases kind' <;> simp [keep, cache, Dict.get?_set, eq_comm]

end Instrumented

/-- `OpenTelemetryObservability`. -/
structure OpenTelemetryObservability (ω I : Type) where
  tracer : Tracer ω
  meter : Meter ω I

namespace OpenTelemetryObservability

/-- A call of the SDK. -/
def onSdk {α : Type} (op : PyOp ω α) : PyOp (Instrumented ω I) α := fun s =>
  ((op s.sdk).1, { s with sdk := (op s.sdk).2 })

/-- `cache.get(name) or create(name)`. -/
def getOrCreate (o : OpenTelemetryObservability ω I) (kind : InstrumentKind) (name : String) :
    PyOp (Instrumented ω I) I := fun s =>
  match (s.cache kind).get? name with
  | some instrument => (.ok instrument, s)
  | none => onSdk (o.meter.create kind name) s

/-- `cache[name] = instrument`. -/
def remember (kind : InstrumentKind) (name : String) (instrument : I) :
    PyOp (Instrumented ω I) Unit := fun s => (.ok (), s.keep kind name instrument)

/-- A measurement: the instrument is found or created, kept under its name, and used. -/
def measureAs (o : OpenTelemetryObservability ω I) (kind : InstrumentKind) (name : String)
    (value : Double) (tags : List (String × String)) : PyOp (Instrumented ω I) Unit := do
  let instrument ← o.getOrCreate kind name
  remember kind name instrument
  onSdk (o.meter.measure kind instrument value tags)

/-- `metric`. -/
def metric (o : OpenTelemetryObservability ω I) (name : String) (value : Double)
    (tags : List (String × String)) : PyOp (Instrumented ω I) Unit :=
  o.measureAs (kindOf name) name value tags

/-- The adapter as a port. -/
def port (o : OpenTelemetryObservability ω I) : ObservabilityPort (Instrumented ω I) where
  enter name attrs := onSdk (o.tracer.startSpan name attrs)
  exit name := onSdk (o.tracer.endSpan name)
  metric := o.metric

end OpenTelemetryObservability

/-! ## Signals -/

/-- What the SDK is told. -/
inductive Signal where
  | created (kind : InstrumentKind) (name : String)
  | measured (kind : InstrumentKind) (name : String) (value : Double)
    (tags : List (String × String))
  | started (span : String) (attrs : List (String × String))
  | ended (span : String)
  deriving DecidableEq

/-- The instrument a signal creates. -/
def Signal.created? : Signal → Option (InstrumentKind × String)
  | .created kind name => some (kind, name)
  | _ => none

/-- A signal that is no creation. -/
def Signal.isReport : Signal → Bool
  | .created _ _ => false
  | _ => true

/-- What was told, then a measurement. -/
def withMeasurement (name : String) (value : Double) (tags : List (String × String))
    (told : List Signal) : List Signal :=
  told ++ (if .created (kindOf name) name ∈ told then [] else [.created (kindOf name) name]) ++
    [.measured (kindOf name) name value tags]

theorem filter_withMeasurement (name : String) (value : Double) (tags : List (String × String))
    (told : List Signal) : (withMeasurement name value tags told).filter Signal.isReport =
      told.filter Signal.isReport ++ [.measured (kindOf name) name value tags] := by
  unfold withMeasurement
  split <;> simp [Signal.isReport]

/-- Every instrument is created once, and before it measures anything. -/
structure WellFormed (told : List Signal) : Prop where
  once : (told.filterMap Signal.created?).Nodup
  before : ∀ pre post kind name value tags, told = pre ++ .measured kind name value tags :: post →
    .created kind name ∈ pre

/-- A signal of a list with one more at its end is the new one, or was there before. -/
theorem signal_split {told pre post : List Signal} {new signal : Signal}
    (h : told ++ [new] = pre ++ signal :: post) :
    (pre = told ∧ signal = new) ∨ ∃ post', told = pre ++ signal :: post' := by
  by_cases hnew : signal ∈ [new]
  · rcases List.append_eq_append_iff.mp h with ⟨rest, hpre, hlast⟩ | ⟨rest, htold, hlast⟩
    · obtain rfl : rest = [] := by
        rcases rest with - | ⟨x, rest⟩
        · rfl
        · simp at hlast
      exact .inl ⟨by rw [hpre, List.append_nil], List.mem_singleton.mp hnew⟩
    · rcases rest with - | ⟨x, rest⟩
      · exact .inl ⟨by rw [htold, List.append_nil], List.mem_singleton.mp hnew⟩
      · obtain ⟨rfl, -⟩ := List.cons.inj hlast
        exact .inr ⟨rest, htold⟩
  · exact .inr (Traced.split_left hnew h)

namespace WellFormed

variable {told : List Signal}

theorem nil : WellFormed [] where
  once := List.nodup_nil
  before pre post _ _ _ _ h := absurd h (by simp)

/-- A signal that creates nothing, of an instrument that was created if it measures. -/
theorem snoc (h : WellFormed told) {new : Signal} (hcreated : new.created? = none)
    (hmeasured : ∀ kind name value tags, new = .measured kind name value tags →
      .created kind name ∈ told) : WellFormed (told ++ [new]) where
  once := by
    rw [List.filterMap_append, List.filterMap_cons_none hcreated, List.filterMap_nil,
      List.append_nil]
    exact h.once
  before pre post kind name value tags hsplit := by
    rcases signal_split hsplit with ⟨rfl, hnew⟩ | ⟨post', htold⟩
    · exact hmeasured kind name value tags hnew.symm
    · exact h.before pre post' kind name value tags htold

theorem created (h : WellFormed told) {kind : InstrumentKind} {name : String}
    (hnew : .created kind name ∉ told) : WellFormed (told ++ [.created kind name]) where
  once := by
    rw [List.filterMap_append]
    refine List.nodup_append'.mpr ⟨h.once, List.nodup_singleton _, fun instrument hmem hlast => ?_⟩
    obtain rfl := List.mem_singleton.mp hlast
    obtain ⟨signal, hsignal, hcreated⟩ := List.mem_filterMap.mp hmem
    cases signal with
    | created kind' name' =>
      obtain ⟨rfl, rfl⟩ := Prod.mk.inj (Option.some.inj hcreated)
      exact hnew hsignal
    | measured | started | ended => exact absurd hcreated nofun
  before pre post kind' name' value tags hsplit := by
    rcases signal_split hsplit with ⟨-, hsame⟩ | ⟨post', htold⟩
    · exact absurd hsame nofun
    · exact h.before pre post' kind' name' value tags htold

/-- **A measurement keeps the list well formed.** -/
theorem withMeasurement (h : WellFormed told) (name : String) (value : Double)
    (tags : List (String × String)) : WellFormed (withMeasurement name value tags told) := by
  unfold Grabatus.withMeasurement
  split
  · rename_i hcreated
    rw [List.append_nil]
    exact h.snoc rfl fun _ _ _ _ hsame => by
      obtain ⟨rfl, rfl, -, -⟩ := Signal.measured.inj hsame
      exact hcreated
  · rename_i hnew
    exact (h.created hnew).snoc rfl fun _ _ _ _ hsame => by
      obtain ⟨rfl, rfl, -, -⟩ := Signal.measured.inj hsame
      exact List.mem_append_right _ List.mem_cons_self

end WellFormed

/-! ## The SDK -/

/-- The SDK takes what it is told and never raises; `names` is the kind and the name an instrument
was created with. -/
structure OpenTelemetryObservability.Takes (o : OpenTelemetryObservability ω I)
    (names : I → InstrumentKind × String) (told : ω → List Signal) : Prop where
  create : ∀ kind name w, ∃ instrument w', o.meter.create kind name w = (.ok instrument, w') ∧
    names instrument = (kind, name) ∧ told w' = told w ++ [.created kind name]
  measure : ∀ instrument value tags w, ∃ w',
    o.meter.measure (names instrument).1 instrument value tags w = (.ok (), w') ∧
      told w' = told w ++ [.measured (names instrument).1 (names instrument).2 value tags]
  startSpan : ∀ name attrs w, ∃ w', o.tracer.startSpan name attrs w = (.ok (), w') ∧
    told w' = told w ++ [.started name attrs]
  endSpan : ∀ name w, ∃ w', o.tracer.endSpan name w = (.ok (), w') ∧
    told w' = told w ++ [.ended name]

/-- The caches hold what was created, under its name. -/
structure Instrumented.Synced (names : I → InstrumentKind × String) (told : ω → List Signal)
    (s : Instrumented ω I) : Prop where
  named : ∀ kind name instrument, (s.cache kind).get? name = some instrument →
    names instrument = (kind, name)
  cached : ∀ kind name, (s.cache kind).get? name = none ↔ .created kind name ∉ told s.sdk

/-- The caches, and what the SDK was told. -/
def Instrumented.view (told : ω → List Signal) (s : Instrumented ω I) :
    Dict String I × Dict String I × List Signal := (s.counters, s.histograms, told s.sdk)

theorem Instrumented.told_of_view {told : ω → List Signal} {s s' : Instrumented ω I}
    (h : s'.view told = s.view told) : told s'.sdk = told s.sdk :=
  congrArg (fun v => v.2.2) h

/-- Being in sync is a matter of the caches and of what was told. -/
theorem Instrumented.Synced.of_view {names : I → InstrumentKind × String}
    {told : ω → List Signal} {s s' : Instrumented ω I} (h : s'.view told = s.view told)
    (hs : s.Synced names told) : s'.Synced names told := by
  have hcache : ∀ kind, s'.cache kind = s.cache kind
    | .counter => congrArg Prod.fst h
    | .histogram => congrArg (fun v => v.2.1) h
  exact ⟨fun kind name instrument hget => hs.named kind name instrument (hcache kind ▸ hget),
    fun kind name => by rw [hcache, told_of_view h]; exact hs.cached kind name⟩

namespace OpenTelemetryObservability

variable {o : OpenTelemetryObservability ω I} {names : I → InstrumentKind × String}
  {told : ω → List Signal} {s : Instrumented ω I}

/-- A process that starts is in sync with an SDK that was told nothing. -/
theorem synced_fresh {w : ω} (h : told w = []) :
    (Instrumented.mk Dict.empty Dict.empty w : Instrumented ω I).Synced names told where
  named kind name instrument hget := by cases kind <;> exact absurd hget nofun
  cached kind name := by
    rw [h]
    cases kind <;> exact ⟨fun _ => List.not_mem_nil, fun _ => rfl⟩

/-- A signal that creates nothing leaves the caches in sync. -/
theorem synced_told (hs : s.Synced names told) {w : ω} {new : Signal}
    (htold : told w = told s.sdk ++ [new]) (hcreated : new.created? = none) :
    ({ s with sdk := w } : Instrumented ω I).Synced names told where
  named := hs.named
  cached kind name := by
    refine (hs.cached kind name).trans (not_congr ?_)
    rw [htold, List.mem_append, List.mem_singleton]
    refine ⟨.inl, fun hmem => hmem.resolve_right ?_⟩
    rintro rfl
    exact nomatch hcreated

theorem enter_refines (h : o.Takes names told) (hs : s.Synced names told) (span : String)
    (attrs : List (String × String)) :
    ∃ s', o.port.enter span attrs s = (.ok (), s') ∧ s'.Synced names told ∧
      told s'.sdk = told s.sdk ++ [.started span attrs] := by
  obtain ⟨w, hstart, htold⟩ := h.startSpan span attrs s.sdk
  exact ⟨{ s with sdk := w }, by simp [port, onSdk, hstart], synced_told hs htold rfl, htold⟩

theorem exit_refines (h : o.Takes names told) (hs : s.Synced names told) (span : String) :
    ∃ s', o.port.exit span s = (.ok (), s') ∧ s'.Synced names told ∧
      told s'.sdk = told s.sdk ++ [.ended span] := by
  obtain ⟨w, hend, htold⟩ := h.endSpan span s.sdk
  exact ⟨{ s with sdk := w }, by simp [port, onSdk, hend], synced_told hs htold rfl, htold⟩

/-- The instrument of a name: the one kept under it, or a new one, and it is kept. -/
theorem getOrCreate_spec (h : o.Takes names told) (hs : s.Synced names told)
    (kind : InstrumentKind) (name : String) :
    ∃ instrument s', o.getOrCreate kind name s = (.ok instrument, s') ∧
      names instrument = (kind, name) ∧ (s'.keep kind name instrument).Synced names told ∧
        told s'.sdk = told s.sdk ++
          (if .created kind name ∈ told s.sdk then [] else [.created kind name]) := by
  unfold getOrCreate
  rcases hget : (s.cache kind).get? name with - | instrument
  · have hnew := (hs.cached kind name).mp hget
    obtain ⟨instrument, w, hcreate, hnames, htold⟩ := h.create kind name s.sdk
    refine ⟨instrument, { s with sdk := w }, by simp [onSdk, hcreate], hnames, ⟨?_, ?_⟩, ?_⟩
    · intro kind' name' instrument' hget'
      rw [Instrumented.get?_keep] at hget'
      split at hget'
      · rename_i hsame
        obtain rfl := Option.some.inj hget'
        rw [hnames, hsame.1, hsame.2]
      · exact hs.named kind' name' instrument' hget'
    · intro kind' name'
      rw [Instrumented.get?_keep, Instrumented.sdk_keep, htold, List.mem_append,
        List.mem_singleton, Signal.created.injEq]
      split
      · rename_i hsame
        exact ⟨fun hnone => absurd hnone (Option.some_ne_none _),
          fun hnot => absurd (.inr hsame) hnot⟩
      · rename_i hother
        refine (hs.cached kind' name').trans (not_congr ⟨.inl, fun hmem => hmem.resolve_right ?_⟩)
        exact hother
    · rw [if_neg hnew]
      exact htold
  · have hold : .created kind name ∈ told s.sdk := by
      by_contra hnew
      exact absurd (hget.symm.trans ((hs.cached kind name).mpr hnew)) (Option.some_ne_none _)
    have hkeep : ∀ kind' name', ((s.keep kind name instrument).cache kind').get? name' =
        (s.cache kind').get? name' := by
      intro kind' name'
      rw [Instrumented.get?_keep]
      split
      · rename_i hsame
        rw [hsame.1, hsame.2, hget]
      · rfl
    refine ⟨instrument, s, rfl, hs.named kind name instrument hget, ⟨?_, ?_⟩, ?_⟩
    · intro kind' name' instrument' hget'
      rw [hkeep] at hget'
      exact hs.named kind' name' instrument' hget'
    · intro kind' name'
      rw [hkeep, Instrumented.sdk_keep]
      exact hs.cached kind' name'
    · rw [if_pos hold, List.append_nil]

/-- **The adapter refines the list**: a measurement never raises, and what was told is what was
told before, with the measurement on it. -/
theorem metric_refines (h : o.Takes names told) (hs : s.Synced names told) (name : String)
    (value : Double) (tags : List (String × String)) :
    ∃ s', o.port.metric name value tags s = (.ok (), s') ∧ s'.Synced names told ∧
      told s'.sdk = withMeasurement name value tags (told s.sdk) := by
  obtain ⟨instrument, s₁, hget, hnames, hsynced, htold⟩ := getOrCreate_spec h hs (kindOf name) name
  obtain ⟨w, hmeasure, htold'⟩ := h.measure instrument value tags s₁.sdk
  rw [hnames] at hmeasure htold'
  refine ⟨{ s₁.keep (kindOf name) name instrument with sdk := w }, ?_,
    synced_told hsynced (by rw [htold', Instrumented.sdk_keep]) rfl, ?_⟩
  · show o.measureAs (kindOf name) name value tags s = _
    simp [measureAs, Op.run_bind, hget, remember, onSdk, hmeasure]
  · rw [htold', htold]
    rfl

end OpenTelemetryObservability

end Grabatus

import Grabatus.Contract.Readout.Root

/-!
# What `duplicated` reports

Over `contract/duplicates.py`. The loop of `duplicated` keeps two sets, what it has seen and what
it has seen again; after a prefix of the values the second holds what occurs twice in it
(`mem_repeated`). So the report is the repeated values, each once, in ascending order, and depends
on how often each value occurs only (`duplicated_reports`): a collection passes one of the five
uniqueness rules iff it repeats nothing.
-/

namespace Grabatus

open Grabatus.Lib Grabatus.Python

/-- What is reported is what occurs at least twice. -/
theorem mem_duplicated {values : List String} {v : String} :
    v ∈ duplicated values ↔ 2 ≤ values.count v := by
  unfold duplicated
  rw [mem_sorted, mem_repeated]
  simp

/-- The report of a permutation is the same. -/
theorem duplicated_perm {values values' : List String} (h : values.Perm values') :
    duplicated values' = duplicated values := by
  unfold duplicated
  congr 1
  ext v
  rw [mem_repeated, mem_repeated, h.count_eq]
  simp

variable [UnicodeData] [Pydantic]

/-- **`duplicated` reports the values that occur twice or more**, strictly ascending, whatever
their order in the collection. Where it reports nothing, nothing repeats: so no accepted contract
repeats a role and no accepted readout a finding id, an artifact role or a digest role. -/
theorem duplicated_reports :
    (∀ values, (∀ v, v ∈ duplicated values ↔ 2 ≤ values.count v) ∧
      (duplicated values).Pairwise (· < ·) ∧ (duplicated values = [] ↔ values.Nodup) ∧
        ∀ values', values.Perm values' → duplicated values' = duplicated values) ∧
    (∀ (P : Type) (params : Json → Validated P) (j : Json) (c : BaseServiceContract P),
      BaseServiceContract.validate params j = .ok c →
        c.inputRoles.Nodup ∧ c.outputRoles.Nodup) ∧
    ∀ (payload : Bytes) (r : ModelReadout), ModelReadout.validateJson payload = .ok r →
      r.findingIds.Nodup ∧ r.artifactRoles.Nodup ∧
        (r.reproducibility.inputDigests.val.toList.map fun d => d.role.val).Nodup := by
  refine ⟨fun values => ?_, fun P params j c _ => ?_, fun payload r _ => ?_⟩
  · exact ⟨fun v => mem_duplicated, pairwise_sorted _, duplicated_eq_nil,
      fun values' h => duplicated_perm h⟩
  · exact ⟨c.inputRoles_nodup, c.outputRoles_nodup⟩
  · exact ⟨duplicated_eq_nil.mp r.findingIds_unique, duplicated_eq_nil.mp r.artifactRoles_unique,
      duplicated_eq_nil.mp r.reproducibility.inputDigests.property⟩

end Grabatus

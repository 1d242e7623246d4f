import Grabatus.Contract.Readout.Models
import Grabatus.Testing.Leaves

/-!
# The published pattern of an artifact's URI

Over `contract/readout/artifacts.py`. `ARTIFACT_URI_PATTERN` stands in the JSON Schema for the
scheme allowlist of the model. The model compares the scheme the URL parser read, which ignores
case, leading blanks and what follows the `:`; the pattern compares characters. The model bounds
the URI in bytes, a schema in characters.

**Where the two agree** (`uri_verdicts_agree_iff`): on a URI that starts with an allowed scheme and
`://`, iff it is not one of the few whose characters fit and whose bytes do not; on any other URI,
iff its scheme is not allowed after all or it is too long. `gs:payload` is none of these
(`opaque_uri_accepted`).

Out of scope: the rest of the published schema, and how a URL parser normalizes a URI, which is a
parameter.
-/

namespace Grabatus

open Grabatus.Lib Grabatus.Lib.Text Grabatus.Python

/-- `s` starts with `scheme://`. -/
def startsWithScheme (s scheme : String) : Bool :=
  (scheme.toList ++ [':', '/', '/']).isPrefixOf s.toList

/-- `re.match(ARTIFACT_URI_PATTERN, s)`, `^(gs|bigquery|secret|file)://`. -/
def artifactUriPattern (s : String) : Bool := allowedArtifactSchemes.any (startsWithScheme s)

/-- The scheme the WHATWG parser reads: leading blanks and control characters, tabs and line ends
are dropped, and upper case is lowered. -/
def whatwgScheme (s : String) : String := String.ofList (parts s.toList).scheme

/-- The allowed schemes are schemes, in lower case. -/
theorem isScheme_allowed : ∀ scheme ∈ allowedArtifactSchemes,
    isScheme scheme.toList = true ∧ scheme.toList.map Char.toLower = scheme.toList := by
  decide

/-- **What matches the pattern has an allowed scheme.** -/
theorem whatwgScheme_of_pattern {s : String} (h : artifactUriPattern s = true) :
    whatwgScheme s ∈ allowedArtifactSchemes := by
  obtain ⟨scheme, hallowed, hprefix⟩ := List.any_eq_true.mp h
  obtain ⟨hscheme, hlower⟩ := isScheme_allowed scheme hallowed
  obtain ⟨rest, hrest⟩ := List.isPrefixOf_iff_prefix.mp hprefix
  have hparts : (parts s.toList).scheme = scheme.toList := by
    rw [← hrest, List.append_assoc]
    exact (congrArg (fun p => p.scheme) (parts_of_isScheme hscheme)).trans hlower
  unfold whatwgScheme
  rw [hparts, String.ofList_toList]
  exact hallowed

section

variable [UnicodeData] [Pydantic]

/-- `ArtifactDescription` accepts `s` as its `uri`. -/
def AcceptsUri (s : String) : Prop := ∃ uri, ArtifactUri.validate (.str s) = .ok uri

omit [UnicodeData] in
/-- A URI is accepted iff it is a URL of an allowed scheme within the bound. -/
theorem acceptsUri_iff {s : String} : AcceptsUri s ↔ s.utf8ByteSize ≤ maxUriLength ∧
    ∃ url, Pydantic.anyUrl (.str s) = some url ∧ url.scheme ∈ allowedArtifactSchemes := by
  unfold AcceptsUri ArtifactUri.validate
  simp only
  constructor
  · rintro ⟨uri, h⟩
    split at h
    · exact absurd h (Validated.fail_ne_ok _ _)
    · rename_i hfits
      obtain ⟨url, hurl, h⟩ := Validated.andThen_eq_ok.mp h
      split at h
      · rename_i hallowed
        exact ⟨Nat.le_of_not_lt hfits, url, leaf_eq_ok.mp hurl, hallowed⟩
      · exact absurd h (Validated.fail_ne_ok _ _)
  · rintro ⟨hfits, url, hurl, hallowed⟩
    refine ⟨⟨url, hallowed⟩, ?_⟩
    rw [if_neg (Nat.not_lt.mpr hfits), leaf_eq_ok.mpr hurl]
    exact dif_pos hallowed

omit [UnicodeData] in
/-- **The pattern and the model reach one verdict on `s`** iff `s` is no URL, or it matches the
pattern and does not have too many bytes for its characters, or it does not match the pattern and
the model has another reason to refuse it. -/
theorem uri_verdicts_agree_iff {s : String}
    (hscheme : ∀ url, Pydantic.anyUrl (.str s) = some url → url.scheme = whatwgScheme s) :
    ((AcceptsUri s → artifactUriPattern s = true) ∧
      ((Pydantic.anyUrl (.str s)).isSome = true → s.length ≤ maxUriLength →
        artifactUriPattern s = true → AcceptsUri s)) ↔
    ((Pydantic.anyUrl (.str s)).isSome = true →
      if artifactUriPattern s = true then s.utf8ByteSize ≤ maxUriLength ∨ maxUriLength < s.length
      else whatwgScheme s ∉ allowedArtifactSchemes ∨ maxUriLength < s.utf8ByteSize) := by
  rcases hurl : Pydantic.anyUrl (.str s) with - | url
  · have hrefused : ¬ AcceptsUri s := by
      rw [acceptsUri_iff, hurl]
      rintro ⟨-, _, ⟨⟩, -⟩
    exact ⟨fun _ => nofun, fun _ => ⟨fun h => absurd h hrefused, nofun⟩⟩
  · have haccepts : AcceptsUri s ↔
        s.utf8ByteSize ≤ maxUriLength ∧ whatwgScheme s ∈ allowedArtifactSchemes := by
      rw [acceptsUri_iff, ← hscheme url hurl, hurl]
      simp only [Option.some.injEq, exists_eq_left']
    simp only [Option.isSome_some, forall_const]
    by_cases hpattern : artifactUriPattern s = true
    · -- the scheme is allowed, so only the two lengths can differ
      have hallowed := whatwgScheme_of_pattern hpattern
      rw [if_pos hpattern, haccepts]
      constructor
      · rintro ⟨-, haccept⟩
        by_cases hlength : s.length ≤ maxUriLength
        · exact .inl (haccept hlength hpattern).1
        · exact .inr (Nat.lt_of_not_le hlength)
      · intro hfits
        refine ⟨fun _ => hpattern, fun hlength _ => ⟨?_, hallowed⟩⟩
        exact hfits.resolve_right (Nat.not_lt.mpr hlength)
    · rw [if_neg hpattern, haccepts]
      constructor
      · rintro ⟨hmatches, -⟩
        by_cases hbytes : s.utf8ByteSize ≤ maxUriLength
        · exact .inl fun hallowed => hpattern (hmatches ⟨hbytes, hallowed⟩)
        · exact .inr (Nat.lt_of_not_le hbytes)
      · intro hrefused
        refine ⟨fun ⟨hbytes, hallowed⟩ => ?_, fun _ h => absurd h hpattern⟩
        rcases hrefused with h | h
        · exact absurd hallowed h
        · exact absurd h (Nat.not_lt.mpr hbytes)

end

section

attribute [local instance] UnicodeData.ascii

/-- A storage URI. -/
theorem uri_verdicts_agree_iff_gs :
    letI := Leaves.pydantic []
    AcceptsUri "gs://b/r.json" := by
  let _ := Leaves.pydantic []
  have hagree := (uri_verdicts_agree_iff (s := "gs://b/r.json") fun url hurl => by
    obtain rfl := Option.some.inj hurl
    rfl).mpr fun _ => by decide
  exact hagree.2 (by decide) (by decide) (by decide)

/-- A scheme with a payload and no `//` is accepted and does not match the pattern. -/
theorem opaque_uri_accepted :
    letI := Leaves.pydantic []
    AcceptsUri "gs:payload" ∧ artifactUriPattern "gs:payload" = false := by
  let _ := Leaves.pydantic []
  refine ⟨acceptsUri_iff.mpr ⟨by decide, _, Leaves.parseAnyUrl_text ⟨"gs:payload", by decide,
    .inl (by decide)⟩ (by decide) (by decide), by decide⟩, by decide⟩

end

end Grabatus

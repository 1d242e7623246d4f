import Grabatus.Contract.Sections
import Grabatus.Security.UriParser

/-!
# `TenantPrefixPolicy`

Model of `security/tenant_prefix_policy.py`. The default authorizer: a bucket, or the project of a
BigQuery URI, must start with `<bucket_prefix>-<tenant_id>`, and a bucket path with the segment
`user_<user_id>`; `secret` and `inline` URIs pass, every other scheme is refused.
`authorize_eq_ok` says what an accepted URI is.
-/

namespace Grabatus

open Grabatus.Lib Grabatus.Lib.Text Grabatus.Python

/-- `_TENANT_AGNOSTIC_SCHEMES`. -/
def tenantAgnosticSchemes : List String := ["secret", "inline"]

/-- `_BUCKET_SCHEMES`. -/
def bucketSchemes : List String := ["gs", "s3"]

/-- `_BIGQUERY_SCHEMES`. -/
def bigquerySchemes : List String := ["bigquery"]

/-- `TenantPrefixPolicy`. -/
structure TenantPrefixPolicy where
  bucketPrefix : String
  requireUserPathSegment : Bool

namespace TenantPrefixPolicy

/-- `f"{self.bucket_prefix}-{identity.tenant_id}"`. -/
def expectedPrefix (p : TenantPrefixPolicy) (identity : Identity) : String :=
  p.bucketPrefix ++ "-" ++ identity.tenantId.val

/-- `f"user_{user_id}"`. -/
def userSegment (identity : Identity) : String := "user_" ++ identity.userId.val

variable [UnicodeData]

/-- `_check_user_segment`. -/
def checkUserSegment (path : String) (identity : Identity) (uri : String) :
    Except PyException Unit :=
  let first := (pathSegments path.toList).head?
  if first = some (userSegment identity).toList then .ok ()
  else .error (serviceError .unauthorizedUriError
    ("path must start with user segment=" ++ pyRepr (userSegment identity) ++
      ", got first_segment=" ++ pyReprOption (first.map String.ofList) ++ "; uri=" ++ pyRepr uri))

/-- `_check_bucket_uri`. -/
def checkBucketUri (p : TenantPrefixPolicy) (uri : String) (parsed : ParsedUri)
    (identity : Identity) : Except PyException Unit :=
  if startsWith parsed.host (p.expectedPrefix identity) then
    if p.requireUserPathSegment then checkUserSegment parsed.path identity uri else .ok ()
  else .error (serviceError .unauthorizedUriError
    ("bucket=" ++ pyRepr parsed.host ++ " does not start with expected_prefix=" ++
      pyRepr (p.expectedPrefix identity) ++ " for tenant=" ++ pyRepr identity.tenantId.val ++
        "; uri=" ++ pyRepr uri))

/-- `parsed_host.split(".", 1)[0]`. -/
def bigqueryProject (host : String) : String := String.ofList (cut '.' host.toList).1

/-- `_check_bigquery_uri`. -/
def checkBigqueryUri (p : TenantPrefixPolicy) (uri : String) (parsed : ParsedUri)
    (identity : Identity) : Except PyException Unit :=
  if startsWith (bigqueryProject parsed.host) (p.expectedPrefix identity) then .ok ()
  else .error (serviceError .unauthorizedUriError
    ("bigquery project=" ++ pyRepr (bigqueryProject parsed.host) ++
      " does not start with expected_prefix=" ++ pyRepr (p.expectedPrefix identity) ++
        "; uri=" ++ pyRepr uri))

/-- `TenantPrefixPolicy.authorize`. -/
def authorize (p : TenantPrefixPolicy) (uri : String) (identity : Identity) :
    Except PyException Unit :=
  match parseUri uri with
  | .error e => .error e
  | .ok parsed =>
    if parsed.scheme ∈ tenantAgnosticSchemes then .ok ()
    else if parsed.scheme ∈ bucketSchemes then p.checkBucketUri uri parsed identity
    else if parsed.scheme ∈ bigquerySchemes then p.checkBigqueryUri uri parsed identity
    else .error (serviceError .unauthorizedUriError
      ("scheme=" ++ pyRepr parsed.scheme ++ " not authorized by TenantPrefixPolicy; uri=" ++
        pyRepr uri))

/-- What the policy asks of the parts of a URI. -/
structure Grants (p : TenantPrefixPolicy) (identity : Identity) (parsed : ParsedUri) : Prop where
  known : parsed.scheme ∈ tenantAgnosticSchemes ∨ parsed.scheme ∈ bucketSchemes ∨
    parsed.scheme ∈ bigquerySchemes
  bucket : parsed.scheme ∈ bucketSchemes →
    startsWith parsed.host (p.expectedPrefix identity) = true
  user : parsed.scheme ∈ bucketSchemes → p.requireUserPathSegment = true →
    (pathSegments parsed.path.toList).head? = some (userSegment identity).toList
  project : parsed.scheme ∈ bigquerySchemes →
    startsWith (bigqueryProject parsed.host) (p.expectedPrefix identity) = true

/-- **What an authorized URI is.** -/
theorem authorize_eq_ok {p : TenantPrefixPolicy} {uri : String} {identity : Identity} :
    p.authorize uri identity = .ok () ↔
      ∃ parsed, parseUri uri = .ok parsed ∧ p.Grants identity parsed := by
  unfold authorize
  rcases parseUri uri with e | parsed
  · exact ⟨nofun, by rintro ⟨_, h, -⟩; exact nomatch h⟩
  · dsimp only
    constructor
    · intro h
      refine ⟨parsed, rfl, ?_⟩
      split at h
      · rename_i hs
        have hb : parsed.scheme ∉ bucketSchemes := fun hb => by
          simp only [tenantAgnosticSchemes, bucketSchemes, List.mem_cons, List.not_mem_nil,
            or_false] at hs hb
          rcases hs with hs | hs <;> rcases hb with hb | hb <;>
            exact absurd (hs.symm.trans hb) (by decide)
        have hq : parsed.scheme ∉ bigquerySchemes := fun hq => by
          simp only [tenantAgnosticSchemes, bigquerySchemes, List.mem_cons, List.not_mem_nil,
            or_false] at hs hq
          rcases hs with hs | hs <;> exact absurd (hs.symm.trans hq) (by decide)
        exact ⟨.inl hs, fun h => absurd h hb, fun h => absurd h hb, fun h => absurd h hq⟩
      · split at h
        · rename_i hb
          have hq : parsed.scheme ∉ bigquerySchemes := fun hq => by
            simp only [bucketSchemes, bigquerySchemes, List.mem_cons, List.not_mem_nil,
              or_false] at hb hq
            rcases hb with hb | hb <;> exact absurd (hb.symm.trans hq) (by decide)
          unfold checkBucketUri at h
          split at h
          · rename_i hpre
            refine ⟨.inr (.inl hb), fun _ => hpre, fun _ hreq => ?_, fun h => absurd h hq⟩
            rw [if_pos hreq] at h
            unfold checkUserSegment at h
            dsimp only at h
            split at h
            · assumption
            · exact absurd h nofun
          · exact absurd h nofun
        · rename_i hb
          split at h
          · rename_i hq
            unfold checkBigqueryUri at h
            split at h
            · rename_i hpre
              exact ⟨.inr (.inr hq), fun h => absurd h hb, fun h => absurd h hb, fun _ => hpre⟩
            · exact absurd h nofun
          · exact absurd h nofun
    · rintro ⟨_, ⟨rfl⟩, hg⟩
      split
      · rfl
      · rename_i hs
        split
        · rename_i hb
          unfold checkBucketUri checkUserSegment
          rw [if_pos (hg.bucket hb)]
          split
          · rename_i hreq
            rw [if_pos (hg.user hb hreq)]
          · rfl
        · rename_i hb
          split
          · rename_i hq
            unfold checkBigqueryUri
            rw [if_pos (hg.project hq)]
          · rename_i hq
            exact absurd hg.known (by simp [hs, hb, hq])

end TenantPrefixPolicy

end Grabatus

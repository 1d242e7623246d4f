import Grabatus.Security.Isolation

/-!
# Whose object an object is

Over `security/tenant_prefix_policy.py` and `adapters/storage_gcs.py`. `TenantPrefixPolicy` judges
a URI; what a run acts on is the object `GcsStorage` cuts out of the text. An identity `Owns` the
objects of a bucket under its tenant's prefix whose name has the user's segment first, up to the
first `/`, `?` or `#`. Tabs and line breaks in a name count for nothing: `urlsplit` does not see
them.

* **An authorized `gs` URI names an object of the identity** (`owns_of_authorize`), also where the
  policy and the adapter read two different objects in it.
* **An object has one user, in related tenants** (`separated_of_owns`).
-/

namespace Grabatus

open Grabatus.Lib Grabatus.Lib.Text Grabatus.Python

/-- A name as `urlsplit` reads it. -/
def readName (name : String) : String := String.ofList (name.toList.filter (!isUnsafe ·))

/-- The object, a bucket and a name, is one of the identity's. -/
structure TenantPrefixPolicy.Owns (p : TenantPrefixPolicy) (identity : Identity)
    (object : String × String) : Prop where
  tenant : startsWith (readName object.1) (p.expectedPrefix identity) = true
  user : upTo isDelim (readName object.2).toList = (userSegment identity).toList

instance (p : TenantPrefixPolicy) (identity : Identity) (object : String × String) :
    Decidable (p.Owns identity object) :=
  decidable_of_iff (startsWith (readName object.1) (p.expectedPrefix identity) = true ∧
    upTo isDelim (readName object.2).toList = (TenantPrefixPolicy.userSegment identity).toList)
    ⟨fun h => ⟨h.1, h.2⟩, fun h => ⟨h.tenant, h.user⟩⟩

/-- Two identities that are one user of related tenants. -/
def SameOwner (a b : Identity) : Prop := a.userId = b.userId ∧ TenantsRelated a b

/-- **An object has one user, in related tenants.** -/
theorem TenantPrefixPolicy.separated_of_owns {p : TenantPrefixPolicy} {a b : Identity}
    {object : String × String} (ha : p.Owns a object) (hb : p.Owns b object) : SameOwner a b :=
  ⟨userSegment_inj (ha.user.symm.trans hb.user), tenantsRelated_of_startsWith ha.tenant hb.tenant⟩

/-- A path of nothing but slashes has no first segment. -/
theorem head_pathSegments_slash (segment : List Char) :
    (pathSegments ['/']).head? ≠ some segment := by
  have hnone : (pathSegments ['/']).head? = none := by decide
  rw [hnone]
  exact nofun

/-- The first segment of a path that is cut off at `?` or `#` is what stands before the first
`/`, `?` or `#`. -/
theorem first_segment_of_splitTail {blob segment : List Char}
    (hdouble : hasDoubleSlash (splitTail ('/' :: blob)).1 = false)
    (hfirst : (pathSegments (splitTail ('/' :: blob)).1).head? = some segment) :
    upTo isDelim blob = segment := by
  have hpath : (splitTail ('/' :: blob)).1 = '/' :: upTo isPathEnd blob := by
    rw [splitTail_path, show '/' :: blob = ['/'] ++ blob from rfl, upTo_append_of_not (by decide)]
    rfl
  have hdelim : upTo isDelim blob = (cut '/' (upTo isPathEnd blob)).1 := by
    rw [cut_fst, upTo_upTo]
    congr 1
    funext c
    simp only [isDelim, isPathEnd, Bool.or_assoc]
  rw [hpath] at hdouble hfirst
  have hne : upTo isPathEnd blob ≠ [] := fun h => by
    rw [h] at hfirst
    exact head_pathSegments_slash segment hfirst
  rw [first_pathSegment hne hdouble, Option.some.injEq] at hfirst
  rw [hdelim, hfirst]

variable [UnicodeData]

/-- **The object of an authorized URI is one of the identity's.** -/
theorem TenantPrefixPolicy.owns_of_authorize {p : TenantPrefixPolicy}
    (hreq : p.requireUserPathSegment = true) {uri : String} {identity : Identity}
    {object : String × String} (hauth : p.authorize uri identity = .ok ())
    (hgs : parseGsUri uri = .ok object) : p.Owns identity object := by
  rcases object with ⟨bucket, blob⟩
  obtain ⟨parsed, hparsed, hg⟩ := authorize_eq_ok.mp hauth
  obtain ⟨huri, hslash, -, -⟩ := parseGsUri_eq_ok.mp hgs
  have hshape := toList_of_parseGsUri huri
  obtain ⟨hscheme, hhost, hpath, hdouble, -⟩ := parseUri_of_gs hparsed hshape
  have hbucket : parsed.scheme ∈ bucketSchemes := by
    rw [hscheme]
    decide
  have hfirst := hg.user hbucket hreq
  have hhost' := hg.bucket hbucket
  -- the text behind the scheme, without what `urlsplit` drops
  have hrest : ('/' :: '/' :: (bucket.toList ++ '/' :: blob.toList)).filter (!isUnsafe ·) =
      '/' :: '/' :: ((readName bucket).toList ++ '/' :: (readName blob).toList) := by
    have hslash : ∀ l, List.filter (!isUnsafe ·) ('/' :: l) = '/' :: l.filter (!isUnsafe ·) :=
      fun _ => List.filter_cons_of_pos rfl
    simp only [readName, String.toList_ofList, List.filter_append, hslash]
  have hnetloc : ∀ l, splitNetloc ('/' :: '/' :: l) = (upTo isDelim l, onward isDelim l) :=
    fun _ => rfl
  rw [hshape, parts_of_isScheme (by decide), hrest] at hhost hpath
  simp only [hnetloc] at hhost hpath
  have hslash : '/' ∉ (readName bucket).toList := fun h => by
    rw [readName, String.toList_ofList] at h
    exact hslash (List.mem_filter.mp h).1
  by_cases hdelim : ∀ c ∈ (readName bucket).toList, isDelim c = false
  · rw [onward_append_of_not hdelim, onward_cons_of_sep rfl] at hpath
    rw [upTo_append_of_not hdelim, upTo_cons_of_sep rfl, List.append_nil] at hhost
    rw [hpath] at hdouble hfirst
    exact ⟨String.toList_inj.mp hhost ▸ hhost', first_segment_of_splitTail hdouble hfirst⟩
  · -- the bucket holds a `?` or `#`: nothing is left of the path
    simp only [not_forall] at hdelim
    obtain ⟨c, hc, hsep⟩ := hdelim
    obtain ⟨d, t, hd, hsep, honward⟩ :=
      onward_append_of_mem (r := '/' :: (readName blob).toList) hc (by simpa using hsep)
    have hend : isPathEnd d = true := by
      have hne : d ≠ '/' := fun h => hslash (h ▸ hd)
      simpa [isDelim, isPathEnd, hne] using hsep
    rw [honward, splitTail_path, upTo_cons_of_sep hend] at hpath
    rw [hpath] at hfirst
    exact absurd hfirst (by simp [pathSegments])

/-- A URI that `GcsStorage` cuts into another object than the policy judged: it is the user's own,
all the same. -/
example : @TenantPrefixPolicy.Owns ⟨"gbt-storage", true⟩ ⟨⟨"1", by decide⟩, ⟨"t", by decide⟩⟩
    ("gbt-storage-t", "user_1/x?/../../user_2/y") := by decide

end Grabatus

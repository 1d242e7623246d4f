import Grabatus.Adapters.StorageGcs
import Grabatus.Security.TenantPrefixPolicy

/-!
# What a tenant can reach

Over `security/tenant_prefix_policy.py`, `security/uri_parser.py` and `_parse_gs_uri`
(`adapters/storage_gcs.py`). The policy judges the parts `parse_uri` reads; the storage adapter
acts on the parts `_parse_gs_uri` cuts.

* **Two identities that may both use a bucket URI are one user of related tenants**
  (`authorize_separates`): the tenant of one is a prefix of the other's. A BigQuery URI separates
  tenants the same way, and no scheme but the five known ones is ever authorized.
* **The adapter acts on the object the policy judged exactly when the URI has no `?`, `#`, tab,
  carriage return or line feed** (`gcs_object_is_judged`). Past one of these letters the policy
  reads a query, a fragment or nothing, and the adapter more of the object's name.
-/

namespace Grabatus

open Grabatus.Lib Grabatus.Lib.Text Grabatus.Python

/-! ## Two identities -/

/-- One tenant's id is a prefix of the other's. -/
def TenantsRelated (a b : Identity) : Prop :=
  a.tenantId.val.toList <+: b.tenantId.val.toList ∨
    b.tenantId.val.toList <+: a.tenantId.val.toList

instance (a b : Identity) : Decidable (TenantsRelated a b) := by
  unfold TenantsRelated
  exact inferInstance

/-- Two expected prefixes of one name are prefixes of each other, so their tenants are related. -/
theorem tenantsRelated_of_startsWith {p : TenantPrefixPolicy} {a b : Identity} {host : String}
    (ha : startsWith host (p.expectedPrefix a) = true)
    (hb : startsWith host (p.expectedPrefix b) = true) : TenantsRelated a b := by
  have ha := startsWith_iff.mp ha
  have hb := startsWith_iff.mp hb
  simp only [TenantPrefixPolicy.expectedPrefix, String.toList_append] at ha hb
  rcases List.prefix_or_prefix_of_prefix ha hb with h | h
  · exact .inl ((List.prefix_append_right_inj _).mp h)
  · exact .inr ((List.prefix_append_right_inj _).mp h)

/-- The user segment determines the user. -/
theorem userSegment_inj {a b : Identity}
    (h : (TenantPrefixPolicy.userSegment a).toList = (TenantPrefixPolicy.userSegment b).toList) :
    a.userId = b.userId := by
  simp only [TenantPrefixPolicy.userSegment, String.toList_append,
    List.append_cancel_left_eq] at h
  exact Str.ext (String.toList_inj.mp h)

section

variable [UnicodeData]

/-- **Tenant and user isolation**: what two identities may both use. -/
theorem authorize_separates {p : TenantPrefixPolicy} (hreq : p.requireUserPathSegment = true)
    {uri : String} {parsed : ParsedUri} (hparsed : parseUri uri = .ok parsed) :
    (∀ a b, p.authorize uri a = .ok () → p.authorize uri b = .ok () →
      (parsed.scheme ∈ bucketSchemes → a.userId = b.userId ∧ TenantsRelated a b) ∧
        (parsed.scheme ∈ bigquerySchemes → TenantsRelated a b)) ∧
    (parsed.scheme ∉ ["gs", "s3", "bigquery", "secret", "inline"] →
      ∀ a, p.authorize uri a ≠ .ok ()) := by
  have hgrants : ∀ {a}, p.authorize uri a = .ok () → p.Grants a parsed := fun ha => by
    obtain ⟨parsed', hparsed', hg⟩ := TenantPrefixPolicy.authorize_eq_ok.mp ha
    rw [hparsed] at hparsed'
    obtain rfl := Except.ok.inj hparsed'
    exact hg
  refine ⟨fun a b ha hb => ⟨fun hs => ⟨?_, ?_⟩, fun hs => ?_⟩, fun hs a ha => hs ?_⟩
  · have h := ((hgrants ha).user hs hreq).symm.trans ((hgrants hb).user hs hreq)
    exact userSegment_inj (Option.some.inj h)
  · exact tenantsRelated_of_startsWith ((hgrants ha).bucket hs) ((hgrants hb).bucket hs)
  · exact tenantsRelated_of_startsWith ((hgrants ha).project hs) ((hgrants hb).project hs)
  · have h := (hgrants ha).known
    simp only [tenantAgnosticSchemes, bucketSchemes, bigquerySchemes, List.mem_cons,
      List.not_mem_nil, or_false] at h ⊢
    rcases h with (h | h) | (h | h) | h <;> simp [h]

end

/-- Two users' tenants, one a prefix of the other, on a bucket both may use. -/
theorem authorize_separates_acme : TenantsRelated
    ⟨⟨"1", by decide⟩, ⟨"ac", by decide⟩⟩ ⟨⟨"1", by decide⟩, ⟨"acme", by decide⟩⟩ :=
  (((@authorize_separates UnicodeData.ascii ⟨"gbt-storage", true⟩ rfl
    "gs://gbt-storage-acme/user_1/f" ⟨"gs", "gbt-storage-acme", "/user_1/f"⟩ (by decide)).1
      ⟨⟨"1", by decide⟩, ⟨"ac", by decide⟩⟩ ⟨⟨"1", by decide⟩, ⟨"acme", by decide⟩⟩
        (by decide) (by decide)).1 (by decide)).2

/-! ## The object judged and the object used -/

/-- The adapter acts on the object the policy judged: the same bucket and name, under the tenant's
prefix and the user's segment, without traversal. -/
structure JudgedObject (p : TenantPrefixPolicy) (identity : Identity) (parsed : ParsedUri)
    (bucket blob : String) : Prop where
  bucket_eq : bucket = parsed.host
  blob_eq : "/" ++ blob = parsed.path
  tenant : startsWith bucket (p.expectedPrefix identity) = true
  user : blob = TenantPrefixPolicy.userSegment identity ∨
    startsWith blob (TenantPrefixPolicy.userSegment identity ++ "/") = true
  traversal : traversalSegment ∉ blob.toList.splitOn '/'
  slashes : hasDoubleSlash blob.toList = false

theorem hasDoubleSlash_tail {c : Char} {l : List Char} (h : hasDoubleSlash (c :: l) = false) :
    hasDoubleSlash l = false := by
  unfold hasDoubleSlash at h
  split at h
  · exact absurd h nofun
  · rename_i heq
    exact (List.cons.inj heq).2 ▸ h
  · rename_i heq
    exact absurd heq nofun

/-- The first segment of a path without `//` is what stands between its first two slashes. -/
theorem first_pathSegment {blob : List Char} (hne : blob ≠ [])
    (hs : hasDoubleSlash ('/' :: blob) = false) :
    (pathSegments ('/' :: blob)).head? = some (cut '/' blob).1 := by
  have hseg : (cut '/' blob).1 ≠ [] := by
    rcases blob with - | ⟨c, l⟩
    · exact absurd rfl hne
    · have hc : c ≠ '/' := by
        rintro rfl
        exact absurd hs (by simp [hasDoubleSlash])
      simp [cut, hc]
  have hsplit : ∃ rest, blob.splitOn '/' = (cut '/' blob).1 :: rest := by
    rcases hcut : cut '/' blob with ⟨pre, - | rest⟩
    · have hpre : pre = blob := by
        rw [cut_of_not_mem (cut_snd_eq_none.mp (by rw [hcut]))] at hcut
        exact (congrArg Prod.fst hcut).symm
      have hmem : '/' ∉ blob := cut_snd_eq_none.mp (by rw [hcut])
      exact ⟨[], by rw [List.splitOn_eq_singleton hmem, hpre]⟩
    · obtain ⟨hb, hmem⟩ := eq_of_cut_some hcut
      exact ⟨rest.splitOn '/', by rw [hb, List.splitOn_append_cons_self_of_not_mem hmem]⟩
  obtain ⟨rest, hrest⟩ := hsplit
  unfold pathSegments
  rw [show ('/' :: blob) = [] ++ '/' :: blob from rfl,
    List.splitOn_append_cons_self_of_not_mem (by simp), hrest]
  simp [hseg]

theorem slash_toList : "/".toList = ['/'] := by decide

theorem gs_toList : "gs".toList.map Char.toLower = "gs".toList := by decide

/-- The letters that `urlparse` stops at or drops, one by one. -/
theorem forall_isPathChar {l : List Char} :
    (∀ c ∈ ['?', '#', '\t', '\r', '\n'], c ∉ l) ↔ ∀ c ∈ l, isPathChar c = true := by
  simp only [List.forall_mem_cons, List.not_mem_nil, false_imp_iff, implies_true, and_true,
    isPathChar, isUnsafe, Bool.and_eq_true, Bool.not_eq_true', Bool.or_eq_false_iff,
    beq_eq_false_iff_ne, bne_iff_ne]
  constructor
  · rintro ⟨hq, hf, ht, hr, hn⟩ c hc
    exact ⟨⟨⟨⟨fun h => ht (h ▸ hc), fun h => hr (h ▸ hc)⟩, fun h => hn (h ▸ hc)⟩,
      fun h => hq (h ▸ hc)⟩, fun h => hf (h ▸ hc)⟩
  · intro h
    exact ⟨fun hc => (h _ hc).1.2 rfl, fun hc => (h _ hc).2 rfl, fun hc => (h _ hc).1.1.1.1 rfl,
      fun hc => (h _ hc).1.1.1.2 rfl, fun hc => (h _ hc).1.1.2 rfl⟩

/-- The text of a URI the adapter accepts. -/
theorem toList_of_parseGsUri {uri bucket blob : String}
    (h : uri.toList = "gs://".toList ++ bucket.toList ++ '/' :: blob.toList) :
    uri.toList = "gs".toList ++ ':' :: '/' :: '/' :: (bucket.toList ++ '/' :: blob.toList) := by
  rw [h, show "gs://".toList = "gs".toList ++ [':', '/', '/'] by decide]
  simp only [List.append_assoc, List.cons_append, List.nil_append]

section

variable [UnicodeData]

theorem lower_gs : lower (String.ofList "gs".toList) = "gs" := by
  unfold lower
  rw [if_pos (by decide)]
  decide

/-- What `parse_uri` reads of a URI that starts with `gs://`. -/
theorem parseUri_of_gs {uri : String} {parsed : ParsedUri} {rest : List Char}
    (hparsed : parseUri uri = .ok parsed) (hshape : uri.toList = "gs".toList ++ ':' :: rest) :
    parsed.scheme = "gs" ∧ parsed.host.toList = (parts uri.toList).netloc ∧
      parsed.path.toList = (parts uri.toList).path ∧
        hasDoubleSlash parsed.path.toList = false ∧
          traversalSegment ∉ pathSegments parsed.path.toList := by
  obtain ⟨r, hr, -, -, hdouble, htrav, rfl⟩ := parseUri_eq_ok.mp hparsed
  obtain ⟨-, hscheme, hnetloc, hpath⟩ := urlparse_eq_ok hr
  have hs : r.scheme = "gs".toList := by
    rw [hscheme, hshape, parts_of_isScheme (by decide)]
    exact gs_toList
  have hpath := hpath (by rw [hs]; decide)
  simp only [String.toList_ofList]
  refine ⟨by rw [hs, lower_gs], hnetloc, hpath, hdouble, htrav⟩

/-- A judged object has no letter that `urlparse` stops at or drops. -/
theorem isPathChar_of_judged {p : TenantPrefixPolicy} {uri bucket blob : String}
    {identity : Identity} {parsed : ParsedUri} (hparsed : parseUri uri = .ok parsed)
    (huri : uri.toList = "gs://".toList ++ bucket.toList ++ '/' :: blob.toList)
    (hobj : JudgedObject p identity parsed bucket blob) :
    ∀ c ∈ uri.toList, isPathChar c = true := by
  obtain ⟨-, hhost, hpath, -, -⟩ := parseUri_of_gs hparsed (toList_of_parseGsUri huri)
  have hb : bucket.toList = (parts uri.toList).netloc := by rw [hobj.bucket_eq, hhost]
  have hp : '/' :: blob.toList = (parts uri.toList).path := by
    rw [← hpath, ← hobj.blob_eq, String.toList_append, slash_toList, List.singleton_append]
  have hhead : ∀ c ∈ "gs://".toList, isPathChar c = true := by decide
  intro c hc
  rw [huri] at hc
  simp only [List.mem_append, List.mem_cons] at hc
  rcases hc with (hc | hc) | rfl | hc
  · exact hhead c hc
  · exact (Bool.and_eq_true_iff.mp (isSegmentChar_of_mem_netloc (hb ▸ hc))).1
  · rfl
  · exact isPathChar_of_mem_path (hp ▸ List.mem_cons_of_mem _ hc)

/-- Without such a letter, the two readings are one and the policy's checks hold of it. -/
theorem judged_of_isPathChar {p : TenantPrefixPolicy} (hreq : p.requireUserPathSegment = true)
    {uri bucket blob : String} {identity : Identity} {parsed : ParsedUri}
    (hparsed : parseUri uri = .ok parsed) (hg : p.Grants identity parsed)
    (huri : uri.toList = "gs://".toList ++ bucket.toList ++ '/' :: blob.toList)
    (hslash : '/' ∉ bucket.toList) (hblob : blob.toList ≠ [])
    (hall : ∀ c ∈ uri.toList, isPathChar c = true) :
    JudgedObject p identity parsed bucket blob := by
  have hshape := toList_of_parseGsUri huri
  obtain ⟨hscheme, hhost, hpath, hdouble, htrav⟩ := parseUri_of_gs hparsed hshape
  have hmem : ∀ c, c ∈ bucket.toList ∨ c ∈ blob.toList → isPathChar c = true := fun c hc =>
    hall c (by rw [huri]; rcases hc with hc | hc <;> simp [hc])
  have hparts := parts_of_authority (s := "gs".toList) (by decide)
    (fun c (hc : c ∈ bucket.toList) => by
      have hne : c ≠ '/' := fun h => hslash (h ▸ hc)
      simp [isSegmentChar, hmem c (.inl hc), hne])
    fun c (hc : c ∈ blob.toList) => hmem c (.inr hc)
  rw [← hshape] at hparts
  rw [hparts] at hhost hpath
  have hhost : parsed.host = bucket := String.toList_inj.mp hhost
  rw [hpath] at hdouble htrav
  have hbucket : parsed.scheme ∈ bucketSchemes := by
    rw [hscheme]
    decide
  refine ⟨hhost.symm, ?_, ?_, ?_, ?_, hasDoubleSlash_tail hdouble⟩
  · exact String.toList_inj.mp
      (by rw [String.toList_append, slash_toList, List.singleton_append, hpath])
  · rw [← hhost]
    exact hg.bucket hbucket
  · have hfirst := hg.user hbucket hreq
    rw [hpath, first_pathSegment hblob hdouble, Option.some.injEq] at hfirst
    rcases hcut : cut '/' blob.toList with ⟨pre, - | rest⟩
    · have hno : '/' ∉ blob.toList := cut_snd_eq_none.mp (by rw [hcut])
      rw [cut_of_not_mem hno] at hfirst
      exact .inl (String.toList_inj.mp hfirst)
    · rw [hcut] at hfirst
      obtain ⟨hb, -⟩ := eq_of_cut_some hcut
      refine .inr (startsWith_iff.mpr ⟨rest, ?_⟩)
      rw [hb, String.toList_append, ← hfirst, slash_toList, List.append_assoc,
        List.singleton_append]
  · have hsplit : '/' :: blob.toList = [] ++ '/' :: blob.toList := rfl
    unfold pathSegments at htrav
    rw [hsplit, List.splitOn_append_cons_self_of_not_mem (by simp)] at htrav
    exact fun hm => htrav (List.mem_filter.mpr ⟨List.mem_cons_of_mem _ hm, by decide⟩)

/-- **The object `GcsStorage` acts on is the object the policy judged**, exactly when the URI has
no letter that `urlparse` stops at or drops. -/
theorem gcs_object_is_judged {p : TenantPrefixPolicy} (hreq : p.requireUserPathSegment = true)
    {uri bucket blob : String} {identity : Identity} (hauth : p.authorize uri identity = .ok ())
    (hgs : parseGsUri uri = .ok (bucket, blob)) :
    (∃ parsed, parseUri uri = .ok parsed ∧ JudgedObject p identity parsed bucket blob) ↔
      ∀ c ∈ ['?', '#', '\t', '\r', '\n'], c ∉ uri.toList := by
  obtain ⟨huri, hslash, -, hblob⟩ := parseGsUri_eq_ok.mp hgs
  rw [forall_isPathChar]
  constructor
  · rintro ⟨parsed, hparsed, hobj⟩
    exact isPathChar_of_judged hparsed huri hobj
  · intro hall
    obtain ⟨parsed, hparsed, hg⟩ := TenantPrefixPolicy.authorize_eq_ok.mp hauth
    exact ⟨parsed, hparsed, judged_of_isPathChar hreq hparsed hg huri hslash
      (fun h => hblob (String.toList_inj.mp h)) hall⟩

end

/-- Traversal behind a `?`: the policy sees `/user_1/x`, the adapter climbs out of it. -/
theorem gcs_object_not_judged : ∃ (p : TenantPrefixPolicy) (identity : Identity)
    (uri bucket blob : String), p.requireUserPathSegment = true ∧
      @TenantPrefixPolicy.authorize UnicodeData.ascii p uri identity = .ok () ∧
        @parseGsUri UnicodeData.ascii uri = .ok (bucket, blob) ∧
          ¬ ∃ parsed, @parseUri UnicodeData.ascii uri = .ok parsed ∧
            JudgedObject p identity parsed bucket blob := by
  refine ⟨⟨"gbt-storage", true⟩, ⟨⟨"1", by decide⟩, ⟨"t", by decide⟩⟩,
    "gs://gbt-storage-t/user_1/x?/../../user_2/y", "gbt-storage-t", "user_1/x?/../../user_2/y",
    rfl, by decide, by decide, ?_⟩
  rintro ⟨parsed, -, hobj⟩
  exact hobj.traversal (by decide)

/-- A plain object, judged. -/
theorem gcs_object_is_judged_plain : ∃ parsed,
    @parseUri UnicodeData.ascii "gs://gbt-storage-t/user_1/x" = .ok parsed ∧
      JudgedObject ⟨"gbt-storage", true⟩ ⟨⟨"1", by decide⟩, ⟨"t", by decide⟩⟩ parsed
        "gbt-storage-t" "user_1/x" :=
  (@gcs_object_is_judged UnicodeData.ascii ⟨"gbt-storage", true⟩ rfl
    "gs://gbt-storage-t/user_1/x" "gbt-storage-t" "user_1/x"
      ⟨⟨"1", by decide⟩, ⟨"t", by decide⟩⟩ (by decide) (by decide)).mpr (by decide)

end Grabatus

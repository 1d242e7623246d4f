import Grabatus.Contract.Pydantic

/-!
# `SecretRef`

Model of `contract/secret_ref.py`. A reference to a secret, written
`secret://<provider>/<name>[/<version>]`. A document may also give it as an object with the three
fields, whose characters are not restricted; JSON dumping always collapses it to the URI
(`toUri`).

* `UriSafe` is the condition on the fields under which the URI still says them: no letter that
  `urlparse` drops or stops at, and a provider that passes the netloc checks.
* **The collapsed form reads back as the same reference exactly when it is `UriSafe`**
  (`validate_toUri`), which every reference read from a URI is (`uriSafe_of_validate`).
* **`to_uri` is a canonical form of the URIs that are accepted** (`toUri_canonical`).
-/

namespace Grabatus

open Grabatus.Lib Grabatus.Lib.Text Grabatus.Python

namespace SecretRef

/-- `provider: str = Field(min_length=1, max_length=64)`. -/
abbrev providerSpec : StrSpec := { minLength := 1, maxLength := some 64 }

/-- `name: str = Field(min_length=1, max_length=128)`. -/
abbrev nameSpec : StrSpec := { minLength := 1, maxLength := some 128 }

/-- `version: str = Field(default="latest", min_length=1, max_length=32)`. -/
abbrev versionSpec : StrSpec := { minLength := 1, maxLength := some 32 }

/-- `_DEFAULT_VERSION`. -/
def defaultVersion : Str versionSpec := ⟨"latest", by decide⟩

end SecretRef

/-- A typed reference to a secret stored in a secret manager. -/
structure SecretRef where
  provider : Str SecretRef.providerSpec
  name : Str SecretRef.nameSpec
  version : Str SecretRef.versionSpec
  deriving DecidableEq

namespace SecretRef

/-- `to_uri`: the canonical URI form. -/
def toUri (r : SecretRef) : String :=
  if r.version.val = "latest" then "secret://" ++ r.provider.val ++ "/" ++ r.name.val
  else "secret://" ++ r.provider.val ++ "/" ++ r.name.val ++ "/" ++ r.version.val

/-- The fields of a reference given as an object. -/
def fields : Json → Validated SecretRef :=
  model ["provider", "name", "version"] fun o =>
    SecretRef.mk <$> field o "provider" (str providerSpec) <*> field o "name" (str nameSpec) <*>
      fieldOr o "version" defaultVersion (str versionSpec)

section

variable [UnicodeData]

/-- `_parse_secret_uri`; an error is the text of its `ValueError`. -/
def parseSecretUri (uri : String) : Except String JsonObject := do
  let parsed ← urlparse uri.toList
  if parsed.scheme ≠ "secret".toList then
    .error ("SecretRef requires scheme='secret://', got scheme=" ++
      pyRepr (String.ofList parsed.scheme))
  else if parsed.netloc = [] then
    .error ("SecretRef requires a provider after 'secret://', got uri=" ++ pyRepr uri)
  else
    let path := parsed.path.dropWhile (· == '/')
    if path = [] then
      .error ("SecretRef requires a secret name in the path, got uri=" ++ pyRepr uri)
    else
      let version := match (cut '/' path).2 with
        | some version => String.ofList version
        | none => "latest"
      .ok [("provider", .str (String.ofList parsed.netloc)),
        ("name", .str (String.ofList (cut '/' path).1)), ("version", .str version)]

/-- `model_validate`, with the `mode="before"` validator `_parse_uri`. -/
def validate : Json → Validated SecretRef
  | .str uri =>
    match parseSecretUri uri with
    | .ok o => fields (.obj o)
    | .error message => .fail (.value message)
  | j => fields j

end

/-- `_serialize_for_json`. -/
def dump (r : SecretRef) : Json := .str r.toUri

/-! ## The round trip -/

/-- The URI form still says the fields. -/
structure UriSafe [UnicodeData] (r : SecretRef) : Prop where
  provider : ∀ c ∈ r.provider.val.toList, isSegmentChar c = true
  brackets : checkBrackets r.provider.val.toList = .ok ()
  netloc : checkNetloc r.provider.val.toList = .ok ()
  name : ∀ c ∈ r.name.val.toList, isSegmentChar c = true
  version : r.version.val ≠ "latest" → ∀ c ∈ r.version.val.toList, isPathChar c = true

/-- The fields read from a name and version path. -/
def pathFields (provider path : List Char) : JsonObject :=
  let version := match (cut '/' path).2 with
    | some version => String.ofList version
    | none => "latest"
  [("provider", .str (String.ofList provider)), ("name", .str (String.ofList (cut '/' path).1)),
    ("version", .str version)]

theorem secret_not_mem_usesParams : "secret".toList ∉ usesParams := by decide

/-- The fields of a reference, from its URI. -/
theorem fields_pathFields {provider path : List Char} {r : SecretRef} :
    fields (.obj (pathFields provider path)) = .ok r ↔
      r.provider.val = String.ofList provider ∧ r.name.val = String.ofList (cut '/' path).1 ∧
        r.version.val = match (cut '/' path).2 with
          | some version => String.ofList version
          | none => "latest" := by
  unfold fields
  simp only [model_eq_ok, Json.obj.injEq, Validated.seq_eq_ok, Validated.map_eq_ok, field_eq_ok,
    fieldOr_eq_ok, str_eq_ok]
  constructor
  · rintro ⟨_, rfl, ⟨_, v, ⟨_, n, ⟨p, ⟨_, hp, rfl⟩, rfl⟩, ⟨_, hn, rfl⟩, rfl⟩, hv, rfl⟩, -⟩
    obtain ⟨_, hv, rfl⟩ | ⟨hv, -⟩ := hv
    · simp [pathFields, Dict.lookup] at hp hn hv
      exact ⟨hp.symm, hn.symm, hv.symm⟩
    · simp [pathFields, Dict.lookup] at hv
  · rintro ⟨hp, hn, hv⟩
    refine ⟨_, rfl, ⟨_, r.version, ⟨_, r.name, ⟨r.provider, ⟨_, rfl, ?_⟩, rfl⟩, ⟨_, rfl, ?_⟩, rfl⟩,
      .inl ⟨_, rfl, ?_⟩, rfl⟩, ?_⟩
    · rw [hp]
    · rw [hn]
    · rw [hv]
    · simp [pathFields]

theorem toUri_toList (r : SecretRef) : r.toUri.toList =
    "secret".toList ++ ':' :: '/' :: '/' :: (r.provider.val.toList ++ '/' ::
      if r.version.val = "latest" then r.name.val.toList
      else r.name.val.toList ++ '/' :: r.version.val.toList) := by
  have hpre : "secret://".toList = "secret".toList ++ [':', '/', '/'] := by decide
  have hsep : "/".toList = ['/'] := by decide
  unfold toUri
  split <;> simp only [String.toList_append, hpre, hsep, List.append_assoc, List.cons_append,
    List.nil_append]

theorem toList_ne_nil {c : StrSpec} (hc : 1 ≤ c.minLength) (s : Str c) : s.val.toList ≠ [] := by
  intro h
  have hlen := (StrSpec.check_eq_none.mp s.ok).1
  rw [← String.length_toList, h] at hlen
  exact absurd (le_trans hc hlen) (by decide)

/-- The text after the authority, without the slashes it starts with. -/
theorem dropWhile_slash {n l : List Char} (hn : n ≠ []) (h : '/' ∉ n) :
    ('/' :: (n ++ l)).dropWhile (· == '/') = n ++ l := by
  rcases n with - | ⟨a, n⟩
  · exact absurd rfl hn
  · have ha : a ≠ '/' := fun h' => h (h' ▸ List.mem_cons_self)
    rw [List.dropWhile_cons_of_pos rfl, List.cons_append, List.dropWhile_cons_of_neg (by simp [ha])]

section

variable [UnicodeData]

/-- What an accepted secret URI is made of. -/
theorem parseSecretUri_eq_ok {uri : String} {o : JsonObject} : parseSecretUri uri = .ok o ↔
    urlsplit uri.toList = .ok (parts uri.toList) ∧ (parts uri.toList).scheme = "secret".toList ∧
      (parts uri.toList).netloc ≠ [] ∧
        (parts uri.toList).path.dropWhile (· == '/') ≠ [] ∧
          o = pathFields (parts uri.toList).netloc
            ((parts uri.toList).path.dropWhile (· == '/')) := by
  unfold parseSecretUri
  constructor
  · intro h
    rcases hp : urlparse uri.toList with e | p
    · rw [hp] at h
      exact absurd h nofun
    · obtain ⟨hsplit, hscheme, hnetloc, hpath⟩ := urlparse_eq_ok hp
      rw [hp] at h
      change (if p.scheme ≠ "secret".toList then _ else _) = _ at h
      split at h
      · exact absurd h nofun
      · rename_i hs
        rw [not_not] at hs
        have hpath := hpath (hs ▸ secret_not_mem_usesParams)
        split at h
        · exact absurd h nofun
        · rename_i hn
          dsimp only at h
          split at h
          · exact absurd h nofun
          · rename_i hd
            rw [hpath] at hd h
            rw [hnetloc] at hn h
            exact ⟨hsplit, hscheme ▸ hs, hn, hd, (Except.ok.inj h).symm⟩
  · rintro ⟨hsplit, hs, hn, hd, rfl⟩
    obtain ⟨p, hp⟩ := urlparse_isOk hsplit
    obtain ⟨-, hscheme, hnetloc, hpath⟩ := urlparse_eq_ok hp
    have hs' : p.scheme = "secret".toList := hscheme.trans hs
    have hpath := hpath (hs' ▸ secret_not_mem_usesParams)
    rw [hp]
    change (if p.scheme ≠ "secret".toList then _ else _) = _
    rw [if_neg (not_not.mpr hs'), hnetloc, if_neg hn]
    dsimp only
    rw [hpath, if_neg hd]
    rfl

theorem validate_str {uri : String} {r : SecretRef} : validate (.str uri) = .ok r ↔
    ∃ o, parseSecretUri uri = .ok o ∧ fields (.obj o) = .ok r := by
  simp only [validate]
  rcases parseSecretUri uri with e | o <;> simp

/-- **The fields read from a URI are safe in a URI**, whatever its case, slashes, query or
fragment. -/
theorem uriSafe_of_validate {uri : String} {r : SecretRef} (h : validate (.str uri) = .ok r) :
    UriSafe r := by
  obtain ⟨o, hparse, hfields⟩ := validate_str.mp h
  obtain ⟨hsplit, -, -, -, rfl⟩ := parseSecretUri_eq_ok.mp hparse
  obtain ⟨hp, hn, hv⟩ := fields_pathFields.mp hfields
  obtain ⟨hbrackets, hnetloc, -⟩ := urlsplit_eq_ok.mp hsplit
  have hprovider : r.provider.val.toList = (parts uri.toList).netloc := by
    rw [hp, String.toList_ofList]
  have hpath : ∀ c ∈ (parts uri.toList).path.dropWhile (· == '/'), isPathChar c = true :=
    fun c hc => isPathChar_of_mem_path ((List.dropWhile_sublist _).mem hc)
  refine ⟨?_, ?_, ?_, ?_, ?_⟩
  · rw [hprovider]
    exact fun c hc => isSegmentChar_of_mem_netloc hc
  · rw [hprovider, hbrackets]
  · rw [hprovider, hnetloc]
  · rw [hn, String.toList_ofList]
    intro c hc
    have hslash : c ≠ '/' := fun h => not_mem_cut_fst '/' _ (h ▸ hc)
    simp [isSegmentChar, hpath c (mem_of_mem_cut_fst hc), hslash]
  · intro hne
    rcases hcut : cut '/' ((parts uri.toList).path.dropWhile (· == '/')) with ⟨n, - | v⟩
    · rw [hcut] at hv
      exact absurd hv hne
    · rw [hcut] at hv
      rw [hv, String.toList_ofList]
      intro c hc
      refine hpath c ?_
      rw [(eq_of_cut_some hcut).1]
      exact List.mem_append_right _ (List.mem_cons_of_mem _ hc)

/-- **The collapsed form reads back as the same reference exactly when it is `UriSafe`.** -/
theorem validate_toUri {r : SecretRef} : validate (.str r.toUri) = .ok r ↔ UriSafe r := by
  constructor
  · exact uriSafe_of_validate
  · intro h
    rw [validate_str]
    have hslash : '/' ∉ r.name.val.toList := fun hm => absurd (h.name '/' hm) (by decide)
    have hnil : r.name.val.toList ≠ [] := toList_ne_nil (le_refl 1) r.name
    have hname : ∀ c ∈ r.name.val.toList, isPathChar c = true := fun c hc =>
      (Bool.and_eq_true_iff.mp (h.name c hc)).1
    -- what follows the name: nothing, or a slash and the version
    obtain ⟨tail, htail, hchars, hcut⟩ : ∃ tail, r.toUri.toList =
        "secret".toList ++ ':' :: '/' :: '/' ::
          (r.provider.val.toList ++ '/' :: (r.name.val.toList ++ tail)) ∧
        (∀ c ∈ tail, isPathChar c = true) ∧
          (cut '/' (r.name.val.toList ++ tail) = (r.name.val.toList, none) ∧
              r.version.val = "latest" ∨
            cut '/' (r.name.val.toList ++ tail) =
              (r.name.val.toList, some r.version.val.toList)) := by
      by_cases hv : r.version.val = "latest"
      · refine ⟨[], by rw [toUri_toList, if_pos hv, List.append_nil], by simp, .inl ⟨?_, hv⟩⟩
        rw [List.append_nil, cut_of_not_mem hslash]
      · refine ⟨'/' :: r.version.val.toList, by rw [toUri_toList, if_neg hv], ?_,
          .inr (cut_append hslash)⟩
        intro c hc
        rcases List.mem_cons.mp hc with rfl | hc
        · rfl
        · exact h.version hv c hc
    have hparts := parts_of_authority (s := "secret".toList) (by decide) h.provider
      fun c (hc : c ∈ r.name.val.toList ++ tail) =>
        (List.mem_append.mp hc).elim (hname c) (hchars c)
    rw [← htail] at hparts
    refine ⟨pathFields r.provider.val.toList (r.name.val.toList ++ tail),
      parseSecretUri_eq_ok.mpr ⟨?_, ?_, ?_, ?_, ?_⟩, fields_pathFields.mpr ⟨?_, ?_, ?_⟩⟩
    · rw [urlsplit_eq_ok, hparts]
      exact ⟨h.brackets, h.netloc, rfl⟩
    · rw [hparts]
      show "secret".toList.map Char.toLower = _
      decide
    · rw [hparts]
      exact toList_ne_nil (le_refl 1) r.provider
    · rw [hparts, dropWhile_slash hnil hslash]
      simp [hnil]
    · rw [hparts, dropWhile_slash hnil hslash]
    · rw [String.ofList_toList]
    · rcases hcut with ⟨hc, -⟩ | hc <;> rw [hc, String.ofList_toList]
    · rcases hcut with ⟨hc, hv⟩ | hc
      · rw [hc, hv]
      · rw [hc]
        exact String.ofList_toList.symm

/-! ## The canonical form -/

/-- **`to_uri` is a canonical form of the URIs that are accepted**: it reads back as the very
reference, so it is its own canonical form, and two URIs share it exactly when they name one
reference. -/
theorem toUri_canonical {uri : String} {r : SecretRef} (h : validate (.str uri) = .ok r) :
    validate (.str r.toUri) = .ok r ∧
      (∀ again, validate (.str r.toUri) = .ok again → again.toUri = r.toUri) ∧
      ∀ uri' r', validate (.str uri') = .ok r' → (r'.toUri = r.toUri ↔ r' = r) := by
  have hback : validate (.str r.toUri) = .ok r := validate_toUri.mpr (uriSafe_of_validate h)
  refine ⟨hback, fun again hagain => ?_, fun uri' r' h' => ⟨fun heq => ?_, fun heq => ?_⟩⟩
  · obtain rfl := Validated.ok.inj (hagain.symm.trans hback)
    rfl
  · have hback' : validate (.str r'.toUri) = .ok r' :=
      validate_toUri.mpr (uriSafe_of_validate h')
    rw [heq] at hback'
    exact Validated.ok.inj (hback'.symm.trans hback)
  · rw [heq]

end

/-- Extra slashes, a version with a slash, a query and an upper-case scheme. -/
theorem toUri_canonical_slashes : ∃ r,
    @validate UnicodeData.ascii (.str "SECRET://gsm//key/v/1?a=b#c") = .ok r ∧
      @validate UnicodeData.ascii (.str r.toUri) = .ok r := by
  have haccepted :
      (@validate UnicodeData.ascii (.str "SECRET://gsm//key/v/1?a=b#c")).isOk = true := by decide
  obtain ⟨r, hr⟩ := Validated.isOk_iff.mp haccepted
  exact ⟨r, hr, (@toUri_canonical UnicodeData.ascii _ r hr).1⟩

end SecretRef

end Grabatus

import Grabatus.Adapters.StorageGcs
import Grabatus.Python.Base64
import Grabatus.Security.TenantPrefixPolicy

/-!
# `InlineStorage`

Model of `adapters/storage_inline.py`. The storage adapter for `inline://<encoding>,<data>`: the
payload is the URI itself. The adapter cuts the text at `://` and at the first comma; the
allowlist and the policy read the same text with `parse_uri`, to which the letters up to the first
`/` of the data are a host and the others a path.

Results:

* `parseUri_inlineBase64`: `parse_uri` accepts the URI of a payload exactly when no two slashes
  stand together in its base64 text. The standard alphabet has a slash.
* `decodeInlineUri_inlineBase64`: the adapter itself reads back every payload.
* `inline_base64_iff`: so a payload comes through check, policy and adapter in that case only.
-/

namespace Grabatus

open Grabatus.Lib Grabatus.Lib.Text Grabatus.Python

section

variable [UnicodeData]

/-- `_decode_inline_uri`. -/
def decodeInlineUri (uri : String) : Except PyException Bytes :=
  let (scheme, rest) := partitionScheme uri
  if scheme ≠ "inline".toList then
    .error (serviceError .unsupportedSchemeError
      ("InlineStorage requires scheme='inline', got uri=" ++ pyRepr uri))
  else
    let encoding := String.ofList (cut ',' rest).1
    let data := String.ofList ((cut ',' rest).2.getD [])
    if data = "" then
      .error (serviceError .inputReadError
        ("InlineStorage URI is missing data after the comma; uri=" ++ pyRepr uri))
    else if encoding = "base64" then
      match b64decode data with
      | .ok payload => .ok payload
      | .error exc =>
        .error (serviceError .formatParsingError
          ("InlineStorage base64 payload failed to decode: " ++ exc))
    else if encoding = "utf8" then .ok (encodeUtf8 data)
    else
      .error (serviceError .unsupportedSchemeError
        ("InlineStorage encoding=" ++ pyRepr encoding ++
          " not supported; use 'base64' or 'utf8'; uri=" ++ pyRepr uri))

/-- `InlineStorage`: it reads the URI, and never writes. -/
def inlineStorage (σ : Type) : StoragePort σ where
  read spec _ := Op.ofExcept (decodeInlineUri spec.sourceUri.text)
  write spec _ _ := Op.fail (serviceError .outputWriteError
    ("InlineStorage does not support writing; destination_uri=" ++
      pyRepr spec.destinationUri.text))

/-! ## The URI of a payload -/

omit [UnicodeData] in
/-- The letters of base64 text stay in a path and are no dot. -/
theorem isPathChar_of_isBase64Char {c : Char} (h : isBase64Char c = true) :
    isPathChar c = true ∧ c ≠ '.' := by
  have hne : ∀ d : Char, isBase64Char d = false → c ≠ d := fun d hd hcd => by
    rw [hcd, hd] at h
    exact absurd h Bool.false_ne_true
  simp [isPathChar, isUnsafe, hne '\t' (by decide), hne '\r' (by decide), hne '\n' (by decide),
    hne '?' (by decide), hne '#' (by decide), hne '.' (by decide)]

/-- `f"inline://base64,{b64encode(b).decode('ascii')}"`. -/
def inlineBase64 (b : Bytes) : String := "inline://base64," ++ b64encode b

/-- What stands after `inline://`. -/
def inlineRest (b : Bytes) : List Char := "base64".toList ++ ',' :: (b64encode b).toList

omit [UnicodeData] in
theorem toList_inlineBase64 (b : Bytes) :
    (inlineBase64 b).toList = "inline".toList ++ ':' :: '/' :: '/' :: inlineRest b := by
  have hhead : "inline://base64,".toList =
      "inline".toList ++ ':' :: '/' :: '/' :: ("base64".toList ++ [',']) := by decide
  calc (inlineBase64 b).toList
      = "inline://base64,".toList ++ (b64encode b).toList := String.toList_append
    _ = "inline".toList ++ ':' :: '/' :: '/' :: ("base64".toList ++ [',']) ++
        (b64encode b).toList := congrArg (· ++ (b64encode b).toList) hhead
    _ = "inline".toList ++ ':' :: '/' :: '/' ::
        ("base64".toList ++ ',' :: (b64encode b).toList) := by
        simp only [List.append_assoc, List.cons_append, List.nil_append]
    _ = "inline".toList ++ ':' :: '/' :: '/' :: inlineRest b := rfl

omit [UnicodeData] in
/-- The letters of the rest: those of `base64,` and those of the text. -/
theorem mem_inlineRest {b : Bytes} {c : Char} (h : c ∈ inlineRest b) :
    isAscii c = true ∧ isPathChar c = true ∧ c ∉ ['.', '[', ']'] := by
  have hword : ∀ c ∈ "base64,".toList,
      isAscii c = true ∧ isPathChar c = true ∧ c ∉ ['.', '[', ']'] := by decide
  have hsplit : inlineRest b = "base64,".toList ++ base64Groups b.toList := by
    have hcomma : "base64,".toList = "base64".toList ++ [','] := by decide
    have hgroups : (b64encode b).toList = base64Groups b.toList := String.toList_ofList
    calc inlineRest b
        = "base64".toList ++ ([','] ++ (b64encode b).toList) := rfl
      _ = "base64".toList ++ [','] ++ (b64encode b).toList := (List.append_assoc _ _ _).symm
      _ = "base64,".toList ++ base64Groups b.toList :=
          congrArg₂ (· ++ ·) hcomma.symm hgroups
  rw [hsplit, List.mem_append] at h
  rcases h with h | h
  · exact hword c h
  · have hbase := isBase64Char_of_mem_groups c h
    refine ⟨isAscii_of_isBase64Char hbase, (isPathChar_of_isBase64Char hbase).1, fun hm => ?_⟩
    have hnot : ∀ d ∈ ['.', '[', ']'], isBase64Char d = false := by decide
    rw [hnot c hm] at hbase
    exact absurd hbase Bool.false_ne_true

/-- `urlsplit` accepts the URI: its authority is ASCII without brackets. -/
theorem urlsplit_inlineBase64 (b : Bytes) :
    urlsplit (inlineBase64 b).toList = .ok
      { scheme := "inline".toList, netloc := upTo isDelim (inlineRest b),
        path := onward isDelim (inlineRest b), query := [], fragment := [] } := by
  have hparts : parts (inlineBase64 b).toList =
      { scheme := "inline".toList, netloc := upTo isDelim (inlineRest b),
        path := onward isDelim (inlineRest b), query := [], fragment := [] } := by
    rw [toList_inlineBase64, parts_of_isPathChar (by decide) fun c hc => (mem_inlineRest hc).2.1]
    rfl
  have hmem : ∀ c ∈ upTo isDelim (inlineRest b), c ∈ inlineRest b := fun c hc =>
    (List.takeWhile_sublist _).mem hc
  have hbracket : ∀ c ∈ ['.', '[', ']'], c ∉ upTo isDelim (inlineRest b) := fun c hc hm =>
    (mem_inlineRest (hmem c hm)).2.2 hc
  refine urlsplit_eq_ok.mpr ⟨?_, ?_, hparts⟩
  · rw [hparts]
    exact checkBrackets_of_ipv6 (.inl ⟨hbracket '[' (by simp), hbracket ']' (by simp)⟩)
  · rw [hparts]
    exact checkNetloc_of_ascii fun c hc => (mem_inlineRest (hmem c hc)).1

/-- **`parse_uri` on the URI of a payload**: it asks only that its base64 text has no `//`. -/
theorem parseUri_inlineBase64 (b : Bytes) :
    (∃ p, parseUri (inlineBase64 b) = .ok p) ↔ hasDoubleSlash (b64encode b).toList = false := by
  have hsplit := urlsplit_inlineBase64 b
  obtain ⟨-, -, hparts⟩ := urlsplit_eq_ok.mp hsplit
  obtain ⟨r, hr⟩ := urlparse_isOk (hparts ▸ hsplit)
  obtain ⟨-, hscheme, -, hpath⟩ := urlparse_eq_ok hr
  rw [hparts] at hscheme hpath
  have hscheme : r.scheme = "inline".toList := hscheme
  have hpath : r.path = onward isDelim (inlineRest b) := hpath (by rw [hscheme]; decide)
  have hslash : hasDoubleSlash r.path = hasDoubleSlash (b64encode b).toList := by
    rw [hpath, hasDoubleSlash_onward rfl]
    rfl
  have hdots : traversalSegment ∉ pathSegments r.path := fun h => by
    have hdot : '.' ∈ inlineRest b := (List.dropWhile_sublist _).mem
      (hpath ▸ mem_of_mem_pathSegments h (List.mem_cons_self (a := '.')))
    exact (mem_inlineRest hdot).2.2 (by simp)
  constructor
  · rintro ⟨p, hp⟩
    obtain ⟨r', hr', -, -, hdouble, -⟩ := parseUri_eq_ok.mp hp
    obtain rfl := Except.ok.inj (hr.symm.trans hr')
    exact hslash ▸ hdouble
  · intro h
    refine ⟨_, parseUri_eq_ok.mpr ⟨r, hr, ?_, ?_, hslash.trans h, hdots, rfl⟩⟩
    · intro hempty
      have := congrArg String.toList hempty
      rw [toList_inlineBase64] at this
      exact absurd this (by simp)
    · rw [hscheme]
      decide

/-! ## What comes through -/

omit [UnicodeData] in
theorem partitionScheme_inlineBase64 (b : Bytes) :
    partitionScheme (inlineBase64 b) = ("inline".toList, inlineRest b) := by
  have hcut : cutAt "://".toList (inlineBase64 b).toList =
      some ("inline".toList, inlineRest b) := by
    have hsep : "://".toList = ':' :: ['/', '/'] := by decide
    rw [toList_inlineBase64, hsep]
    simpa only [List.append_assoc, List.cons_append, List.nil_append] using
      cutAt_append ['/', '/'] (inlineRest b) (show ':' ∉ "inline".toList by decide)
  rw [partitionScheme, hcut, Option.getD_some]

omit [UnicodeData] in
/-- Base64 text is empty for the empty payload only. -/
theorem b64encode_ne_empty {b : Bytes} (hb : b ≠ ByteArray.empty) : b64encode b ≠ "" := by
  intro h
  have hdecode := b64decode_b64encode b
  rw [h] at hdecode
  have hempty : b64decode "" = .ok ByteArray.empty := rfl
  exact hb (Except.ok.inj (hdecode.symm.trans hempty))

/-- **The adapter reads back every payload.** -/
theorem decodeInlineUri_inlineBase64 {b : Bytes} (hb : b ≠ ByteArray.empty) :
    decodeInlineUri (inlineBase64 b) = .ok b := by
  have hcut : cut ',' (inlineRest b) = ("base64".toList, some (b64encode b).toList) :=
    cut_append (by decide)
  unfold decodeInlineUri
  rw [partitionScheme_inlineBase64]
  simp only [hcut, Option.getD_some, String.ofList_toList, ne_eq, not_true_eq_false, if_false,
    if_true, if_neg (b64encode_ne_empty hb), b64decode_b64encode]

/-- What `parse_uri` says of the URI it says the scheme of. -/
theorem scheme_of_parseUri_inlineBase64 {b : Bytes} {p : ParsedUri}
    (h : parseUri (inlineBase64 b) = .ok p) : p.scheme = "inline" := by
  obtain ⟨r, hr, -, -, -, -, rfl⟩ := parseUri_eq_ok.mp h
  obtain ⟨-, hscheme, -, -⟩ := urlparse_eq_ok hr
  obtain ⟨-, -, hparts⟩ := urlsplit_eq_ok.mp (urlsplit_inlineBase64 b)
  rw [hparts] at hscheme
  have hscheme : r.scheme = "inline".toList := hscheme
  simp only [hscheme, lower]
  rw [if_pos (by decide)]
  decide

/-- **A payload comes through as an inline URI** exactly when its base64 text has no two slashes
together: the check and the policy then accept the URI and the adapter reads the payload. -/
theorem inline_base64_iff {b : Bytes} (hb : b ≠ ByteArray.empty) :
    ((∀ allowlist : SchemeAllowlist, "inline" ∈ allowlist.allowed →
        allowlist.check (inlineBase64 b) = .ok ()) ∧
      (∀ (policy : TenantPrefixPolicy) (identity : Identity),
        policy.authorize (inlineBase64 b) identity = .ok ()) ∧
      (∀ (σ : Type) (world : σ) (spec : InputSpec) (credentials : Credentials),
        spec.sourceUri.text = inlineBase64 b →
          (inlineStorage σ).read spec credentials world = (.ok b, world))) ↔
      hasDoubleSlash (b64encode b).toList = false := by
  rw [← parseUri_inlineBase64]
  constructor
  · rintro ⟨hcheck, -, -⟩
    obtain ⟨p, hp, -⟩ :=
      SchemeAllowlist.check_eq_ok.mp (hcheck ⟨{"inline"}⟩ (Finset.mem_singleton_self _))
    exact ⟨p, hp⟩
  · rintro ⟨p, hp⟩
    have hs : p.scheme = "inline" := scheme_of_parseUri_inlineBase64 hp
    have hagnostic : p.scheme ∈ tenantAgnosticSchemes := by
      rw [hs]
      decide
    have hother : p.scheme ∉ bucketSchemes ∧ p.scheme ∉ bigquerySchemes := by
      rw [hs]
      decide
    refine ⟨fun allowlist hallowed => ?_, fun policy identity => ?_,
      fun σ world spec credentials hspec => ?_⟩
    · exact SchemeAllowlist.check_eq_ok.mpr ⟨p, hp, hs ▸ hallowed⟩
    · exact TenantPrefixPolicy.authorize_eq_ok.mpr ⟨p, hp, .inl hagnostic,
        fun h => absurd h hother.1, fun h => absurd h hother.1, fun h => absurd h hother.2⟩
    · show (decodeInlineUri spec.sourceUri.text, world) = _
      rw [hspec, decodeInlineUri_inlineBase64 hb]

end

/-- Three bytes `ff`: their base64 text is `////`, so no allowlist lets their URI through. -/
theorem inline_base64_refused : ¬ ∀ b : Bytes, b ≠ ByteArray.empty →
    ∀ allowlist : SchemeAllowlist, "inline" ∈ allowlist.allowed →
      @SchemeAllowlist.check UnicodeData.ascii allowlist (inlineBase64 b) = .ok () := by
  intro h
  have hcheck := h ⟨#[255, 255, 255]⟩ (by decide) ⟨{"inline"}⟩ (by decide)
  exact absurd hcheck (by decide +kernel)

/-- Five bytes that come through, as an inline URI of a tenant's user. -/
theorem inline_base64_hello :
    @TenantPrefixPolicy.authorize UnicodeData.ascii ⟨"gbt-storage", true⟩
      (inlineBase64 (encodeUtf8 "hello")) ⟨⟨"1", by decide⟩, ⟨"acme", by decide⟩⟩ = .ok () :=
  ((@inline_base64_iff UnicodeData.ascii (encodeUtf8 "hello") (by decide)).mpr
    (by decide +kernel)).2.1 _ _

end Grabatus

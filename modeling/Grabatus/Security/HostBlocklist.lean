import Grabatus.Security.UriParser

/-!
# `HostBlocklist`

Model of `security/host_blocklist.py`. The host check of HTTP inputs. `check` takes as the host
the text of the netloc before its first `:`; the host a client connects to is what stands after
the last `@`, between brackets or before the port (`connectionHost`).

* **Where the two are one text, what passes connects to a permitted host**
  (`HostBlocklist.permits_of_check`). They are on an authority without `@` and brackets
  (`firstText_eq_connectionHost`).
* **Elsewhere `check` reads the userinfo or the opening bracket**, and some allowed hosts let
  through a host that is none of them (`HostBlocklist.firstText_eq_of_permits`).

Out of scope: the resolution of a host's name; `from_env_csv` and `production`, which are
constructor calls.
-/

namespace Grabatus

open Grabatus.Lib Grabatus.Lib.Text Grabatus.Python

/-- `_HTTP_SCHEMES`. -/
def httpSchemes : List String := ["http", "https"]

/-- `_BLOCKED_LITERAL_HOSTS`. -/
def blockedLiteralHosts : List String := ["localhost"]

/-- `_BLOCKED_DOMAIN_SUFFIXES`. -/
def blockedDomainSuffixes : List String := [".internal", ".local"]

/-- `_BLOCKED_NETWORKS`. -/
def blockedNetworks : List Ipv4Network :=
  [⟨0x7f000000, 8⟩, ⟨0x0a000000, 8⟩, ⟨0xa9fe0000, 16⟩, ⟨0xac100000, 12⟩, ⟨0xc0a80000, 16⟩]

/-- `repr(network)` of the blocked networks. -/
def reprNetwork (n : Ipv4Network) : String :=
  "IPv4Network('" ++ ".".intercalate
    ([24, 16, 8, 0].map fun i => toString (n.address.toNat / 2 ^ i % 256)) ++ "/" ++
      toString n.prefixLength ++ "')"

/-- `HostBlocklist`. -/
structure HostBlocklist where
  allowedHosts : Finset String

section

variable [UnicodeData]

/-- `HostBlocklist(allowed_hosts)`. -/
def HostBlocklist.ofList (allowedHosts : List String) : HostBlocklist :=
  ⟨(allowedHosts.map lower).toFinset⟩

/-- `_extract_host`. -/
def extractHost (netloc : String) : String := lower (String.ofList (cut ':' netloc.toList).1)

/-- `_raise_if_blocked`. -/
def raiseIfBlocked (host uri : String) : Except PyException Unit :=
  if host ∈ blockedLiteralHosts then
    .error (serviceError .blockedHostError
      ("host=" ++ pyRepr host ++ " is in literal blocklist, uri=" ++ pyRepr uri))
  else if blockedDomainSuffixes.any (endsWith host) then
    .error (serviceError .blockedHostError
      ("host=" ++ pyRepr host ++ " matches blocked suffix " ++ pyReprTuple blockedDomainSuffixes ++
        ", uri=" ++ pyRepr uri))
  else match ipAddress host.toList with
    | none => .ok ()
    | some address =>
      match blockedNetworks.find? (·.contains address) with
      | none => .ok ()
      | some network => .error (serviceError .blockedHostError
          ("host=" ++ pyRepr host ++ " resolves to blocked network " ++ reprNetwork network ++
            ", uri=" ++ pyRepr uri))

/-- `HostBlocklist.check`. -/
def HostBlocklist.check (b : HostBlocklist) (uri : String) : Except PyException Unit :=
  match parseUri uri with
  | .error e => .error e
  | .ok parsed =>
    if parsed.scheme ∉ httpSchemes then .ok ()
    else
      let host := extractHost parsed.host
      if b.allowedHosts ≠ ∅ then
        if host ∈ b.allowedHosts then .ok ()
        else .error (serviceError .blockedHostError
          ("host=" ++ pyRepr host ++ " not in allowed_hosts " ++
            pyReprList (sorted b.allowedHosts) ++ ", uri=" ++ pyRepr uri))
      else raiseIfBlocked host uri

end

/-! ## The host a client connects to -/

/-- The authority of a URI, as RFC 3986 delimits it: what follows `//` after the scheme, up to the
first `/`, `?` or `#`. No such URI has a letter that `clean` drops. -/
def authority (uri : String) : List Char :=
  match (cut ':' (clean uri.toList)).2 with
  | some ('/' :: '/' :: rest) => upTo isDelim rest
  | _ => []

/-- The authority is a host and maybe a port. -/
def PlainAuthority (uri : String) : Prop := '@' ∉ authority uri ∧ '[' ∉ authority uri

instance (uri : String) : Decidable (PlainAuthority uri) := by
  unfold PlainAuthority
  exact inferInstance

section

variable [UnicodeData]

/-- The host of the authority: after the last `@`, between brackets or before the port,
lower-cased. -/
def connectionHost (uri : String) : String := lower (String.ofList (hostname (authority uri)))

/-- The text of the authority before its first `:`, lower-cased. -/
def firstText (uri : String) : String := lower (String.ofList (cut ':' (authority uri)).1)

end

/-- A name of the lists, or an address of a blocked network. -/
def Stopped (host : String) : Bool :=
  decide (host ∈ blockedLiteralHosts) || blockedDomainSuffixes.any (endsWith host) ||
    (ipAddress host.toList).any fun address => blockedNetworks.any (·.contains address)

/-- A host the blocklist was meant to stop: what it stops, and an IPv6 address that is the loopback
or maps a blocked IPv4 address. -/
def Forbidden (host : String) : Bool :=
  Stopped host || (ipAddress host.toList).any fun address =>
    address == .v6 1 ||
      (ipv4Mapped address).any fun mapped => blockedNetworks.any (·.contains mapped)

/-- The hosts a blocklist lets a client connect to. -/
def HostBlocklist.Permits (b : HostBlocklist) (host : String) : Prop :=
  if b.allowedHosts = ∅ then Forbidden host = false else host ∈ b.allowedHosts

/-- The texts `check` accepts as a host. -/
def HostBlocklist.AcceptsText (b : HostBlocklist) (text : String) : Prop :=
  if b.allowedHosts = ∅ then Stopped text = false else text ∈ b.allowedHosts

/-- The netloc of a URI with a scheme is its authority. -/
theorem netloc_eq_authority {uri : String} (h : (parts uri.toList).scheme ≠ []) :
    (parts uri.toList).netloc = authority uri := by
  unfold parts splitScheme at h ⊢
  unfold authority
  dsimp only at h ⊢
  rcases hcut : cut ':' (clean uri.toList) with ⟨s, - | rest⟩
  · rw [hcut] at h
    exact absurd rfl h
  · rw [hcut] at h
    dsimp only at h ⊢
    split at h
    · rename_i hs
      rw [if_pos hs]
      dsimp only
      unfold splitNetloc
      split
      · rfl
      · rename_i hno
        split
        · rename_i rest' heq
          exact absurd (Option.some.inj heq) (hno rest')
        · rfl
    · exact absurd rfl h

/-- A text without `:` is no IPv6 address. -/
theorem ipAddress_ne_v6 {s : List Char} (h : ':' ∉ s) (ip : BitVec 128) :
    ipAddress s ≠ some (.v6 ip) := by
  have hint : ∀ {l : List Char}, ':' ∉ l → ipv6Int l = none := by
    intro l hl
    unfold ipv6Int ipv6Parts
    rw [List.splitOn_eq_singleton hl]
    rfl
  have hv6 : parseIpv6 s = none := by
    unfold parseIpv6
    split
    · rfl
    · rcases hcut : cut '%' s with ⟨addr, - | scope⟩
      · have haddr : ':' ∉ addr := fun hm =>
          h (mem_of_mem_cut_fst (c := '%') (by rw [hcut]; exact hm))
        exact hint haddr
      · have haddr : ':' ∉ addr := fun hm =>
          h (mem_of_mem_cut_fst (c := '%') (by rw [hcut]; exact hm))
        dsimp only
        split
        · rfl
        · exact hint haddr
  unfold ipAddress
  rw [hv6]
  split
  · exact nofun
  · exact nofun

section

variable [UnicodeData]

theorem raiseIfBlocked_eq_ok {host uri : String} :
    raiseIfBlocked host uri = .ok () ↔ Stopped host = false := by
  unfold raiseIfBlocked Stopped
  by_cases hl : host ∈ blockedLiteralHosts
  · simp [hl]
  · rw [if_neg hl, decide_eq_false hl]
    by_cases hs : blockedDomainSuffixes.any (endsWith host) = true
    · simp [hs]
    · rw [if_neg hs, Bool.eq_false_iff.mpr hs]
      rcases ipAddress host.toList with - | address
      · simp
      · simp only [Option.any_some, Bool.false_or]
        split
        · rename_i hf
          simpa using List.find?_eq_none.mp hf
        · rename_i network hf
          refine ⟨nofun, fun hall => ?_⟩
          have hany := List.any_eq_true.mpr
            ⟨network, List.mem_of_find?_eq_some hf, List.find?_some hf⟩
          exact absurd (hany.symm.trans hall) nofun

/-- **What `check` accepts**: on an HTTP URI, the text before the first `:`. -/
theorem HostBlocklist.check_eq_ok {b : HostBlocklist} {uri : String} {parsed : ParsedUri}
    (hparsed : parseUri uri = .ok parsed) (hscheme : parsed.scheme ∈ httpSchemes) :
    b.check uri = .ok () ↔ b.AcceptsText (firstText uri) := by
  have hhost : extractHost parsed.host = firstText uri := by
    obtain ⟨r, hr, -, hne, -, -, rfl⟩ := parseUri_eq_ok.mp hparsed
    obtain ⟨-, hs, hn, -⟩ := urlparse_eq_ok hr
    unfold extractHost firstText
    rw [String.toList_ofList, hn, netloc_eq_authority (hs ▸ hne)]
  unfold check AcceptsText
  rw [hparsed]
  dsimp only
  rw [if_neg (not_not.mpr hscheme), hhost]
  by_cases hb : b.allowedHosts = ∅
  · rw [if_neg (not_not.mpr hb), if_pos hb]
    exact raiseIfBlocked_eq_ok
  · rw [if_pos hb, if_neg hb]
    split <;> simp [*]

/-- On a plain authority the text before the first `:` is the host. -/
theorem firstText_eq_connectionHost {uri : String} (h : PlainAuthority uri) :
    firstText uri = connectionHost uri := by
  have hhost : hostAndPort (authority uri) = authority uri :=
    List.rtakeWhile_eq_self_iff.mpr fun c hc =>
      decide_eq_true fun hat => h.1 (hat ▸ hc)
  unfold firstText connectionHost hostname
  rw [hhost, cut_of_not_mem h.2]

/-- The text before the first `:` is forbidden only as a name of the lists or an IPv4 address. -/
theorem forbidden_firstText (uri : String) :
    Forbidden (firstText uri) = Stopped (firstText uri) := by
  have hcolon : ':' ∉ (firstText uri).toList := by
    intro hm
    have := colon_of_mem_lower hm
    rw [String.toList_ofList] at this
    exact not_mem_cut_fst ':' _ this
  unfold Forbidden
  rcases hip : ipAddress (firstText uri).toList with - | ip | ip
  · simp
  · simp [ipv4Mapped]
  · exact absurd hip (ipAddress_ne_v6 hcolon ip)

/-- A text `check` accepts is a host it permits. -/
theorem HostBlocklist.acceptsText_firstText {b : HostBlocklist} {uri : String} :
    b.AcceptsText (firstText uri) ↔ b.Permits (firstText uri) := by
  unfold AcceptsText Permits
  rw [forbidden_firstText]

/-- An HTTP URI, by the scheme of its text. -/
def IsHttp (uri : String) : Prop := lower (String.ofList (parts uri.toList).scheme) ∈ httpSchemes

theorem IsHttp.scheme_mem {uri : String} {parsed : ParsedUri} (h : IsHttp uri)
    (hparsed : parseUri uri = .ok parsed) : parsed.scheme ∈ httpSchemes := by
  obtain ⟨r, hr, -, -, -, -, rfl⟩ := parseUri_eq_ok.mp hparsed
  obtain ⟨-, hs, -, -⟩ := urlparse_eq_ok hr
  show lower (String.ofList r.scheme) ∈ httpSchemes
  rw [hs]
  exact h

/-- **What passes connects to a permitted host**, where the two texts agree. -/
theorem HostBlocklist.permits_of_check {b : HostBlocklist} {uri : String} (hhttp : IsHttp uri)
    (hsame : firstText uri = connectionHost uri) (h : b.check uri = .ok ()) :
    b.Permits (connectionHost uri) := by
  rcases hparsed : parseUri uri with e | parsed
  · unfold check at h
    rw [hparsed] at h
    exact absurd h nofun
  · rw [check_eq_ok hparsed (hhttp.scheme_mem hparsed)] at h
    exact hsame ▸ acceptsText_firstText.mp h

/-- **Where they differ, some allowed hosts let another host through**: those of which the text
before the first `:` is the only one. -/
theorem HostBlocklist.firstText_eq_of_permits {uri : String} {parsed : ParsedUri}
    (hparsed : parseUri uri = .ok parsed) (hhttp : IsHttp uri)
    (h : ∀ allowedHosts, (ofList allowedHosts).check uri = .ok () →
      (ofList allowedHosts).Permits (connectionHost uri)) :
    firstText uri = connectionHost uri := by
  let b := ofList [String.ofList (cut ':' (authority uri)).1]
  have hallowed : b.allowedHosts = {firstText uri} := rfl
  have hne : b.allowedHosts ≠ ∅ := by
    rw [hallowed]
    exact Finset.singleton_ne_empty _
  have haccepts : b.AcceptsText (firstText uri) := by
    unfold AcceptsText
    rw [if_neg hne, hallowed]
    exact Finset.mem_singleton_self _
  have hpermits : b.Permits (connectionHost uri) :=
    h _ ((check_eq_ok hparsed (hhttp.scheme_mem hparsed)).mpr haccepts)
  unfold Permits at hpermits
  rw [if_neg hne, hallowed] at hpermits
  exact (Finset.mem_singleton.mp hpermits).symm

end

/-- A user name, or the brackets of the loopback address, hide the host. -/
theorem check_misses_host :
    @HostBlocklist.check UnicodeData.ascii ⟨∅⟩ "http://user@localhost/" = .ok () ∧
      ¬ HostBlocklist.Permits ⟨∅⟩ (@connectionHost UnicodeData.ascii "http://user@localhost/") ∧
    @HostBlocklist.check UnicodeData.ascii ⟨∅⟩ "http://[::1]/" = .ok () ∧
      ¬ HostBlocklist.Permits ⟨∅⟩ (@connectionHost UnicodeData.ascii "http://[::1]/") ∧
    @HostBlocklist.check UnicodeData.ascii ⟨{"a"}⟩ "http://a:b@c/" = .ok () ∧
      ¬ HostBlocklist.Permits ⟨{"a"}⟩ (@connectionHost UnicodeData.ascii "http://a:b@c/") := by
  unfold HostBlocklist.Permits
  decide

end Grabatus

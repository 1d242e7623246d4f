import Grabatus.Python.IpAddress
import Mathlib.Data.List.DropRight

/-!
# Python's `urllib.parse`

`urlsplit` and `urlparse`, as CPython 3.12 computes them: leading C0 controls and spaces are
dropped, tabs and line breaks removed wherever they stand, the scheme is what precedes the first
`:` when it looks like one, the netloc runs from `//` to the first `/`, `?` or `#`, and the rest
falls apart at `#`, then at `?`. A `ValueError` is its message.

**A URL that starts with a scheme** (`parts_of_isScheme`) has that scheme and the parts of the rest;
its path is what follows the netloc up to the first `?` or `#` (`splitTail_path`).
-/

namespace Grabatus.Python

open Grabatus.Lib Grabatus.Lib.Text

instance lawfulBEqChars : LawfulBEq (List Char) := inferInstance

/-- `SplitResult`. -/
structure SplitResult where
  scheme : List Char
  netloc : List Char
  path : List Char
  query : List Char
  fragment : List Char
  deriving DecidableEq

/-- `ParseResult`. -/
structure ParseResult extends SplitResult where
  params : List Char
  deriving DecidableEq

/-! ## Cleaning and the scheme -/

/-- A letter of `_WHATWG_C0_CONTROL_OR_SPACE`. -/
def isC0OrSpace (c : Char) : Bool := decide (c.toNat ≤ 32)

/-- A letter of `_UNSAFE_URL_BYTES_TO_REMOVE`. -/
def isUnsafe (c : Char) : Bool := c == '\t' || c == '\r' || c == '\n'

/-- The text `urlsplit` reads. -/
def clean (url : List Char) : List Char := (url.dropWhile isC0OrSpace).filter (!isUnsafe ·)

/-- A letter of `scheme_chars`. -/
def isSchemeChar (c : Char) : Bool := c.isAlphanum || c == '+' || c == '-' || c == '.'

/-- What precedes the first `:` is a scheme. -/
def isScheme (s : List Char) : Bool := s.head?.any Char.isAlpha && s.all isSchemeChar

/-- The scheme, lower-cased, and the rest; no scheme when there is none. -/
def splitScheme (url : List Char) : List Char × List Char :=
  match cut ':' url with
  | (s, some rest) => if isScheme s then (s.map Char.toLower, rest) else ([], url)
  | (_, none) => ([], url)

/-! ## The netloc -/

/-- A letter that ends the netloc. -/
def isDelim (c : Char) : Bool := c == '/' || c == '?' || c == '#'

/-- `_splitnetloc`, when the rest begins with `//`. -/
def splitNetloc : List Char → List Char × List Char
  | '/' :: '/' :: rest => (upTo isDelim rest, onward isDelim rest)
  | url => ([], url)

/-- The part of the authority after the last `@`. -/
def hostAndPort (netloc : List Char) : List Char := netloc.rtakeWhile (· ≠ '@')

/-- `_hostinfo`: the host name of a netloc, between brackets or up to the port. -/
def hostname (netloc : List Char) : List Char :=
  match cut '[' (hostAndPort netloc) with
  | (_, some bracketed) => (cut ']' bracketed).1
  | (hostport, none) => (cut ':' hostport).1

/-- The path, the query and the fragment. -/
def splitTail (url : List Char) : List Char × List Char × List Char :=
  let beforeFragment := (cut '#' url).1
  ((cut '?' beforeFragment).1, (cut '?' beforeFragment).2.getD [], (cut '#' url).2.getD [])

/-- The parts of a URL, the netloc unchecked. -/
def parts (url : List Char) : SplitResult :=
  let rest := (splitScheme (clean url)).2
  let tail := splitTail (splitNetloc rest).2
  { scheme := (splitScheme (clean url)).1, netloc := (splitNetloc rest).1,
    path := tail.1, query := tail.2.1, fragment := tail.2.2 }

/-! ## What the parts are -/

/-- A letter that stays in a path: neither removed nor the start of the query or fragment. -/
def isPathChar (c : Char) : Bool := !isUnsafe c && c != '?' && c != '#'

/-- A letter that stays in a netloc or in one segment of a path. -/
def isSegmentChar (c : Char) : Bool := isPathChar c && c != '/'

theorem not_isUnsafe_of_mem_clean {url : List Char} {c : Char} (h : c ∈ clean url) :
    isUnsafe c = false := by simpa using (List.mem_filter.mp h).2

theorem mem_of_mem_splitScheme {url : List Char} {c : Char} (h : c ∈ (splitScheme url).2) :
    c ∈ url := by
  unfold splitScheme at h
  split at h
  · rename_i s rest hcut
    split at h
    · rw [(eq_of_cut_some hcut).1]
      exact List.mem_append_right _ (List.mem_cons_of_mem _ h)
    · exact h
  · exact h

theorem mem_of_mem_splitNetloc {url : List Char} {c : Char}
    (h : c ∈ (splitNetloc url).1 ∨ c ∈ (splitNetloc url).2) : c ∈ url := by
  unfold splitNetloc at h
  split at h
  · refine List.mem_cons_of_mem _ (List.mem_cons_of_mem _ ?_)
    rcases h with h | h
    · exact (List.takeWhile_sublist _).mem h
    · exact (List.dropWhile_sublist _).mem h
  · rcases h with h | h
    · exact absurd h List.not_mem_nil
    · exact h

/-- The netloc is made of letters of the URL. -/
theorem mem_of_mem_netloc {url : List Char} {c : Char} (h : c ∈ (parts url).netloc) : c ∈ url :=
  (List.dropWhile_sublist _).mem
    (List.mem_filter.mp (mem_of_mem_splitScheme (mem_of_mem_splitNetloc (.inl h)))).1

/-- The letters of a netloc. -/
theorem isSegmentChar_of_mem_netloc {url : List Char} {c : Char} (h : c ∈ (parts url).netloc) :
    isSegmentChar c = true := by
  have hu := not_isUnsafe_of_mem_clean (mem_of_mem_splitScheme (mem_of_mem_splitNetloc (.inl h)))
  have hd : isDelim c = false := by
    change c ∈ (splitNetloc (splitScheme (clean url)).2).1 at h
    unfold splitNetloc at h
    split at h
    · exact not_of_mem_upTo h
    · exact absurd h List.not_mem_nil
  simp only [isDelim, Bool.or_eq_false_iff, beq_eq_false_iff_ne] at hd
  simp [isSegmentChar, isPathChar, hu, hd]

/-- The letters of a path. -/
theorem isPathChar_of_mem_path {url : List Char} {c : Char} (h : c ∈ (parts url).path) :
    isPathChar c = true := by
  have hf := mem_of_mem_cut_fst h
  have hu := not_isUnsafe_of_mem_clean
    (mem_of_mem_splitScheme (mem_of_mem_splitNetloc (.inr (mem_of_mem_cut_fst hf))))
  have hq : c ≠ '?' := fun hc => not_mem_cut_fst '?' _ (hc ▸ h)
  have hh : c ≠ '#' := fun hc => not_mem_cut_fst '#' _ (hc ▸ hf)
  simp [isPathChar, hu, hq, hh]

theorem ne_colon_of_isScheme {s : List Char} (h : isScheme s = true) : ':' ∉ s := by
  intro hm
  have := List.all_eq_true.mp (Bool.and_eq_true_iff.mp h).2 _ hm
  exact absurd this (by decide)

theorem filter_isUnsafe_eq_self {l : List Char} (h : ∀ c ∈ l, isPathChar c = true) :
    l.filter (!isUnsafe ·) = l :=
  List.filter_eq_self.mpr fun c hc => by
    simpa using (Bool.and_eq_true_iff.mp (Bool.and_eq_true_iff.mp (h c hc)).1).1

theorem not_isUnsafe_of_isSchemeChar {c : Char} (h : isSchemeChar c = true) :
    isUnsafe c = false := by
  rw [Bool.eq_false_iff]
  intro hu
  simp only [isUnsafe, Bool.or_eq_true, beq_iff_eq] at hu
  rcases hu with (rfl | rfl) | rfl <;> exact absurd h (by decide)

theorem not_isC0OrSpace_of_isAlpha {c : Char} (h : c.isAlpha = true) : isC0OrSpace c = false := by
  have hbetween := between_of_isAlpha h
  exact decide_eq_false (by omega)

/-- Cleaning a URL with a scheme touches only what follows it. -/
theorem clean_of_isScheme {s rest : List Char} (h : isScheme s = true) :
    clean (s ++ ':' :: rest) = s ++ ':' :: rest.filter (!isUnsafe ·) := by
  obtain ⟨hhead, hall⟩ := Bool.and_eq_true_iff.mp h
  rcases s with - | ⟨a, s⟩
  · exact absurd hhead (by simp)
  · have ha : isC0OrSpace a = false := not_isC0OrSpace_of_isAlpha (by simpa using hhead)
    have hkeep : ∀ c ∈ a :: s, (!isUnsafe c) = true := fun c hc => by
      rw [not_isUnsafe_of_isSchemeChar (List.all_eq_true.mp hall c hc)]
      rfl
    unfold clean
    rw [List.cons_append, List.dropWhile_cons_of_neg (by simp [ha]), ← List.cons_append,
      List.filter_append, List.filter_eq_self.mpr hkeep]
    rfl

/-- **A URL that starts with a scheme** has that scheme, lower-cased, and the parts of the rest. -/
theorem parts_of_isScheme {s rest : List Char} (h : isScheme s = true) :
    parts (s ++ ':' :: rest) =
      let rest := rest.filter (!isUnsafe ·)
      let tail := splitTail (splitNetloc rest).2
      { scheme := s.map Char.toLower, netloc := (splitNetloc rest).1,
        path := tail.1, query := tail.2.1, fragment := tail.2.2 } := by
  have hs : splitScheme (clean (s ++ ':' :: rest)) =
      (s.map Char.toLower, rest.filter (!isUnsafe ·)) := by
    rw [clean_of_isScheme h]
    unfold splitScheme
    rw [cut_append (ne_colon_of_isScheme h)]
    exact if_pos h
  unfold parts
  rw [hs]

/-- The scheme of a URL that has one is the text before its first `:`, where that is a scheme. -/
theorem parts_scheme_of_cut {url : List Char} (hs : isScheme (cut ':' url).1 = true)
    (hne : (parts url).scheme ≠ []) : (parts url).scheme = (cut ':' url).1.map Char.toLower := by
  rcases hcut : cut ':' url with ⟨s, - | rest⟩
  · have hcolon : ':' ∉ clean url := by
      intro hmem
      have hurl := (List.dropWhile_sublist _).mem (List.mem_filter.mp hmem).1
      exact cut_snd_eq_none.mp (congrArg Prod.snd hcut) hurl
    refine absurd ?_ hne
    show (splitScheme (clean url)).1 = []
    unfold splitScheme
    rw [cut_of_not_mem hcolon]
  · rw [hcut] at hs
    obtain ⟨rfl, -⟩ := eq_of_cut_some hcut
    rw [parts_of_isScheme hs]

/-- A letter that ends a path. -/
def isPathEnd (c : Char) : Bool := c == '?' || c == '#'

/-- The path is what stands before the first `?` or `#`. -/
theorem splitTail_path (url : List Char) : (splitTail url).1 = upTo isPathEnd url := by
  show (cut '?' (cut '#' url).1).1 = _
  rw [cut_fst, cut_fst, upTo_upTo]
  rfl

/-- **A URL whose text after `//` has neither query nor fragment** is cut at its first `/`. -/
theorem parts_of_isPathChar {s rest : List Char} (hs : isScheme s = true)
    (hrest : ∀ c ∈ rest, isPathChar c = true) :
    parts (s ++ ':' :: '/' :: '/' :: rest) =
      { scheme := s.map Char.toLower, netloc := upTo isDelim rest, path := onward isDelim rest,
        query := [], fragment := [] } := by
  have hall : ∀ c ∈ '/' :: '/' :: rest, isPathChar c = true :=
    List.forall_mem_cons.mpr ⟨rfl, List.forall_mem_cons.mpr ⟨rfl, hrest⟩⟩
  have hpath : ∀ c ∈ onward isDelim rest, isPathChar c = true := fun c hc =>
    hrest c ((List.dropWhile_sublist _).mem hc)
  have hnet : splitNetloc ('/' :: '/' :: rest) = (upTo isDelim rest, onward isDelim rest) := rfl
  have hq : '?' ∉ onward isDelim rest := fun h => absurd (hpath _ h) (by decide)
  have hf : '#' ∉ onward isDelim rest := fun h => absurd (hpath _ h) (by decide)
  rw [parts_of_isScheme hs]
  simp only [filter_isUnsafe_eq_self hall, hnet, splitTail, cut_of_not_mem hf, cut_of_not_mem hq,
    Option.getD_none]

/-- **A URL of a scheme, an authority and a path** reads back as they were written. -/
theorem parts_of_authority {s netloc path : List Char} (hs : isScheme s = true)
    (hn : ∀ c ∈ netloc, isSegmentChar c = true) (hp : ∀ c ∈ path, isPathChar c = true) :
    parts (s ++ ':' :: '/' :: '/' :: (netloc ++ '/' :: path)) =
      { scheme := s.map Char.toLower, netloc := netloc, path := '/' :: path,
        query := [], fragment := [] } := by
  have hall : ∀ c ∈ netloc ++ '/' :: path, isPathChar c = true := by
    intro c hc
    simp only [List.mem_append, List.mem_cons] at hc
    rcases hc with hc | rfl | hc
    · exact (Bool.and_eq_true_iff.mp (hn c hc)).1
    · rfl
    · exact hp c hc
  have hdelim : ∀ c ∈ netloc, isDelim c = false := by
    intro c hc
    have := hn c hc
    simp only [isSegmentChar, isPathChar, Bool.and_eq_true, bne_iff_ne] at this
    simp [isDelim, this]
  rw [parts_of_isPathChar hs hall, upTo_append_of_not hdelim, onward_append_of_not hdelim,
    upTo_cons_of_sep rfl, onward_cons_of_sep rfl, List.append_nil]

/-! ## The checks -/

section Reading

variable [UnicodeData]

/-- `[a-fA-F0-9]`. -/
def isHexDigit (c : Char) : Bool := (hexValue? c).isSome

/-- `_check_bracketed_host`. -/
def checkBracketedHost (host : List Char) : Except String Unit :=
  match host with
  | 'v' :: future =>
    match cut '.' future with
    | (version, some rest) =>
      if version ≠ [] ∧ version.all isHexDigit ∧ rest ≠ [] ∧ '\n' ∉ rest then .ok ()
      else .error "IPvFuture address is invalid"
    | (_, none) => .error "IPvFuture address is invalid"
  | _ =>
    match ipAddress host with
    | some (.v6 _) => .ok ()
    | some (.v4 _) => .error "An IPv4 address cannot be in brackets"
    | none =>
      .error (pyRepr (String.ofList host) ++ " does not appear to be an IPv4 or IPv6 address")

/-- `_check_bracketed_netloc`. -/
def checkBracketedNetloc (netloc : List Char) : Except String Unit :=
  match cut '[' (hostAndPort netloc) with
  | (before, some bracketed) =>
    if before ≠ [] then .error "Invalid IPv6 URL"
    else
      let port := (cut ']' bracketed).2.getD []
      if port ≠ [] ∧ port.head? ≠ some ':' then .error "Invalid IPv6 URL"
      else checkBracketedHost (cut ']' bracketed).1
  | (hostport, none) => checkBracketedHost (cut ':' hostport).1

/-- The bracket checks of `urlsplit`. -/
def checkBrackets (netloc : List Char) : Except String Unit :=
  if ('[' ∈ netloc ∧ ']' ∉ netloc) ∨ (']' ∈ netloc ∧ '[' ∉ netloc) then .error "Invalid IPv6 URL"
  else if '[' ∈ netloc then checkBracketedNetloc netloc
  else .ok ()

/-- A letter that stands for the end of the netloc, its userinfo or its host. -/
def isNetlocSyntax (c : Char) : Bool := isDelim c || c == '@' || c == ':'

/-- `_checknetloc`: no letter may turn into netloc syntax under NFKC. -/
def checkNetloc (netloc : List Char) : Except String Unit :=
  if netloc.all isAscii then .ok ()
  else
    let n := String.ofList (netloc.filter fun c => !(c ∈ ['@', ':', '#', '?']))
    let n' := UnicodeData.nfkc n
    if n = n' then .ok ()
    else if n'.toList.any isNetlocSyntax then
      .error ("netloc '" ++ String.ofList netloc ++
        "' contains invalid characters under NFKC normalization")
    else .ok ()

/-! ## Splitting -/

/-- `urlsplit(url)`. -/
def urlsplit (url : List Char) : Except String SplitResult := do
  let (scheme, rest) := splitScheme (clean url)
  let (netloc, rest) := splitNetloc rest
  checkBrackets netloc
  let (path, query, fragment) := splitTail rest
  checkNetloc netloc
  return { scheme, netloc, path, query, fragment }

/-- `uses_params`. -/
def usesParams : List (List Char) :=
  ["", "ftp", "hdl", "prospero", "http", "imap", "https", "shttp", "rtsp", "rtsps", "rtspu", "sip",
    "sips", "mms", "sftp", "tel"].map String.toList

/-- `_splitparams`: at the first `;` of the last segment. -/
def splitParams (url : List Char) : List Char × List Char :=
  let segment := url.rtakeWhile (· ≠ '/')
  (url.rdropWhile (· ≠ '/') ++ (cut ';' segment).1, (cut ';' segment).2.getD [])

/-- `urlparse(url)`. -/
def urlparse (url : List Char) : Except String ParseResult := do
  let s ← urlsplit url
  if s.scheme ∈ usesParams ∧ ';' ∈ s.path then
    return { s with path := (splitParams s.path).1, params := (splitParams s.path).2 }
  else return { s with params := [] }

/-- A URL that `urlsplit` accepts is split into its parts, and their netloc passes the checks. -/
theorem urlsplit_eq_ok {url : List Char} {r : SplitResult} : urlsplit url = .ok r ↔
    checkBrackets (parts url).netloc = .ok () ∧ checkNetloc (parts url).netloc = .ok () ∧
      parts url = r := by
  unfold urlsplit
  show (checkBrackets (parts url).netloc >>= fun _ => checkNetloc (parts url).netloc >>= fun _ =>
    pure (parts url)) = .ok r ↔ _
  rcases checkBrackets (parts url).netloc with - | ⟨⟨⟩⟩
  · exact ⟨nofun, nofun⟩
  · rcases checkNetloc (parts url).netloc with - | ⟨⟨⟩⟩
    · exact ⟨nofun, nofun⟩
    · exact ⟨fun h => ⟨rfl, rfl, Except.ok.inj h⟩, fun h => congrArg Except.ok h.2.2⟩

/-- `urlparse` keeps the scheme and the netloc of `urlsplit`, and the path outside the schemes
that have parameters. -/
theorem urlparse_eq_ok {url : List Char} {p : ParseResult} (h : urlparse url = .ok p) :
    urlsplit url = .ok (parts url) ∧ p.scheme = (parts url).scheme ∧
      p.netloc = (parts url).netloc ∧
        (p.scheme ∉ usesParams → p.path = (parts url).path) := by
  unfold urlparse at h
  rcases hs : urlsplit url with e | r
  · rw [hs] at h
    exact absurd h nofun
  · obtain ⟨-, -, rfl⟩ := urlsplit_eq_ok.mp hs
    rw [hs] at h
    refine ⟨rfl, ?_⟩
    change (if (parts url).scheme ∈ usesParams ∧ ';' ∈ (parts url).path then _ else _) = _ at h
    split at h
    · rename_i hp
      obtain rfl := Except.ok.inj h
      exact ⟨rfl, rfl, fun hn => absurd hp.1 hn⟩
    · obtain rfl := Except.ok.inj h
      exact ⟨rfl, rfl, fun _ => rfl⟩

/-- `urlparse` fails exactly where `urlsplit` does. -/
theorem urlparse_isOk {url : List Char} (h : urlsplit url = .ok (parts url)) :
    ∃ p, urlparse url = .ok p := by
  unfold urlparse
  rw [h]
  change ∃ p, (if (parts url).scheme ∈ usesParams ∧ ';' ∈ (parts url).path then _ else _) = _
  split
  · exact ⟨_, rfl⟩
  · exact ⟨_, rfl⟩


end Reading

end Grabatus.Python

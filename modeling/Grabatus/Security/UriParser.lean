import Grabatus.Errors
import Grabatus.Python.UrlParse

/-!
# `parse_uri` and `SchemeAllowlist`

Model of `security/uri_parser.py` and `security/scheme_allowlist.py`. `parse_uri` splits a URI
with `urlparse` and refuses an empty text, a missing scheme, a `//` in the path and a `..`
segment. What it lets through is described once (`parseUri_eq_ok`): the parts of the text, with a
path that has none of these.

Out of scope: `SchemeAllowlist.from_env_csv`; the settings cut the same text (`splitCsv`).
-/

namespace Grabatus

open Grabatus.Lib Grabatus.Lib.Text Grabatus.Python

/-- `ParsedUri`: normalized parts of a URI. -/
structure ParsedUri where
  scheme : String
  host : String
  path : String
  deriving DecidableEq

/-- `"//" in s`. -/
def hasDoubleSlash : List Char → Bool
  | '/' :: '/' :: _ => true
  | _ :: l => hasDoubleSlash l
  | [] => false

/-- `[seg for seg in path.split("/") if seg]`. -/
def pathSegments (path : List Char) : List (List Char) := (path.splitOn '/').filter (· ≠ [])

/-- `_TRAVERSAL_SEGMENT`. -/
def traversalSegment : List Char := ['.', '.']

/-- What stands before the first `/` has no part in a `//`. -/
theorem hasDoubleSlash_onward {p : Char → Bool} (hp : p '/' = true) :
    ∀ l : List Char, hasDoubleSlash (onward p l) = hasDoubleSlash l
  | [] => rfl
  | c :: l => by
    by_cases hc : p c = true
    · rw [onward_cons_of_sep hc]
    · have hne : c ≠ '/' := fun h => hc (h ▸ hp)
      have hdrop : onward p (c :: l) = onward p l := by simp [onward, hc]
      have hskip : hasDoubleSlash (c :: l) = hasDoubleSlash l :=
        hasDoubleSlash.eq_2 c l fun _ h _ => hne h
      rw [hdrop, hasDoubleSlash_onward hp l, hskip]

theorem mem_of_mem_splitOn {c d : Char} :
    ∀ {path segment : List Char}, segment ∈ path.splitOn d → c ∈ segment → c ∈ path
  | [], _, h, hc => by
    rw [List.splitOn_nil, List.mem_singleton] at h
    exact h ▸ hc
  | a :: path, segment, h, hc => by
    rw [List.splitOn_cons_eq_if_modifyHead] at h
    split at h
    · rcases List.mem_cons.mp h with rfl | h
      · exact absurd hc List.not_mem_nil
      · exact List.mem_cons_of_mem _ (mem_of_mem_splitOn h hc)
    · rcases hsplit : path.splitOn d with - | ⟨first, rest⟩
      · exact absurd hsplit (List.splitOn_ne_nil _ _)
      · rw [hsplit, List.modifyHead_cons, List.mem_cons] at h
        rcases h with rfl | h
        · rcases List.mem_cons.mp hc with rfl | hc
          · exact List.mem_cons_self
          · exact List.mem_cons_of_mem _
              (mem_of_mem_splitOn (hsplit ▸ List.mem_cons_self) hc)
        · exact List.mem_cons_of_mem _
            (mem_of_mem_splitOn (hsplit ▸ List.mem_cons_of_mem _ h) hc)

/-- A segment is made of letters of the path. -/
theorem mem_of_mem_pathSegments {path segment : List Char} (h : segment ∈ pathSegments path)
    {c : Char} (hc : c ∈ segment) : c ∈ path :=
  mem_of_mem_splitOn (List.mem_filter.mp h).1 hc

variable [UnicodeData]

/-- `parse_uri(uri)`. The `ValueError` of `urlparse` passes through. -/
def parseUri (uri : String) : Except PyException ParsedUri :=
  if uri = "" then
    .error (serviceError .unsupportedSchemeError
      ("URI is empty, expected scheme://host/path, got uri=" ++ pyRepr uri))
  else
    match urlparse uri.toList with
    | .error message => .error (valueError message)
    | .ok parsed =>
      if parsed.scheme = [] then
        .error (serviceError .unsupportedSchemeError
          ("URI is missing a scheme, got uri=" ++ pyRepr uri))
      else if hasDoubleSlash parsed.path then
        .error (serviceError .unsupportedSchemeError
          ("URI path contains '//', got uri=" ++ pyRepr uri))
      else if traversalSegment ∈ pathSegments parsed.path then
        .error (serviceError .unsupportedSchemeError
          ("URI path contains '..' traversal segment, got uri=" ++ pyRepr uri))
      else .ok
        { scheme := lower (String.ofList parsed.scheme)
          host := String.ofList parsed.netloc
          path := String.ofList parsed.path }

/-- **What `parse_uri` lets through**: the text splits, and its path is clear of `//` and `..`. -/
theorem parseUri_eq_ok {uri : String} {p : ParsedUri} : parseUri uri = .ok p ↔
    ∃ parsed, urlparse uri.toList = .ok parsed ∧ uri ≠ "" ∧ parsed.scheme ≠ [] ∧
      hasDoubleSlash parsed.path = false ∧ traversalSegment ∉ pathSegments parsed.path ∧
        p = { scheme := lower (String.ofList parsed.scheme)
              host := String.ofList parsed.netloc
              path := String.ofList parsed.path } := by
  unfold parseUri
  constructor
  · intro h
    split at h
    · exact absurd h nofun
    · rename_i hne
      split at h
      · exact absurd h nofun
      · rename_i parsed hparsed
        split at h
        · exact absurd h nofun
        · rename_i hscheme
          split at h
          · exact absurd h nofun
          · rename_i hslash
            split at h
            · exact absurd h nofun
            · rename_i htrav
              exact ⟨parsed, hparsed, hne, hscheme, by simpa using hslash, htrav,
                (Except.ok.inj h).symm⟩
  · rintro ⟨parsed, hparsed, hne, hscheme, hslash, htrav, rfl⟩
    rw [if_neg hne, hparsed]
    simp only [if_neg hscheme, hslash, if_neg htrav, Bool.false_eq_true, if_false]

/-- The scheme of a URI that parses, where the text before its first `:` is one. -/
theorem scheme_of_parseUri {uri : String} {p : ParsedUri} (h : parseUri uri = .ok p)
    (hs : isScheme (cut ':' uri.toList).1 = true) :
    p.scheme = lower (String.ofList ((cut ':' uri.toList).1.map Char.toLower)) := by
  obtain ⟨parsed, hparsed, -, hne, -, -, rfl⟩ := parseUri_eq_ok.mp h
  obtain ⟨-, hscheme, -, -⟩ := urlparse_eq_ok hparsed
  rw [hscheme] at hne
  show lower (String.ofList parsed.scheme) = _
  rw [hscheme, parts_scheme_of_cut hs hne]

/-- `parse_uri` raises something else than a service error only where `urlparse` does. -/
theorem parseUri_error {uri : String} {e : PyException} (h : parseUri uri = .error e)
    (hurl : urlsplit uri.toList = .ok (parts uri.toList)) : e.isServiceError = true := by
  obtain ⟨parsed, hparsed⟩ := urlparse_isOk hurl
  unfold parseUri at h
  rw [hparsed] at h
  simp only at h
  split at h
  · exact Except.error.inj h ▸ rfl
  · split at h
    · exact Except.error.inj h ▸ rfl
    · split at h
      · exact Except.error.inj h ▸ rfl
      · split at h
        · exact Except.error.inj h ▸ rfl
        · exact absurd h nofun

/-! ## The allowlist -/

/-- `SchemeAllowlist`: the schemes a URI may have. -/
structure SchemeAllowlist where
  allowed : Finset String

/-- `SchemeAllowlist(allowed)`. -/
def SchemeAllowlist.ofList (allowed : List String) : SchemeAllowlist :=
  ⟨(allowed.map lower).toFinset⟩

/-- `SchemeAllowlist.check`. -/
def SchemeAllowlist.check (a : SchemeAllowlist) (uri : String) : Except PyException Unit :=
  match parseUri uri with
  | .error e => .error e
  | .ok parsed =>
    if parsed.scheme ∈ a.allowed then .ok ()
    else .error (serviceError .unsupportedSchemeError
      ("scheme=" ++ pyRepr parsed.scheme ++ " not in allowed schemes " ++
        pyReprList (sorted a.allowed) ++ ", uri=" ++ pyRepr uri))

theorem SchemeAllowlist.check_eq_ok {a : SchemeAllowlist} {uri : String} :
    a.check uri = .ok () ↔ ∃ p, parseUri uri = .ok p ∧ p.scheme ∈ a.allowed := by
  unfold check
  rcases parseUri uri with e | p
  · exact ⟨nofun, by rintro ⟨_, h, -⟩; exact nomatch h⟩
  · by_cases hp : p.scheme ∈ a.allowed
    · simp [hp]
    · simp [hp]

theorem SchemeAllowlist.check_error {a : SchemeAllowlist} {uri : String} {e : PyException}
    (h : a.check uri = .error e) (hurl : urlsplit uri.toList = .ok (parts uri.toList)) :
    e.isServiceError = true := by
  unfold check at h
  rcases hp : parseUri uri with e' | p
  · rw [hp] at h
    obtain rfl := Except.error.inj h
    exact parseUri_error hp hurl
  · rw [hp] at h
    dsimp only at h
    split at h
    · exact absurd h nofun
    · exact Except.error.inj h ▸ rfl

end Grabatus

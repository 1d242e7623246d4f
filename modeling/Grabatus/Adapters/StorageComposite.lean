import Mathlib
import Grabatus.Adapters.StorageHttp

/-!
# `CompositeStorage`

Model of `adapters/storage_composite.py`. The storage that routes each call by scheme.
`_scheme_of` takes the scheme from the text before `://` and lower-cases it; the allowlist reads
what `urlparse` makes of the same text.

* A key that is a scheme is reached only by a text that starts with that scheme
  (`isScheme_of_selected`): no control character, tab or foreign letter gets lost on the way.
* **The adapter selected for a URI that passed the allowlist is the one of its parsed scheme**
  (`select_authorized`).
-/

namespace Grabatus

open Grabatus.Lib Grabatus.Lib.Text Grabatus.Python

section

variable [UnicodeData] {σ α : Type}

/-- `CompositeStorage`: what is registered by scheme, the schemes in lower case. -/
structure CompositeStorage (α : Type) where
  byScheme : Dict String α

namespace CompositeStorage

/-- `CompositeStorage(by_scheme=...)`. -/
def ofMapping (byScheme : Dict String α) : CompositeStorage α :=
  ⟨Dict.fill lower Dict.empty byScheme.entries⟩

/-- `_select`. -/
def select (storage : CompositeStorage α) (uri : String) : Except PyException α :=
  match storage.byScheme.get? (schemeOf uri) with
  | some adapter => .ok adapter
  | none => .error (serviceError .unsupportedSchemeError
      ("CompositeStorage has no adapter for scheme=" ++ pyRepr (schemeOf uri) ++ "; configured=" ++
        pyReprList (sorted storage.byScheme.keys.toFinset) ++ "; uri=" ++ pyRepr uri))

/-- `CompositeStorage.read` and `CompositeStorage.write`. -/
def port (storage : CompositeStorage (StoragePort σ)) : StoragePort σ where
  read spec credentials := do
    let adapter ← Op.ofExcept (storage.select spec.sourceUri.text)
    adapter.read spec credentials
  write spec payload credentials := do
    let adapter ← Op.ofExcept (storage.select spec.destinationUri.text)
    adapter.write spec payload credentials

theorem select_eq_ok {storage : CompositeStorage α} {uri : String} {adapter : α} :
    storage.select uri = .ok adapter ↔
      storage.byScheme.get? (schemeOf uri) = some adapter := by
  unfold select
  split <;> simp [*]

/-- What is selected was registered, under a key that lower-cases to the scheme. -/
theorem registered_of_select {byScheme : Dict String α} {uri : String} {adapter : α}
    (h : (ofMapping byScheme).select uri = .ok adapter) :
    ∃ key, (key, adapter) ∈ byScheme.entries ∧ lower key = schemeOf uri :=
  Dict.mem_of_fill (select_eq_ok.mp h)

end CompositeStorage

/-! ## Two readings of a scheme -/

/-- `str.lower` keeps a colon. -/
def KeepsColon : Prop := ∀ s : String, ':' ∈ s.toList → ':' ∈ (UnicodeData.lower s).toList

theorem colon_mem_lower (hcolon : KeepsColon) {s : String} (h : ':' ∈ s.toList) :
    ':' ∈ (lower s).toList := by
  unfold lower
  split
  · rw [String.toList_ofList]
    exact List.mem_map.mpr ⟨':', h, rfl⟩
  · exact hcolon s h

omit [UnicodeData] in
/-- Cleaning a text with a colon cleans what stands on both sides of it. -/
theorem clean_append_colon (pre rest : List Char) :
    clean (pre ++ ':' :: rest) = clean pre ++ ':' :: rest.filter (!isUnsafe ·) := by
  have hcolon : ∀ l : List Char, (':' :: l).dropWhile isC0OrSpace = ':' :: l := fun _ => rfl
  have hkeep : (':' :: rest).filter (!isUnsafe ·) = ':' :: rest.filter (!isUnsafe ·) := rfl
  unfold clean
  rw [List.dropWhile_append, hcolon]
  split
  · rename_i hempty
    rw [List.isEmpty_iff.mp hempty, hkeep]
    rfl
  · rw [List.filter_append, hkeep]

omit [UnicodeData] in
/-- What cleaning drops is ASCII. -/
theorem isAscii_of_clean {l : List Char} (h : ∀ c ∈ clean l, isAscii c = true) :
    ∀ c ∈ l, isAscii c = true := by
  intro c hc
  by_cases hdrop : isC0OrSpace c = true ∨ isUnsafe c = true
  · rcases hdrop with hc0 | hunsafe
    · have hle : c.toNat ≤ 32 := of_decide_eq_true hc0
      exact decide_eq_true (by omega)
    · simp only [isUnsafe, Bool.or_eq_true, beq_iff_eq] at hunsafe
      rcases hunsafe with (rfl | rfl) | rfl <;> rfl
  · rw [not_or] at hdrop
    refine h c (List.mem_filter.mpr ⟨?_, by simpa using hdrop.2⟩)
    rw [← List.takeWhile_append_dropWhile (p := isC0OrSpace) (l := l), List.mem_append] at hc
    rcases hc with hc | hc
    · exact absurd (List.mem_takeWhile_imp hc) hdrop.1
    · exact hc

omit [UnicodeData] in
theorem isAscii_of_isSchemeChar {c : Char} (h : isSchemeChar c = true) : isAscii c = true := by
  simp only [isSchemeChar, Bool.or_eq_true, beq_iff_eq] at h
  rcases h with ((h | rfl) | rfl) | rfl
  · exact isAscii_of_isAlphanum h
  · rfl
  · rfl
  · rfl

omit [UnicodeData] in
theorem isAscii_toLower {c : Char} (h : isAscii c = true) : isAscii c.toLower = true := by
  by_cases hup : c.isUpper = true
  · have halpha : c.toLower.isAlpha = true := by
      rw [Char.isAlpha_toLower_eq_isAlpha, Char.isAlpha, hup, Bool.true_or]
    exact isAscii_of_isSchemeChar (by simp [isSchemeChar, Char.isAlphanum, halpha])
  · rwa [Char.toLower_eq_of_not_isUpper hup]

omit [UnicodeData] in
theorem isSchemeChar_toLower (c : Char) : isSchemeChar c.toLower = isSchemeChar c := by
  by_cases hup : c.isUpper = true
  · have halpha : c.isAlpha = true := by rw [Char.isAlpha, hup, Bool.true_or]
    simp [isSchemeChar, Char.isAlphanum, halpha]
  · rw [Char.toLower_eq_of_not_isUpper hup]

omit [UnicodeData] in
/-- A scheme may be written in any case. -/
theorem isScheme_map_toLower (l : List Char) : isScheme (l.map Char.toLower) = isScheme l := by
  have hhead : (l.map Char.toLower).head?.any Char.isAlpha = l.head?.any Char.isAlpha := by
    rcases l with - | ⟨a, l⟩
    · rfl
    · simp
  have hall : (l.map Char.toLower).all isSchemeChar = l.all isSchemeChar := by
    rw [List.all_map]
    exact congrArg l.all (funext isSchemeChar_toLower)
  unfold isScheme
  rw [hhead, hall]

/-- A scheme is one in lower case, too. -/
theorem isScheme_lower {key : String} (h : isScheme key.toList = true) :
    isScheme (lower key).toList = true := by
  have hall := (Bool.and_eq_true_iff.mp h).2
  have hascii : key.toList.all isAscii = true := List.all_eq_true.mpr fun c hc =>
    isAscii_of_isSchemeChar (List.all_eq_true.mp hall c hc)
  unfold lower
  rw [if_pos hascii, String.toList_ofList]
  exact (isScheme_map_toLower _).trans h

omit [UnicodeData] in
/-- `partition` leaves the whole text, or the text before `://`. -/
theorem partitionScheme_cases (uri : String) :
    uri.toList = (partitionScheme uri).1 ∨
      ∃ rest, uri.toList = (partitionScheme uri).1 ++ ':' :: rest := by
  unfold partitionScheme
  rcases hcut : cutAt "://".toList uri.toList with - | ⟨pre, rest⟩
  · exact .inl rfl
  · refine .inr ⟨'/' :: '/' :: rest, ?_⟩
    rw [eq_of_cutAt hcut, List.append_assoc]
    rfl

/-- Lower-casing ASCII text twice is lower-casing it once. -/
theorem lower_schemeOf {uri : String} (h : (partitionScheme uri).1.all isAscii = true) :
    lower (schemeOf uri) = schemeOf uri := by
  have hlow : ∀ c ∈ (partitionScheme uri).1.map Char.toLower, isAscii c = true := by
    intro c hc
    obtain ⟨b, hb, rfl⟩ := List.mem_map.mp hc
    exact isAscii_toLower (List.all_eq_true.mp h b hb)
  have hscheme : schemeOf uri = String.ofList ((partitionScheme uri).1.map Char.toLower) := by
    unfold schemeOf lower
    rw [String.toList_ofList, if_pos h]
  rw [hscheme]
  unfold lower
  rw [String.toList_ofList, if_pos (List.all_eq_true.mpr hlow), List.map_map]
  refine congrArg String.ofList (List.map_congr_left fun c _ => ?_)
  exact Char.toLower_toLower_eq_toLower c

/-- **A URI routed under a key that is a scheme** starts with that scheme, its letters in any
case, and the URI parser reads the same one. -/
theorem scheme_eq_schemeOf (hcolon : KeepsColon) {uri : String} {parsed : ParsedUri}
    (hparsed : parseUri uri = .ok parsed) (hscheme : isScheme (schemeOf uri).toList = true) :
    parsed.scheme = schemeOf uri := by
  have hpre : ':' ∉ (partitionScheme uri).1 := by
    intro hmem
    refine ne_colon_of_isScheme hscheme (colon_mem_lower hcolon ?_)
    rwa [String.toList_ofList]
  obtain ⟨whole, hurl, -, hne, -, -, -⟩ := parseUri_eq_ok.mp hparsed
  rw [(urlparse_eq_ok hurl).2.1] at hne
  rcases partitionScheme_cases uri with huri | ⟨rest, huri⟩
  · refine absurd ?_ hne
    have hclean : ':' ∉ clean uri.toList := fun hmem =>
      hpre (huri ▸ (List.dropWhile_sublist _).mem (List.mem_filter.mp hmem).1)
    show (splitScheme (clean uri.toList)).1 = []
    unfold splitScheme
    rw [cut_of_not_mem hclean]
  · have hclean : ':' ∉ clean (partitionScheme uri).1 := fun hmem =>
      hpre ((List.dropWhile_sublist _).mem (List.mem_filter.mp hmem).1)
    have hcleaned : isScheme (clean (partitionScheme uri).1) = true := by
      by_contra hnot
      refine hne ?_
      show (splitScheme (clean uri.toList)).1 = []
      unfold splitScheme
      rw [huri, clean_append_colon, cut_append hclean]
      exact congrArg Prod.fst (if_neg hnot)
    have hascii : (partitionScheme uri).1.all isAscii = true := by
      refine List.all_eq_true.mpr (isAscii_of_clean fun c hc => ?_)
      exact isAscii_of_isSchemeChar
        (List.all_eq_true.mp (Bool.and_eq_true_iff.mp hcleaned).2 c hc)
    have hlower : schemeOf uri = String.ofList ((partitionScheme uri).1.map Char.toLower) := by
      unfold schemeOf lower
      rw [String.toList_ofList, if_pos hascii]
    have hraw : isScheme (partitionScheme uri).1 = true := by
      rwa [hlower, String.toList_ofList, isScheme_map_toLower] at hscheme
    have hcut : (cut ':' uri.toList).1 = (partitionScheme uri).1 := by rw [huri, cut_append hpre]
    rw [scheme_of_parseUri hparsed (by rw [hcut]; exact hraw), hcut, ← hlower]
    exact lower_schemeOf hascii

namespace CompositeStorage

/-- **The scheme that is authorized is the scheme that is served**: the adapter selected for a URI
the allowlist passed was registered under the scheme the URI parses to, which is allowed; and
`HttpFetchStorage` takes that scheme for `http` or `https` exactly when it is. -/
theorem select_authorized (hcolon : KeepsColon) {byScheme : Dict String α}
    (hkeys : ∀ key ∈ byScheme.keys, isScheme key.toList = true) {allowlist : SchemeAllowlist}
    {uri : String} {adapter : α} (hcheck : allowlist.check uri = .ok ())
    (hselect : (ofMapping byScheme).select uri = .ok adapter) :
    ∃ parsed key, parseUri uri = .ok parsed ∧ parsed.scheme ∈ allowlist.allowed ∧
      (key, adapter) ∈ byScheme.entries ∧ lower key = parsed.scheme ∧
        (∀ other ∈ (ofMapping byScheme).byScheme.entries, other.1 = parsed.scheme →
          other.2 = adapter) ∧
          (HttpFetchStorage.checkScheme uri = .ok () ↔ parsed.scheme ∈ httpSchemes) := by
  obtain ⟨parsed, hparsed, hallowed⟩ := SchemeAllowlist.check_eq_ok.mp hcheck
  obtain ⟨key, hkey, hlower⟩ := registered_of_select hselect
  have hscheme : isScheme (schemeOf uri).toList = true :=
    hlower ▸ isScheme_lower (hkeys key (List.mem_map.mpr ⟨_, hkey, rfl⟩))
  have hsame := scheme_eq_schemeOf hcolon hparsed hscheme
  refine ⟨parsed, key, hparsed, hallowed, hkey, hlower.trans hsame.symm, ?_, ?_⟩
  · rintro ⟨k, other⟩ hmem rfl
    have hget := Dict.get?_of_mem hmem
    rw [hsame, select_eq_ok.mp hselect] at hget
    exact (Option.some.inj hget).symm
  · rw [HttpFetchStorage.checkScheme_eq_ok, hsame]

end CompositeStorage

end

/-- A scheme in capitals on both sides. -/
theorem CompositeStorage.select_authorized_gs : ∃ parsed key,
    @parseUri UnicodeData.ascii "Gs://bucket/x" = .ok parsed ∧
      (key, 1) ∈ [("GS", 1), ("file", 2)] ∧ @lower UnicodeData.ascii key = parsed.scheme := by
  let _ : UnicodeData := UnicodeData.ascii
  let byScheme : Dict String Nat := ⟨[("GS", 1), ("file", 2)], by decide⟩
  have hcolon : KeepsColon := fun _ h => h
  have hkeys : ∀ key ∈ byScheme.keys, isScheme key.toList = true := by decide
  have hcheck : (SchemeAllowlist.ofList ["gs", "file"]).check "Gs://bucket/x" = .ok () := by decide
  have hselect : (ofMapping byScheme).select "Gs://bucket/x" = .ok 1 :=
    select_eq_ok.mpr (by decide)
  obtain ⟨parsed, key, hparsed, -, hkey, hlower, -⟩ :=
    select_authorized hcolon hkeys hcheck hselect
  exact ⟨parsed, key, hparsed, hkey, hlower⟩

end Grabatus

import Grabatus.Lib.Text
import Mathlib.Data.Finset.Basic
import Mathlib.Data.List.DropRight
import Mathlib.Data.List.Sort
import Mathlib.Data.String.Basic

/-!
# Python strings

What the service uses of `str`: `lower`, `isprintable`, `\d` and NFKC, which are fixed on ASCII
text and read the interpreter's tables beyond it (`UnicodeData`), `strip`, `repr`, `sorted` over a
set of strings, and `bytes`. Text is stored as `String` and taken apart as a list of code points.
-/

namespace Grabatus.Python

open Grabatus.Lib

/-- `bytes`. -/
abbrev Bytes := ByteArray

/-- Bytes are compared alike under any imports. -/
instance (priority := 2000) decidableEqBytes : DecidableEq Bytes := ByteArray.instDecidableEq

/-- The interpreter's Unicode tables, beyond ASCII. -/
class UnicodeData where
  /-- `str.lower`. -/
  lower : String → String
  /-- No character but `:` lower-cases to a `:`. -/
  lower_colon : ∀ s, ':' ∈ (lower s).toList → ':' ∈ s.toList
  /-- `str.title`. -/
  title : String → String
  /-- `unicodedata.normalize('NFKC', ·)`. -/
  nfkc : String → String
  /-- `str.isprintable` of one character. -/
  isPrintable : Char → Bool
  /-- The general category `Nd`. -/
  isDecimal : Char → Bool
  /-- `str(exc)` of the `UnicodeDecodeError` of bytes that are no UTF-8. -/
  decodeErrorText : ByteArray → String

/-- `str.isascii` of one character. -/
def isAscii (c : Char) : Bool := decide (c.toNat < 128)

/-- Tables without an entry: what they say of ASCII text is all that is used. -/
abbrev UnicodeData.ascii : UnicodeData where
  lower s := s
  lower_colon _ h := h
  title s := s
  nfkc s := s
  isPrintable _ := false
  isDecimal _ := false
  decodeErrorText _ := "'utf-8' codec can't decode the bytes"

section

variable [UnicodeData]

/-- `s.lower()`. -/
def lower (s : String) : String :=
  if s.toList.all isAscii then String.ofList (s.toList.map Char.toLower) else UnicodeData.lower s

omit [UnicodeData] in
theorem eq_colon_of_toLower {c : Char} (h : c.toLower = ':') : c = ':' := by
  unfold Char.toLower at h
  split at h
  · rename_i hc
    have hval : (c.val + ('a'.val - 'A'.val)).toNat = 58 :=
      congrArg (fun d : Char => d.val.toNat) h
    have hlo : 65 ≤ c.val.toNat := UInt32.le_iff_toNat_le.mp hc.1
    have hhi : c.val.toNat ≤ 90 := UInt32.le_iff_toNat_le.mp hc.2
    have hdiff : ('a'.val - 'A'.val).toNat = 32 := by decide
    rw [UInt32.toNat_add, hdiff] at hval
    omega
  · exact h

theorem colon_of_mem_lower {s : String} (h : ':' ∈ (lower s).toList) : ':' ∈ s.toList := by
  unfold lower at h
  split at h
  · rw [String.toList_ofList] at h
    obtain ⟨c, hc, hcolon⟩ := List.mem_map.mp h
    exact eq_colon_of_toLower hcolon ▸ hc
  · exact UnicodeData.lower_colon s h

/-- `s.isprintable()` of one character. -/
def isPrintable (c : Char) : Bool :=
  if isAscii c then decide (32 ≤ c.toNat ∧ c.toNat < 127) else UnicodeData.isPrintable c

/-- `\d`: a decimal digit of Unicode. -/
def isDecimal (c : Char) : Bool := if isAscii c then c.isDigit else UnicodeData.isDecimal c

end

section Repr

variable [UnicodeData]

/-- One lower-case hexadecimal digit. -/
def hexDigit (n : Nat) : Char := "0123456789abcdef".toList.getD n '0'

/-- `n` in hexadecimal over `width` digits. -/
def hex : Nat → Nat → List Char
  | 0, _ => []
  | width + 1, n => hex width (n / 16) ++ [hexDigit (n % 16)]

/-- One character of `repr(s)` between quotes `quote`. -/
def reprChar (quote c : Char) : List Char :=
  if c = quote ∨ c = '\\' then ['\\', c]
  else if c = '\t' then ['\\', 't']
  else if c = '\n' then ['\\', 'n']
  else if c = '\r' then ['\\', 'r']
  else if isPrintable c then [c]
  else if c.toNat < 256 then '\\' :: 'x' :: hex 2 c.toNat
  else if c.toNat < 65536 then '\\' :: 'u' :: hex 4 c.toNat
  else '\\' :: 'U' :: hex 8 c.toNat

/-- `repr(s)`: single quotes, unless `s` has one and no double quote. -/
def pyRepr (s : String) : String :=
  let quote := if '\'' ∈ s.toList ∧ '"' ∉ s.toList then '"' else '\''
  String.ofList ([quote] ++ s.toList.flatMap (reprChar quote) ++ [quote])

/-- `repr` of a list of strings. -/
def pyReprList (l : List String) : String :=
  "[" ++ String.intercalate ", " (l.map pyRepr) ++ "]"

/-- `repr` of a tuple of two or more strings. -/
def pyReprTuple (l : List String) : String :=
  "(" ++ String.intercalate ", " (l.map pyRepr) ++ ")"

/-- `repr(None)` or `repr(s)`. -/
def pyReprOption : Option String → String
  | none => "None"
  | some s => pyRepr s

end Repr

/-- `sorted(s)` of a set of strings. -/
def sorted (s : Finset String) : List String :=
  Quot.liftOn s.val (List.insertionSort (· ≤ ·)) fun l l' h =>
    List.Perm.eq_of_pairwise' (List.pairwise_insertionSort (· ≤ ·) l)
      (List.pairwise_insertionSort (· ≤ ·) l')
      (((List.perm_insertionSort _ l).trans h).trans (List.perm_insertionSort _ l').symm)

theorem mem_sorted {s : Finset String} {v : String} : v ∈ sorted s ↔ v ∈ s := by
  rcases s with ⟨⟨l⟩, hl⟩
  exact List.mem_insertionSort _

/-- **`sorted` is strictly ascending**: a set holds no string twice. -/
theorem pairwise_sorted (s : Finset String) : (sorted s).Pairwise (· < ·) := by
  rcases s with ⟨⟨l⟩, hl⟩
  have hnodup : (List.insertionSort (· ≤ ·) l).Nodup :=
    (List.perm_insertionSort (· ≤ ·) l).nodup_iff.mpr hl
  have hascending := List.pairwise_insertionSort (· ≤ ·) l
  exact (hascending.and hnodup).imp fun h => lt_of_le_of_ne h.1 h.2

theorem sorted_eq_nil {s : Finset String} : sorted s = [] ↔ s = ∅ := by
  rw [List.eq_nil_iff_forall_not_mem, Finset.eq_empty_iff_forall_notMem]
  simp only [mem_sorted]

/-- `s.startswith(p)`. -/
def startsWith (s p : String) : Bool := p.toList.isPrefixOf s.toList

/-- `s.endswith(p)`. -/
def endsWith (s p : String) : Bool := p.toList.isSuffixOf s.toList

theorem startsWith_iff {s p : String} : startsWith s p = true ↔ p.toList <+: s.toList :=
  List.isPrefixOf_iff_prefix

/-! ## Whitespace -/

/-- `c.isspace()`: the characters of `str.strip`. -/
def isSpace (c : Char) : Bool :=
  decide (9 ≤ c.toNat ∧ c.toNat ≤ 13 ∨ 28 ≤ c.toNat ∧ c.toNat ≤ 32 ∨
    8192 ≤ c.toNat ∧ c.toNat ≤ 8202 ∨
      c.toNat ∈ [133, 160, 5760, 8232, 8233, 8239, 8287, 12288])

/-- `s.strip()`. -/
def strip (s : String) : String :=
  String.ofList ((s.toList.dropWhile isSpace).rdropWhile isSpace)

/-- Only a blank string strips to nothing. -/
theorem strip_eq_empty {s : String} : strip s = "" ↔ ∀ c ∈ s.toList, isSpace c = true := by
  unfold strip
  rw [String.ofList_eq_empty_iff, List.rdropWhile_eq_nil_iff]
  constructor
  · intro h c hc
    by_contra hspace
    -- what is left starts with a character that is no space
    have hleft : s.toList.dropWhile isSpace ≠ [] := fun hnil =>
      hspace (List.dropWhile_eq_nil_iff.mp hnil c hc)
    have hfirst := List.head_dropWhile_not isSpace hleft
    rw [h _ (List.head_mem hleft)] at hfirst
    exact absurd hfirst nofun
  · exact fun h c hc => h c ((List.dropWhile_sublist isSpace).mem hc)

/-! ## Letters and digits -/

/-- The letters lie between `A` and `z`. -/
theorem between_of_isAlpha {c : Char} (h : c.isAlpha = true) : 65 ≤ c.toNat ∧ c.toNat ≤ 122 := by
  have hA : 'A'.val.toNat = 65 := rfl
  have ha : 'a'.val.toNat = 97 := rfl
  have hZ : 'Z'.val.toNat = 90 := rfl
  have hz : 'z'.val.toNat = 122 := rfl
  have hval : c.val.toNat = c.toNat := rfl
  rcases Bool.or_eq_true_iff.mp h with hupper | hlower
  · have hbetween : 'A'.val ≤ c.val ∧ c.val ≤ 'Z'.val := of_decide_eq_true hupper
    simp only [UInt32.le_iff_toNat_le] at hbetween
    omega
  · obtain ⟨hge, hle⟩ : decide ('a'.val ≤ c.val) = true ∧ decide (c.val ≤ 'z'.val) = true :=
      Bool.and_eq_true_iff.mp hlower
    simp only [decide_eq_true_eq, UInt32.le_iff_toNat_le] at hge hle
    omega

theorem isAscii_of_isAlphanum {c : Char} (h : c.isAlphanum = true) : isAscii c = true := by
  refine decide_eq_true ?_
  rcases Bool.or_eq_true_iff.mp h with halpha | hdigit
  · have hbetween := between_of_isAlpha halpha
    omega
  · have hle : decide (c.val ≤ '9'.val) = true := (Bool.and_eq_true_iff.mp hdigit).2
    have hnine : '9'.val.toNat = 57 := rfl
    have hval : c.val.toNat = c.toNat := rfl
    simp only [decide_eq_true_eq, UInt32.le_iff_toNat_le] at hle
    omega

/-! ## Text and bytes -/

/-- `s.encode("utf-8")`. -/
def encodeUtf8 (s : String) : Bytes := s.toUTF8

/-- `b.decode("utf-8")`, when `b` is UTF-8. -/
def decodeUtf8 (b : Bytes) : Option String := String.fromUTF8? b

theorem decodeUtf8_encodeUtf8 (s : String) : decodeUtf8 (encodeUtf8 s) = some s := by
  unfold decodeUtf8 encodeUtf8 String.fromUTF8?
  rw [dif_pos (show s.toUTF8.IsValidUTF8 from s.isValidUTF8)]
  rfl

/-- Every code point of `s` is below 128: `s.isascii()`. -/
def isAsciiStr (s : String) : Bool := s.toList.all isAscii

end Grabatus.Python

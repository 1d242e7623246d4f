import Grabatus.Errors
import Grabatus.Lib.Schema
import Grabatus.Python.Datetime
import Grabatus.Python.UrlParse

/-!
# The leaf types of the contract

Model of the types of Pydantic that `contract/` uses. The values Pydantic parses for the contract,
and its parsers as parameters: a `Pydantic` instance says which JSON each leaf type accepts and
how a validation error reads. What the service relies on is a hypothesis where it is used, never a
field here.

A `UUID` is its 32 hexadecimal digits, so its canonical form determines it (`UUID.str_inj`) and is
36 characters long (`UUID.length_str`). An `AnyUrl` is its rendering, which is ASCII and has
brackets in its authority only around an IPv6 address; `urlsplit` accepts it
(`AnyUrl.urlsplit_text`).

Out of scope: how Pydantic reads a leaf, which is a parameter, and strict mode, which no model
asks for.
-/

namespace Grabatus

open Grabatus.Lib Grabatus.Lib.Text Grabatus.Python

/-! ## UUIDs -/

/-- `uuid.UUID`. -/
structure UUID where
  digits : List (Fin 16)
  length_eq : digits.length = 32
  deriving DecidableEq

namespace UUID

/-- There is a digit. -/
instance neZeroDigits : NeZero 16 := ⟨nofun⟩

/-- The digits from position `i` on, a dash before positions 8, 12, 16 and 20. -/
def render : Nat → List (Fin 16) → List Char
  | _, [] => []
  | i, d :: ds =>
    (if i ∈ [8, 12, 16, 20] then ['-'] else []) ++ hexDigit d.val :: render (i + 1) ds

/-- `str(uuid)`. -/
def str (u : UUID) : String := String.ofList (render 0 u.digits)

theorem hexDigit_inj : ∀ {a b : Fin 16}, hexDigit a.val = hexDigit b.val → a = b := by decide

theorem render_inj : ∀ {ds es : List (Fin 16)} {i : Nat}, render i ds = render i es → ds = es
  | [], [], _, _ => rfl
  | [], _ :: _, i, h => absurd h.symm (by simp [render])
  | _ :: _, [], i, h => absurd h (by simp [render])
  | d :: ds, e :: es, i, h => by
    simp only [render, List.append_cancel_left_eq, List.cons.injEq] at h
    rw [hexDigit_inj h.1, render_inj h.2]

/-- **A UUID is determined by its canonical form.** -/
theorem str_inj {u v : UUID} (h : u.str = v.str) : u = v := by
  have hd : u.digits = v.digits := render_inj (String.ofList_injective h)
  rcases u with ⟨ds, _⟩
  rcases v with ⟨es, _⟩
  obtain rfl : ds = es := hd
  rfl

theorem length_render : ∀ (ds : List (Fin 16)) (i : Nat),
    (render i ds).length =
      ds.length + ((List.range' i ds.length).filter (· ∈ [8, 12, 16, 20])).length
  | [], _ => rfl
  | d :: ds, i => by
    simp only [render, List.length_append, List.length_cons, length_render ds (i + 1),
      List.range'_succ]
    by_cases hi : i ∈ [8, 12, 16, 20]
    · rw [if_pos hi, List.filter_cons_of_pos (by simpa using hi)]
      simp only [List.length_cons, List.length_nil]
      omega
    · rw [if_neg hi, List.filter_cons_of_neg (by simpa using hi)]
      simp only [List.length_nil]
      omega

/-- The canonical form has 36 characters. -/
theorem length_str (u : UUID) : u.str.length = 36 := by
  unfold str
  rw [String.length_ofList, length_render, u.length_eq]
  decide

/-- `_PLACEHOLDER_REQUEST_ID`. -/
def placeholder : UUID := ⟨List.replicate 32 0, by decide⟩

end UUID

/-! ## URLs -/

/-- A bracket stands in an authority only around an IPv6 address, which the port may follow. -/
def BracketsIpv6 (netloc : List Char) : Prop :=
  ('[' ∉ netloc ∧ ']' ∉ netloc) ∨
    ∃ addr port ip, hostAndPort netloc = '[' :: addr ++ ']' :: port ∧ '[' ∈ netloc ∧
      ']' ∉ addr ∧ addr.head? ≠ some 'v' ∧ (port = [] ∨ port.head? = some ':') ∧
        ipAddress addr = some (.v6 ip)

/-- `AnyUrl`: its rendering. -/
structure AnyUrl where
  text : String
  ascii : ∀ c ∈ text.toList, isAscii c = true
  brackets : BracketsIpv6 (parts text.toList).netloc

theorem AnyUrl.ext : ∀ {u v : AnyUrl}, u.text = v.text → u = v
  | ⟨_, _, _⟩, ⟨_, _, _⟩, rfl => rfl

instance : DecidableEq AnyUrl := fun u v =>
  decidable_of_iff (u.text = v.text) ⟨AnyUrl.ext, congrArg AnyUrl.text⟩

/-- `HttpUrl`: its scheme and its rendering. -/
structure HttpUrl where
  scheme : String
  text : String
  deriving DecidableEq

section

variable [UnicodeData]

theorem checkBrackets_of_ipv6 {netloc : List Char} (h : BracketsIpv6 netloc) :
    checkBrackets netloc = .ok () := by
  rcases h with ⟨hopen, hclose⟩ | ⟨addr, port, ip, hhost, hopen, haddr, hv, hport, hip⟩
  · unfold checkBrackets
    rw [if_neg (by simp [hopen, hclose]), if_neg hopen]
  · have hclose : ']' ∈ netloc := by
      have hmem : ']' ∈ hostAndPort netloc := by
        rw [hhost]
        simp
      exact (List.rtakeWhile_suffix _ _).mem hmem
    have hcut : cut '[' (hostAndPort netloc) = ([], some (addr ++ ']' :: port)) := by
      rw [hhost]
      rfl
    unfold checkBrackets checkBracketedNetloc
    rw [if_neg (by simp [hopen, hclose]), if_pos hopen, hcut]
    simp only [ne_eq, not_true_eq_false, if_false, cut_append haddr, Option.getD_some]
    rw [if_neg (by rcases hport with h | h <;> simp [h])]
    unfold checkBracketedHost
    split
    · exact absurd rfl hv
    · rw [hip]

theorem checkNetloc_of_ascii {netloc : List Char} (h : ∀ c ∈ netloc, isAscii c = true) :
    checkNetloc netloc = .ok () := if_pos (List.all_eq_true.mpr h)

/-- **`urlsplit` accepts every `AnyUrl`.** -/
theorem AnyUrl.urlsplit_text (u : AnyUrl) :
    urlsplit u.text.toList = .ok (parts u.text.toList) := by
  refine urlsplit_eq_ok.mpr ⟨checkBrackets_of_ipv6 u.brackets, checkNetloc_of_ascii ?_, rfl⟩
  exact fun c hc => u.ascii c (mem_of_mem_netloc hc)

end

/-- The parsers of the leaf types, in lax mode, the guard of the serializer, and the text of a
`ValidationError`. -/
class Pydantic where
  uuid : Json → Option UUID
  anyUrl : Json → Option AnyUrl
  httpUrl : Json → Option HttpUrl
  awareDatetime : Json → Option Datetime
  datetime : Json → Option Datetime
  date : Json → Option Date
  int : Json → Option Int
  float : Json → Option Double
  bool : Json → Option Bool
  /-- How a timestamp is dumped in JSON mode. -/
  dumpDatetime : Datetime → String
  /-- What the serializer raises on a document that it takes for circular, one nested too deep. -/
  circular : Json → Option PyException
  /-- `repr` of the value of a JSON document. -/
  repr : Json → String
  /-- The JSON parser behind `model_validate_json`. -/
  fromJson : Bytes → Option Json
  /-- `str(exc)` of the `ValidationError` of a model. -/
  errorText : String → List LineError → String

/-- The validator of a leaf type. -/
def leaf {α : Type} (type : String) (parse : Json → Option α) (j : Json) : Validated α :=
  match parse j with
  | some a => .ok a
  | none => .fail (.leaf type)

theorem leaf_eq_ok {α : Type} {type : String} {parse : Json → Option α} {j : Json} {a : α} :
    leaf type parse j = .ok a ↔ parse j = some a := by
  unfold leaf
  split <;> simp [*]

variable [Pydantic]

/-- `int` with `ge=lo`. -/
def intFrom (lo : Int) (j : Json) : Validated {n : Int // lo ≤ n} :=
  (leaf "int" Pydantic.int j).andThen fun n => if h : lo ≤ n then .ok ⟨n, h⟩ else .fail .outOfRange

/-- `float` with `gt=0.0` and `lt=1.0`: NaN is neither. -/
def unitFloat (j : Json) :
    Validated {x : Double // Double.lt (.finite 0) x = true ∧ x.lt (.finite 1) = true} :=
  (leaf "float" Pydantic.float j).andThen fun x =>
    if h : Double.lt (.finite 0) x = true ∧ x.lt (.finite 1) = true then .ok ⟨x, h⟩
    else .fail .outOfRange

/-- `float` with `ge=0.0`. -/
def nonnegFloat (j : Json) : Validated {x : Double // Double.le (.finite 0) x = true} :=
  (leaf "float" Pydantic.float j).andThen fun x =>
    if h : Double.le (.finite 0) x = true then .ok ⟨x, h⟩ else .fail .outOfRange

/-- `int` with `ge=lo` and `le=hi`. -/
def intBetween (lo hi : Int) (j : Json) : Validated {n : Int // lo ≤ n ∧ n ≤ hi} :=
  (leaf "int" Pydantic.int j).andThen fun n =>
    if h : lo ≤ n ∧ n ≤ hi then .ok ⟨n, h⟩ else .fail .outOfRange

theorem intBetween_eq_ok {lo hi : Int} {j : Json} {n : {n : Int // lo ≤ n ∧ n ≤ hi}} :
    intBetween lo hi j = .ok n ↔ Pydantic.int j = some n.val := by
  unfold intBetween
  rw [Validated.andThen_eq_ok]
  constructor
  · rintro ⟨m, hm, h⟩
    split at h
    · obtain rfl := Validated.ok.inj h
      exact leaf_eq_ok.mp hm
    · exact absurd h (Validated.fail_ne_ok _ _)
  · exact fun h => ⟨n.val, leaf_eq_ok.mpr h, dif_pos n.property⟩

end Grabatus

import Grabatus.Contract.Pydantic
import Grabatus.Python.JsonText

/-!
# Leaf values in their canonical text

Readers for the texts the platform writes: a UUID with its dashes, a URL that is its own
rendering, a timestamp in UTC, and JSON as `json.dumps` writes it. They make the leaf types of
`Pydantic` and the `json` module concrete: `Leaves.pydantic` and `Leaves.jsonText` read the
documents they are given (`fromJson_render`).
-/

namespace Grabatus.Leaves

open Grabatus.Lib Grabatus.Python

/-! ## UUIDs and URLs -/

/-- The value of a lower-case hexadecimal digit. -/
def hexValue (c : Char) : Option (Fin 16) := (List.finRange 16).find? fun d => hexDigit d.val = c

/-- The digits of a UUID, its dashes left out. -/
def hexValues : List Char → Option (List (Fin 16))
  | [] => some []
  | c :: cs =>
    if c = '-' then hexValues cs else (hexValue c).bind fun d => (hexValues cs).map (d :: ·)

/-- `UUID(s)` of 32 digits. -/
def parseUuid (s : String) : Option UUID :=
  (hexValues s.toList).bind fun ds => if h : ds.length = 32 then some ⟨ds, h⟩ else none

/-- A URL that is its own rendering: ASCII, without brackets in its authority. -/
def parseAnyUrl (s : String) : Option AnyUrl :=
  if h : (∀ c ∈ s.toList, isAscii c = true) ∧
      '[' ∉ (parts s.toList).netloc ∧ ']' ∉ (parts s.toList).netloc then
    some ⟨s, h.1, .inl h.2⟩
  else none

theorem parseAnyUrl_text (u : AnyUrl) (hopen : '[' ∉ (parts u.text.toList).netloc)
    (hclose : ']' ∉ (parts u.text.toList).netloc) : parseAnyUrl u.text = some u :=
  dif_pos ⟨u.ascii, hopen, hclose⟩

/-- An `http` URL that is its own rendering. -/
def parseHttpUrl (s : String) : Option HttpUrl :=
  some ⟨String.ofList (Text.cut ':' s.toList).1, s⟩

/-! ## Timestamps -/

/-- The number a run of digits writes. -/
def decimal (cs : List Char) : Nat := cs.foldl (fun n c => 10 * n + (c.toNat - '0'.toNat)) 0

/-- `YYYY-MM-DD`. -/
def parseDate (s : String) : Option Date :=
  match s.toList.splitOn '-' with
  | [year, month, day] => some ⟨decimal year, decimal month, decimal day⟩
  | _ => none

/-- `YYYY-MM-DDTHH:MM:SSZ`. -/
def parseTimestamp (s : String) : Option Datetime :=
  match s.toList.splitOn 'T' with
  | [date, time] =>
    match (time.dropLast).splitOn ':', parseDate (String.ofList date) with
    | [hour, minute, second], some date =>
      if time.getLast? = some 'Z' then
        some ⟨date, decimal hour, decimal minute, decimal second, 0, some 0⟩
      else none
    | _, _ => none
  | _ => none

/-- A timestamp in UTC, as `parseTimestamp` reads it. -/
def renderTimestamp (t : Datetime) : String :=
  { t with utcoffset := none }.isoformat ++ "Z"

/-! ## JSON text -/

/-- One character of a JSON string: ASCII, escaped where it must be. -/
def renderChar (c : Char) : List Char :=
  if c = '"' ∨ c = '\\' then ['\\', c]
  else if c = '\n' then ['\\', 'n']
  else if c = '\r' then ['\\', 'r']
  else if c = '\t' then ['\\', 't']
  else if c = '\x08' then ['\\', 'b']
  else if c = '\x0c' then ['\\', 'f']
  else if 32 ≤ c.toNat ∧ c.toNat < 127 then [c]
  else if c.toNat < 65536 then '\\' :: 'u' :: hex 4 c.toNat
  else '\\' :: 'u' :: hex 4 (55296 + (c.toNat - 65536) / 1024) ++
    '\\' :: 'u' :: hex 4 (56320 + (c.toNat - 65536) % 1024)

/-- A JSON string. -/
def renderString (s : String) : List Char := '"' :: s.toList.flatMap renderChar ++ ['"']

/-- A float Python writes without an exponent, of at most 16 decimals. -/
def renderFloat (q : ℚ) : List Char :=
  let width := ((List.range' 1 16).find? fun k => 10 ^ k % q.den = 0).getD 16
  let units := q.num.natAbs * (10 ^ width / q.den)
  (if q.num < 0 then ['-'] else []) ++
    ((toString (units / 10 ^ width) ++ "." ++ zeroPad width (units % 10 ^ width)).toList)

mutual

/-- `json.dumps`. -/
def render : Json → List Char
  | .null => "null".toList
  | .bool b => (if b then "true" else "false").toList
  | .int n => (toString n).toList
  | .float (.finite q) => renderFloat q
  | .float .posInf => "Infinity".toList
  | .float .negInf => "-Infinity".toList
  | .float .nan => "NaN".toList
  | .str s => renderString s
  | .arr items => '[' :: renderItems true items
  | .obj entries => '{' :: renderEntries true entries

/-- The items of an array and its closing bracket. -/
def renderItems : Bool → List Json → List Char
  | _, [] => [']']
  | first, j :: js => (if first then [] else [',', ' ']) ++ (render j ++ renderItems false js)

/-- The entries of an object and its closing bracket. -/
def renderEntries : Bool → List (String × Json) → List Char
  | _, [] => ['}']
  | first, (k, j) :: es =>
    (if first then [] else [',', ' ']) ++
      (renderString k ++ (':' :: ' ' :: render j) ++ renderEntries false es)

end

mutual

/-- How deep a document is nested. -/
def depth : Json → Nat
  | .arr items => depthItems items + 1
  | .obj entries => depthEntries entries + 1
  | _ => 0

/-- The depth of the deepest item. -/
def depthItems : List Json → Nat
  | [] => 0
  | j :: js => max (depth j) (depthItems js)

/-- The depth of the deepest entry. -/
def depthEntries : List (String × Json) → Nat
  | [] => 0
  | (_, j) :: es => max (depth j) (depthEntries es)

end

/-- The document among `docs` with this text. -/
def readAmong (docs : List Json) (text : String) : Option Json :=
  docs.find? fun j => String.ofList (render j) = text

/-- A document whose text no other one shares reads back from it. -/
theorem readAmong_render {docs : List Json} {j : Json} (hj : j ∈ docs)
    (hdistinct : ∀ j' ∈ docs, render j' = render j → j' = j) :
    readAmong docs (String.ofList (render j)) = some j := by
  unfold readAmong
  rcases hfind : docs.find? fun j' => String.ofList (render j') = String.ofList (render j) with
    - | j'
  · exact absurd (List.find?_eq_none.mp hfind j hj) (by simp)
  · have htext : String.ofList (render j') = String.ofList (render j) := by
      simpa using List.find?_some hfind
    rw [hdistinct j' (List.mem_of_find?_eq_some hfind) (String.ofList_injective htext)]

/-! ## The two interfaces -/

/-- The `json` module on the documents `docs`. -/
@[reducible] def jsonText (docs : List Json) : JsonText where
  dumps j := .ok (String.ofList (render j))
  loads text :=
    match readAmong docs text with
    | some j => .ok j
    | none => .error (.raised .jsonDecodeError ("Expecting value: " ++ text))

/-- The leaf types, over canonical texts. -/
@[reducible] def pydantic (docs : List Json) : Pydantic where
  uuid | .str s => parseUuid s | _ => none
  anyUrl | .str s => parseAnyUrl s | _ => none
  httpUrl | .str s => parseHttpUrl s | _ => none
  awareDatetime | .str s => parseTimestamp s | _ => none
  datetime | .str s => parseTimestamp s | _ => none
  date | .str s => parseDate s | _ => none
  int | .int n => some n | _ => none
  float | .float x => some x | .int n => some (.finite n) | _ => none
  bool | .bool b => some b | _ => none
  dumpDatetime := renderTimestamp
  circular _ := none
  repr j := String.ofList (render j)
  fromJson b := (decodeUtf8 b).bind (readAmong docs)
  errorText model es := toString es.length ++ " validation errors for " ++ model

/-- The leaf types read the one document they are given from its UTF-8 text. -/
theorem fromJson_render (j : Json) :
    (pydantic [j]).fromJson (encodeUtf8 (String.ofList (render j))) = some j := by
  show (decodeUtf8 (encodeUtf8 (String.ofList (render j)))).bind (readAmong [j]) = some j
  rw [decodeUtf8_encodeUtf8, Option.bind_some]
  exact readAmong_render List.mem_cons_self fun _ hj _ => List.mem_singleton.mp hj

end Grabatus.Leaves

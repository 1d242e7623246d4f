import Grabatus.Adapters.MessagePubsub
import Grabatus.Testing.JsonCode

/-!
# What `PubSubMessagePort` refuses, and what it reads back

Over `adapters/message_pubsub.py`, as `MessagePubsub` models it. The decoder is two readings of
JSON around the unwrapping of `message.data` (`decode_eq`), so both questions reduce to one
reading.

* **The decoder raises a `MalformedMessageError` or nothing exactly when** `json.loads` stays
  within the interpreter's limits on both texts (`decode_malformed_iff`): its plain `ValueError`
  and its `RecursionError` are not caught.
* **The decoder undoes the encoder**, and reads nothing of a body but the `message.data` string
  (`decode_encode`). Base64 is undone letter by letter (`b64decode_b64encode`); what the `json`
  module undoes is a hypothesis.
-/

namespace Grabatus

open Grabatus.Lib Grabatus.Python

/-- `sys.get_int_max_str_digits()`. -/
def intMaxStrDigits : Nat := 4300

/-- A JSON value as the `json` module holds it: integers it reads and writes, finite floats,
distinct keys. -/
inductive PlainJson : Json → Prop
  | null : PlainJson .null
  | bool (b : Bool) : PlainJson (.bool b)
  | int (n : Int) (digits : n.natAbs < 10 ^ intMaxStrDigits) : PlainJson (.int n)
  | float (q : ℚ) : PlainJson (.float (.finite q))
  | str (s : String) : PlainJson (.str s)
  | arr (items : List Json) (each : ∀ j ∈ items, PlainJson j) : PlainJson (.arr items)
  | obj (entries : JsonObject) (keys : (entries.map Prod.fst).Nodup)
      (each : ∀ e ∈ entries, PlainJson e.2) : PlainJson (.obj entries)

section

variable [JsonText]

/-- What `json.loads` raises: its own error, and the interpreter's two limits. -/
def LoadsRaises : Prop :=
  ∀ text e, JsonText.loads text = .error e →
    ∃ message, e = .raised .jsonDecodeError message ∨ e = .raised .valueError message ∨
      e = .raised .recursionError message

/-- `json.dumps` writes the document, and `json.loads` reads it back. -/
def ReadsBack (j : Json) : Prop :=
  ∃ text, JsonText.dumps j = .ok text ∧ JsonText.loads text = .ok j

/-- `json.loads` undoes `json.dumps`, on plain values and on those it returned. -/
structure LoadsUndoesDumps : Prop where
  plain : ∀ j, PlainJson j → ReadsBack j
  loaded : ∀ text j, JsonText.loads text = .ok j → ReadsBack j

/-- The bytes hold no text, or one `json.loads` reads without meeting a limit: no integer literal
too long, no nesting too deep. -/
def WithinLimits (b : Bytes) : Prop :=
  ∀ text, decodeUtf8 b = some text → ∀ message,
    JsonText.loads text ≠ .error (.raised .valueError message) ∧
      JsonText.loads text ≠ .error (.raised .recursionError message)

/-- A `MalformedMessageError`. -/
def IsMalformed (e : PyException) : Prop :=
  ∃ message, e = serviceError .malformedMessageError message

variable [UnicodeData]

/-! ## One reading -/

theorem loadsMalformed_malformed_iff (h : LoadsRaises) (text : String) {b : Bytes} :
    (∀ e, loadsMalformed text b = .error e → IsMalformed e) ↔ WithinLimits b := by
  unfold loadsMalformed loadsUtf8 decodeStrict WithinLimits
  rcases hdecode : decodeUtf8 b with - | s
  · refine ⟨fun _ _ => nofun, fun _ e he => ?_⟩
    exact ⟨_, (Except.error.inj he).symm⟩
  · constructor
    · intro hmalformed _ hs message
      obtain rfl := Option.some.inj hs
      constructor <;> intro hloads <;>
        exact absurd (hmalformed _ (by simp only [Except.mapError, bind, Except.bind, hloads]; rfl))
          (by rintro ⟨_, hm⟩; exact nomatch hm)
    · intro hlimits e he
      rcases hloads : JsonText.loads s with exc | j
      · obtain ⟨message, rfl | rfl | rfl⟩ := h s exc hloads
        · simp only [Except.mapError, bind, Except.bind, hloads] at he
          exact ⟨_, (Except.error.inj he).symm⟩
        · exact absurd hloads (hlimits s rfl message).1
        · exact absurd hloads (hlimits s rfl message).2
      · simp only [Except.mapError, bind, Except.bind, hloads] at he
        exact absurd he nofun

theorem loadsMalformed_encodeUtf8 {j : Json} {text : String} (h : JsonText.loads text = .ok j)
    (message : String) : loadsMalformed message (encodeUtf8 text) = .ok j := by
  unfold loadsMalformed loadsUtf8 decodeStrict
  rw [decodeUtf8_encodeUtf8]
  show (JsonText.loads text).mapError _ = _
  rw [h]
  rfl

/-- A document read from bytes was read from a text. -/
theorem loads_of_loadsMalformed {text : String} {b : Bytes} {j : Json}
    (h : loadsMalformed text b = .ok j) : ∃ s, JsonText.loads s = .ok j := by
  unfold loadsMalformed loadsUtf8 decodeStrict at h
  rcases hdecode : decodeUtf8 b with - | s
  · rw [hdecode] at h
    exact absurd h nofun
  · rw [hdecode] at h
    refine ⟨s, ?_⟩
    rcases hloads : JsonText.loads s with e | j'
    · simp only [Except.mapError, bind, Except.bind, hloads] at h
      exact absurd h nofun
    · simp only [Except.mapError, bind, Except.bind, hloads] at h
      exact h

namespace PubSubMessagePort

/-! ## The decoder as two readings -/

/-- The body's `message.data`. -/
def messageData (raw : RawMessage) : Except PyException String :=
  loadsMalformed "PubSub envelope is not valid UTF-8 JSON: " raw.payload >>= data

/-- The object `message.data` holds. -/
def readData (encoded : String) : Except PyException JsonObject := do
  let decodedBytes ← dataBytes encoded
  let payload ← loadsMalformed "PubSub decoded payload is not valid UTF-8 JSON: " decodedBytes
  payloadObject payload

/-- **The decoder reads nothing of a body but its `message.data`.** -/
theorem decode_eq (raw : RawMessage) : decode raw = messageData raw >>= readData := by
  unfold decode messageData readData
  rcases loadsMalformed "PubSub envelope is not valid UTF-8 JSON: " raw.payload with e | envelope
  · rfl
  · rfl

/-- The bytes a body wraps. -/
def wrappedBytes (raw : RawMessage) : Except PyException Bytes := messageData raw >>= dataBytes

/-- The same, up to the reading of the wrapped bytes. -/
theorem decode_eq_wrapped (raw : RawMessage) : decode raw = wrappedBytes raw >>= fun b =>
    loadsMalformed "PubSub decoded payload is not valid UTF-8 JSON: " b >>= payloadObject := by
  rw [decode_eq, wrappedBytes]
  rcases messageData raw with e | encoded <;> rfl

/-! ## Refusals -/

omit [JsonText] in
theorem data_malformed {envelope : Json} {e : PyException} (h : data envelope = .error e) :
    IsMalformed e := by
  unfold data at h
  split at h
  · split at h
    · split at h
      · exact absurd h nofun
      · exact ⟨_, (Except.error.inj h).symm⟩
    · exact ⟨_, (Except.error.inj h).symm⟩
  · exact ⟨_, (Except.error.inj h).symm⟩

omit [UnicodeData] [JsonText] in
theorem dataBytes_malformed {encoded : String} {e : PyException}
    (h : dataBytes encoded = .error e) : IsMalformed e := by
  unfold dataBytes at h
  rcases hbytes : b64decode encoded with exc | bytes
  · rw [hbytes] at h
    exact ⟨_, (Except.error.inj h).symm⟩
  · rw [hbytes] at h
    exact absurd h nofun

omit [UnicodeData] [JsonText] in
theorem payloadObject_malformed {payload : Json} {e : PyException}
    (h : payloadObject payload = .error e) : IsMalformed e := by
  unfold payloadObject at h
  split at h
  · exact absurd h nofun
  · exact ⟨_, (Except.error.inj h).symm⟩

theorem wrappedBytes_malformed_iff (h : LoadsRaises) {raw : RawMessage} :
    (∀ e, wrappedBytes raw = .error e → IsMalformed e) ↔ WithinLimits raw.payload := by
  rw [← loadsMalformed_malformed_iff h "PubSub envelope is not valid UTF-8 JSON: "]
  unfold wrappedBytes messageData
  constructor
  · intro hmalformed e he
    exact hmalformed e (by rw [he]; rfl)
  · intro hread e he
    rcases bind_eq_error.mp he with hdata | ⟨encoded, -, hbytes⟩
    · rcases bind_eq_error.mp hdata with henvelope | ⟨envelope, -, hdata⟩
      · exact hread e henvelope
      · exact data_malformed hdata
    · exact dataBytes_malformed hbytes

/-- **The decoder raises a `MalformedMessageError` or nothing exactly when** `json.loads` meets no
limit, neither on the body nor on the payload it wraps. -/
theorem decode_malformed_iff (h : LoadsRaises) (raw : RawMessage) :
    (∀ e, decode raw = .error e → IsMalformed e) ↔
      WithinLimits raw.payload ∧ ∀ b, wrappedBytes raw = .ok b → WithinLimits b := by
  rw [decode_eq_wrapped, ← wrappedBytes_malformed_iff h]
  constructor
  · intro hmalformed
    refine ⟨fun e he => hmalformed e (by rw [he]; rfl), fun b hb => ?_⟩
    rw [hb] at hmalformed
    refine (loadsMalformed_malformed_iff h
      "PubSub decoded payload is not valid UTF-8 JSON: ").mp fun e he => hmalformed e ?_
    show loadsMalformed _ b >>= payloadObject = _
    rw [he]
    rfl
  · rintro ⟨hwrapped, hpayload⟩ e he
    rcases bind_eq_error.mp he with hbytes | ⟨b, hb, hrest⟩
    · exact hwrapped e hbytes
    · rcases bind_eq_error.mp hrest with hread | ⟨payload, -, hobject⟩
      · exact (loadsMalformed_malformed_iff h _).mpr (hpayload b hb) e hread
      · exact payloadObject_malformed hobject

/-! ## The round trip -/

omit [UnicodeData] [JsonText] in
theorem plain_envelope (s : String) :
    PlainJson (.obj [("message", .obj [("data", .str s)])]) := by
  have hinner : PlainJson (.obj [("data", .str s)]) :=
    .obj _ (List.nodup_singleton _) (by simpa using PlainJson.str s)
  exact .obj _ (List.nodup_singleton _) (by simpa using hinner)

/-- An object that is written is wrapped: its text is the `message.data` of the body. -/
theorem encode_of_dumps (h : LoadsUndoesDumps) {d : JsonObject} {text : String}
    (hd : JsonText.dumps (.obj d) = .ok text) :
    ∃ body, encode d = .ok body ∧ messageData ⟨body⟩ = .ok (b64encode (encodeUtf8 text)) := by
  obtain ⟨wrapper, hdumps, hloads⟩ := h.plain _ (plain_envelope (b64encode (encodeUtf8 text)))
  refine ⟨encodeUtf8 wrapper, ?_, ?_⟩
  · unfold encode
    simp only [bind, Except.bind, hd, hdumps]
    rfl
  · unfold messageData
    rw [loadsMalformed_encodeUtf8 hloads]
    rfl

/-- What the `json` module reads back, the codec does. -/
theorem decode_encode_of_readsBack (h : LoadsUndoesDumps) {d : JsonObject}
    (hd : ReadsBack (.obj d)) : ∃ body, encode d = .ok body ∧ decode ⟨body⟩ = .ok d := by
  obtain ⟨text, hdumps, hloads⟩ := hd
  obtain ⟨body, hencode, hdata⟩ := encode_of_dumps h hdumps
  refine ⟨body, hencode, ?_⟩
  rw [decode_eq, hdata]
  show readData _ = _
  unfold readData dataBytes
  rw [b64decode_b64encode]
  show loadsMalformed _ _ >>= payloadObject = _
  rw [loadsMalformed_encodeUtf8 hloads]
  rfl

/-- A decoded object was read by `json.loads`. -/
theorem loads_of_decode {raw : RawMessage} {d : JsonObject} (h : decode raw = .ok d) :
    ∃ text, JsonText.loads text = .ok (.obj d) := by
  rw [decode_eq_wrapped] at h
  rcases hb : wrappedBytes raw with e | b
  · rw [hb] at h
    exact absurd h nofun
  · rw [hb] at h
    rcases hj : loadsMalformed "PubSub decoded payload is not valid UTF-8 JSON: " b with e | j
    · simp only [bind, Except.bind, hj] at h
      exact absurd h nofun
    · simp only [bind, Except.bind, hj] at h
      unfold payloadObject at h
      split at h
      · obtain rfl := Except.ok.inj h
        exact loads_of_loadsMalformed hj
      · exact absurd h nofun

/-- **The codec round trip**: every plain object is read back from its encoding; and what a body
decodes to is decided by its `message.data` alone and read back from its own encoding. -/
theorem decode_encode (h : LoadsUndoesDumps) :
    (∀ d, PlainJson (.obj d) → ∃ body, encode d = .ok body ∧ decode ⟨body⟩ = .ok d) ∧
      ∀ raw d, decode raw = .ok d →
        (∃ s, messageData raw = .ok s ∧
          ∀ raw', messageData raw' = .ok s → decode raw' = .ok d) ∧
          ∃ body, encode d = .ok body ∧ decode ⟨body⟩ = .ok d := by
  refine ⟨fun d hd => decode_encode_of_readsBack h (h.plain _ hd), fun raw d hraw => ⟨?_, ?_⟩⟩
  · rcases hs : messageData raw with e | s
    · rw [decode_eq, hs] at hraw
      exact absurd hraw nofun
    · refine ⟨s, rfl, fun raw' hs' => ?_⟩
      rw [decode_eq, hs', ← hs, ← decode_eq, hraw]
  · obtain ⟨text, htext⟩ := loads_of_decode hraw
    exact decode_encode_of_readsBack h (h.loaded text _ htext)

end PubSubMessagePort

end

end Grabatus

/-! ## Bodies -/

namespace Grabatus

open Grabatus.Lib Grabatus.Python

namespace PubSubMessagePort

/-- The `json` module on a text that is one integer literal: the interpreter converts at most
4300 digits. -/
@[reducible] def integerText : JsonText where
  dumps j := .ok (String.ofList (Leaves.render j))
  loads text :=
    if text.toList ≠ [] ∧ text.toList.all Char.isDigit = true then
      if intMaxStrDigits < text.length then
        .error (.raised .valueError
          ("Exceeds the limit (4300 digits) for integer string conversion: value has " ++
            toString text.length ++
              " digits; use sys.set_int_max_str_digits() to increase the limit"))
      else .ok (.int (Leaves.decimal text.toList))
    else .error (.raised .jsonDecodeError ("Expecting value: " ++ text))

/-- A body of `n` digits. -/
def digits (n : Nat) : RawMessage := ⟨encodeUtf8 (String.ofList (List.replicate n '1'))⟩

theorem loadsRaises_integerText : @LoadsRaises integerText := by
  intro text e he
  simp only [JsonText.loads] at he
  split at he
  · split at he
    · exact ⟨_, .inr (.inl (Except.error.inj he).symm)⟩
    · exact absurd he nofun
  · exact ⟨_, .inl (Except.error.inj he).symm⟩

theorem decode_digits {n : Nat} (hn : intMaxStrDigits < n) : ∃ message,
    @decode UnicodeData.ascii integerText (digits n) = .error (.raised .valueError message) := by
  have hlist : (String.ofList (List.replicate n '1')).toList = List.replicate n '1' :=
    String.toList_ofList
  have hdigits : (String.ofList (List.replicate n '1')).toList ≠ [] ∧
      (String.ofList (List.replicate n '1')).toList.all Char.isDigit = true := by
    rw [hlist]
    refine ⟨fun h => ?_, List.all_eq_true.mpr fun c hc => ?_⟩
    · rw [List.replicate_eq_nil_iff] at h
      omega
    · obtain rfl := List.eq_of_mem_replicate hc
      decide
  have hlength : intMaxStrDigits < (String.ofList (List.replicate n '1')).length := by
    rw [String.length_ofList, List.length_replicate]
    exact hn
  have hloads : ∃ message, @JsonText.loads integerText (String.ofList (List.replicate n '1')) =
      .error (.raised .valueError message) := ⟨_, by
    simp only [JsonText.loads, if_pos hdigits, if_pos hlength]
    rfl⟩
  obtain ⟨message, hloads⟩ := hloads
  refine ⟨message, ?_⟩
  unfold decode loadsMalformed loadsUtf8 decodeStrict digits
  rw [decodeUtf8_encodeUtf8]
  simp only [bind, Except.bind, hloads]
  rfl

/-- **A `ValueError` comes out** for a body of 4301 digits. -/
theorem decode_not_malformed : ¬ ∀ e,
    @decode UnicodeData.ascii integerText (digits 4301) = .error e → IsMalformed e := by
  obtain ⟨message, hmessage⟩ := decode_digits (n := 4301) (by decide)
  intro h
  obtain ⟨_, hm⟩ := h _ hmessage
  exact nomatch hm

/-- A body of two digits is refused as malformed: it is no object. -/
theorem decode_malformed_iff_two : (∀ e,
    @decode UnicodeData.ascii integerText (digits 2) = .error e → IsMalformed e) ↔
      @WithinLimits integerText (digits 2).payload ∧
        ∀ b, @wrappedBytes integerText UnicodeData.ascii (digits 2) = .ok b →
          @WithinLimits integerText b :=
  @decode_malformed_iff integerText UnicodeData.ascii loadsRaises_integerText (digits 2)

/-- A document with a value of every kind. -/
def mixed : JsonObject :=
  [("a", .null), ("b", .bool true), ("c", .int (-7)), ("d", .float (.finite (1 / 2))),
    ("e", .str "é"), ("f", .arr [.int 1, .str "x"]), ("g", .obj [])]

theorem plainJson_mixed : PlainJson (.obj mixed) := by
  have hint : ∀ n : Int, n.natAbs < 10 → PlainJson (.int n) := fun n hn =>
    .int n (Nat.lt_of_lt_of_le hn (Nat.le_self_pow (by decide) 10))
  refine .obj _ (by decide) ?_
  simp only [mixed, List.forall_mem_cons]
  refine ⟨.null, .bool _, hint _ (by decide), .float _, .str _, .arr _ ?_,
    .obj _ (by decide) ?_, ?_⟩
  · simp only [List.forall_mem_cons]
    exact ⟨hint _ (by decide), .str _, by simp⟩
  · simp
  · simp

/-- The body around it. -/
def mixedBody : Json :=
  .obj [("message", .obj [("data", .str
    (b64encode (encodeUtf8 (String.ofList (Leaves.render (.obj mixed))))))])]

/-- The two documents of its encoding. -/
def mixedDocs : List Json := [.obj mixed, mixedBody]

theorem distinct_mixedDocs : Leaves.Distinct mixedDocs := by
  have hne : Leaves.render (.obj mixed) ≠ Leaves.render mixedBody := by decide +kernel
  intro j hj j' hj' h
  simp only [mixedDocs, List.mem_cons, List.not_mem_nil, or_false] at hj hj'
  rcases hj with rfl | rfl <;> rcases hj' with rfl | rfl
  · rfl
  · exact absurd h hne
  · exact absurd h.symm hne
  · rfl

/-- The `json` module that tells the documents apart undoes what it writes. -/
theorem loadsUndoesDumps_codedText {docs : List Json} (h : Leaves.Distinct docs) :
    @LoadsUndoesDumps (Leaves.codedText docs) :=
  @LoadsUndoesDumps.mk (Leaves.codedText docs)
    (fun j _ => ⟨_, Leaves.loads_dumps_codedText docs h j⟩)
    fun _ j _ => ⟨_, Leaves.loads_dumps_codedText docs h j⟩

theorem decode_encode_mixed :
    ∃ body, @encode (Leaves.codedText mixedDocs) mixed = .ok body ∧
      @decode UnicodeData.ascii (Leaves.codedText mixedDocs) ⟨body⟩ = .ok mixed :=
  (@decode_encode (Leaves.codedText mixedDocs) UnicodeData.ascii
    (loadsUndoesDumps_codedText distinct_mixedDocs)).1 mixed plainJson_mixed

end PubSubMessagePort

end Grabatus

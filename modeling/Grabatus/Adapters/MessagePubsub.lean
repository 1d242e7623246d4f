import Grabatus.Ports.Ports
import Grabatus.Python.Base64
import Grabatus.Python.JsonText

/-!
# `PubSubMessagePort`

Model of `adapters/message_pubsub.py`. The decoder of a Pub/Sub push body, and the encoder of its
tests. Every refusal it words itself is a `MalformedMessageError`; only what `json.loads` raises
besides a `JSONDecodeError` comes out bare.

Out of scope: the `json` module, whose `loads` and `dumps` are parameters.
-/

namespace Grabatus

open Grabatus.Lib Grabatus.Python

/-- `type(value).__name__`. -/
def typeName : Json → String
  | .null => "NoneType"
  | .bool _ => "bool"
  | .int _ => "int"
  | .float _ => "float"
  | .str _ => "str"
  | .arr _ => "list"
  | .obj _ => "dict"

section

variable [UnicodeData]

/-- `b.decode("utf-8")`. -/
def decodeStrict (b : Bytes) : Except PyException String :=
  match decodeUtf8 b with
  | some s => .ok s
  | none => .error (.raised .unicodeDecodeError (UnicodeData.decodeErrorText b))

theorem decodeStrict_encodeUtf8 (text : String) : decodeStrict (encodeUtf8 text) = .ok text := by
  unfold decodeStrict
  rw [decodeUtf8_encodeUtf8]

variable [JsonText]

/-- `json.loads(b.decode("utf-8"))`. -/
def loadsUtf8 (b : Bytes) : Except PyException Json := do
  let text ← decodeStrict b
  JsonText.loads text

/-- The same, with its `UnicodeDecodeError` and `JSONDecodeError` raised again under `text`. -/
def loadsMalformed (text : String) (b : Bytes) : Except PyException Json :=
  (loadsUtf8 b).mapError fun exc =>
    if exc.isA [.unicodeDecodeError, .jsonDecodeError] then
      serviceError .malformedMessageError (text ++ exc.str)
    else exc

namespace PubSubMessagePort

/-- The push envelope's `message.data`. -/
def data (envelope : Json) : Except PyException String :=
  match envelope with
  | .obj o =>
    match (Dict.lookup "message" o).getD .null with
    | .obj message =>
      match (Dict.lookup "data" message).getD .null with
      | .str encoded => .ok encoded
      | j => .error (serviceError .malformedMessageError
          ("PubSub message.data must be a base64 string, got type=" ++ typeName j))
    | _ => .error (serviceError .malformedMessageError
        ("PubSub envelope is missing 'message' object; got keys=" ++
          pyReprList (sorted (o.map Prod.fst).toFinset)))
  | j => .error (serviceError .malformedMessageError
      ("PubSub envelope must be a JSON object, got type=" ++ typeName j))

/-- The bytes `message.data` encodes. -/
def dataBytes (encoded : String) : Except PyException Bytes :=
  (b64decode encoded).mapError fun exc =>
    serviceError .malformedMessageError ("PubSub message.data is not valid base64: " ++ exc)

/-- The payload as an object. -/
def payloadObject : Json → Except PyException JsonObject
  | .obj o => .ok o
  | j => .error (serviceError .malformedMessageError
      ("PubSub decoded payload must be a JSON object, got type=" ++ typeName j))

/-- `PubSubMessagePort.decode`. -/
def decode (raw : RawMessage) : Except PyException JsonObject := do
  let envelope ← loadsMalformed "PubSub envelope is not valid UTF-8 JSON: " raw.payload
  let encoded ← data envelope
  let decodedBytes ← dataBytes encoded
  let payload ← loadsMalformed "PubSub decoded payload is not valid UTF-8 JSON: " decodedBytes
  payloadObject payload

/-- `PubSubMessagePort.encode`. -/
def encode (envelope : JsonObject) : Except PyException Bytes := do
  let payload ← JsonText.dumps (.obj envelope)
  let encodedPayload := b64encode (encodeUtf8 payload)
  let body ← JsonText.dumps (.obj [("message", .obj [("data", .str encodedPayload)])])
  return encodeUtf8 body

end PubSubMessagePort

/-- `PubSubMessagePort` as a port. -/
def pubSubMessagePort (σ : Type) : MessagePort σ where
  decode raw := Op.ofExcept (PubSubMessagePort.decode raw)

end

end Grabatus

import Grabatus.Contract.SecretRef

/-!
# The sections of a contract

Model of `contract/version.py`, `contract/envelope.py`, `contract/identity.py`,
`contract/references.py`, `contract/service_descriptor.py` and `contract/callback.py`. `Envelope`,
`Identity`, `References`, `ServiceDescriptor` and `Callback`: each is the record of its checked
fields, its validator and its JSON dump. A record's validator undoes its dump as soon as the leaf
values in it survive (`Envelope.validate_dump` and its siblings).

Out of scope: `is_protocol_version_supported`, which has no caller, and the texts of Pydantic's
own errors.
-/

namespace Grabatus

open Grabatus.Lib Grabatus.Python

/-! ## Vocabularies and patterns -/

/-- `Origin`. -/
inductive Origin where
  | web
  | api
  | mcp
  | internal
  deriving DecidableEq

/-- The members of `Origin`. -/
def Origin.values : List (String × Origin) :=
  [("web", .web), ("api", .api), ("mcp", .mcp), ("internal", .internal)]

/-- An origin as the string it is. -/
def Origin.name : Origin → String
  | .web => "web"
  | .api => "api"
  | .mcp => "mcp"
  | .internal => "internal"

theorem Origin.lookup_name : ∀ o : Origin, Dict.lookup o.name Origin.values = some o
  | .web | .api | .mcp | .internal => by decide

/-- `ProtocolVersion`. -/
inductive ProtocolVersion where
  | v1_0
  | v1_1
  deriving DecidableEq

/-- The members of `ProtocolVersion`. -/
def ProtocolVersion.values : List (String × ProtocolVersion) := [("1.0", .v1_0), ("1.1", .v1_1)]

/-- A protocol version as the string it is. -/
def ProtocolVersion.name : ProtocolVersion → String
  | .v1_0 => "1.0"
  | .v1_1 => "1.1"

theorem ProtocolVersion.lookup_name :
    ∀ v : ProtocolVersion, Dict.lookup v.name ProtocolVersion.values = some v
  | .v1_0 | .v1_1 => by decide

/-- `SUPPORTED_PROTOCOL_VERSIONS`. -/
def supportedProtocolVersions : Finset String := {"1.0", "1.1"}

/-- `READOUT_PROTOCOL_VERSION`. -/
def readoutProtocolVersion : ProtocolVersion := .v1_1

/-- `[a-z]`. -/
def isLower (c : Char) : Bool := decide ('a' ≤ c ∧ c ≤ 'z')

/-- `[a-z0-9-]`. -/
def isTenantChar (c : Char) : Bool := isLower c || c.isDigit || c == '-'

/-- `^[a-z0-9-]+$`. -/
def tenantSlugPattern (s : String) : Bool := s.toList != [] && s.toList.all isTenantChar

/-- `^[a-z][a-z0-9_]*$`, and `^[a-z][a-z0-9_-]*$` when `dash`. -/
def slugPattern (dash : Bool) (s : String) : Bool :=
  match s.toList with
  | [] => false
  | c :: cs => isLower c && cs.all fun d => isLower d || d.isDigit || d == '_' || (dash && d == '-')

/-- `ROLE_PATTERN`. -/
def rolePattern : String → Bool := slugPattern false

/-- `_SERVICE_SLUG_PATTERN`. -/
def serviceSlugPattern : String → Bool := slugPattern true

/-- `^\d+\.\d+\.\d+$`; `\d` is any decimal digit of Unicode. -/
def semverPattern [UnicodeData] (s : String) : Bool :=
  let parts := s.toList.splitOn '.'
  parts.length == 3 && parts.all fun p => p != [] && p.all isDecimal

/-! ## Envelope -/

/-- Metadata that wraps every service request. -/
structure Envelope where
  protocolVersion : ProtocolVersion
  requestId : UUID
  createdAt : Datetime
  origin : Origin
  deriving DecidableEq

section

variable [Pydantic]

/-- `Envelope.model_validate`. -/
def Envelope.validate : Json → Validated Envelope :=
  model ["protocol_version", "request_id", "created_at", "origin"] fun o =>
    Envelope.mk <$> field o "protocol_version" (literal ProtocolVersion.values) <*>
      field o "request_id" (leaf "uuid" Pydantic.uuid) <*>
      field o "created_at" (leaf "datetime" Pydantic.awareDatetime) <*>
      field o "origin" (literal Origin.values)

/-- `model_dump(mode="json")`. -/
def Envelope.dump (e : Envelope) : Json :=
  .obj [("protocol_version", .str e.protocolVersion.name), ("request_id", .str e.requestId.str),
    ("created_at", .str (Pydantic.dumpDatetime e.createdAt)), ("origin", .str e.origin.name)]

/-- The leaf values of the envelope survive dump and re-validation. -/
structure Envelope.LeavesSurvive (e : Envelope) : Prop where
  requestId : Pydantic.uuid (.str e.requestId.str) = some e.requestId
  createdAt : Pydantic.awareDatetime (.str (Pydantic.dumpDatetime e.createdAt)) = some e.createdAt

instance (e : Envelope) : Decidable e.LeavesSurvive :=
  decidable_of_iff (Pydantic.uuid (.str e.requestId.str) = some e.requestId ∧
      Pydantic.awareDatetime (.str (Pydantic.dumpDatetime e.createdAt)) = some e.createdAt)
    ⟨fun h => ⟨h.1, h.2⟩, fun h => ⟨h.requestId, h.createdAt⟩⟩

theorem Envelope.validate_dump {e : Envelope} (h : e.LeavesSurvive) : validate e.dump = .ok e := by
  refine model_eq_ok.mpr ⟨_, rfl, ?_, by simp⟩
  simp [field, Dict.lookup, Undoes.literal ProtocolVersion.lookup_name e.protocolVersion,
    Undoes.literal Origin.lookup_name e.origin, leaf, h.requestId, h.createdAt]

end

/-! ## Identity, references and service -/

/-- `user_id: str = Field(min_length=1, max_length=64)`. -/
abbrev userIdSpec : StrSpec := { minLength := 1, maxLength := some 64 }

/-- `tenant_id: str = Field(min_length=1, max_length=64, pattern=_TENANT_SLUG_PATTERN)`. -/
abbrev tenantIdSpec : StrSpec :=
  { minLength := 1, maxLength := some 64, pattern := some tenantSlugPattern }

/-- Who is making the request. -/
structure Identity where
  userId : Str userIdSpec
  tenantId : Str tenantIdSpec
  deriving DecidableEq

/-- `Identity.model_validate`. -/
def Identity.validate : Json → Validated Identity :=
  model ["user_id", "tenant_id"] fun o =>
    Identity.mk <$> field o "user_id" (str userIdSpec) <*> field o "tenant_id" (str tenantIdSpec)

/-- `model_dump(mode="json")`. -/
def Identity.dump (i : Identity) : Json :=
  .obj [("user_id", .str i.userId.val), ("tenant_id", .str i.tenantId.val)]

theorem Identity.validate_dump (i : Identity) : validate i.dump = .ok i := by
  refine model_eq_ok.mpr ⟨_, rfl, ?_, by simp⟩
  simp [field, Dict.lookup]

/-- `Field(min_length=1, max_length=128)`. -/
abbrev platformIdSpec : StrSpec := { minLength := 1, maxLength := some 128 }

/-- Opaque IDs from the platform. -/
structure References where
  parameterId : Str platformIdSpec
  resultId : Str platformIdSpec
  deriving DecidableEq

/-- `References.model_validate`. -/
def References.validate : Json → Validated References :=
  model ["parameter_id", "result_id"] fun o =>
    References.mk <$> field o "parameter_id" (str platformIdSpec) <*>
      field o "result_id" (str platformIdSpec)

/-- `model_dump(mode="json")`. -/
def References.dump (r : References) : Json :=
  .obj [("parameter_id", .str r.parameterId.val), ("result_id", .str r.resultId.val)]

theorem References.validate_dump (r : References) : validate r.dump = .ok r := by
  refine model_eq_ok.mpr ⟨_, rfl, ?_, by simp⟩
  simp [field, Dict.lookup]

/-- `name: str = Field(min_length=1, max_length=64, pattern=_SERVICE_SLUG_PATTERN)`. -/
abbrev serviceNameSpec : StrSpec :=
  { minLength := 1, maxLength := some 64, pattern := some serviceSlugPattern }

/-- `version: str = Field(min_length=5, max_length=32, pattern=_SEMVER_PATTERN)`. -/
abbrev serviceVersionSpec [UnicodeData] : StrSpec :=
  { minLength := 5, maxLength := some 32, pattern := some semverPattern }

/-- Which service handles the request, and at what version. -/
structure ServiceDescriptor [UnicodeData] where
  name : Str serviceNameSpec
  version : Str serviceVersionSpec
  deriving DecidableEq

section

variable [UnicodeData]

/-- `ServiceDescriptor.model_validate`. -/
def ServiceDescriptor.validate : Json → Validated ServiceDescriptor :=
  model ["name", "version"] fun o =>
    ServiceDescriptor.mk <$> field o "name" (str serviceNameSpec) <*>
      field o "version" (str serviceVersionSpec)

/-- `model_dump(mode="json")`. -/
def ServiceDescriptor.dump (s : ServiceDescriptor) : Json :=
  .obj [("name", .str s.name.val), ("version", .str s.version.val)]

theorem ServiceDescriptor.validate_dump (s : ServiceDescriptor) : validate s.dump = .ok s := by
  refine model_eq_ok.mpr ⟨_, rfl, ?_, by simp⟩
  simp [field, Dict.lookup]

end

/-! ## Callback -/

/-- `AuthScheme`. -/
inductive AuthScheme where
  | jwtHs256
  deriving DecidableEq

/-- The members of `AuthScheme`. -/
def AuthScheme.values : List (String × AuthScheme) := [("jwt_hs256", .jwtHs256)]

/-- Webhook destination; its URL is https. -/
structure Callback where
  url : HttpUrl
  authScheme : AuthScheme
  https : url.scheme = "https"
  deriving DecidableEq

section

variable [UnicodeData] [Pydantic]

/-- The `url` field with its validator `_require_https`. -/
def Callback.validateUrl (j : Json) : Validated {u : HttpUrl // u.scheme = "https"} :=
  (leaf "http_url" Pydantic.httpUrl j).andThen fun url =>
    if h : url.scheme = "https" then .ok ⟨url, h⟩
    else .fail (.value ("Callback url must use https scheme, got " ++ pyRepr url.scheme))

/-- `Callback.model_validate`. -/
def Callback.validate : Json → Validated Callback :=
  model ["url", "auth_scheme"] fun o =>
    (fun url scheme => ⟨url.val, scheme, url.property⟩) <$> field o "url" Callback.validateUrl <*>
      field o "auth_scheme" (literal AuthScheme.values)

omit [UnicodeData] [Pydantic] in
/-- `model_dump(mode="json")`. -/
def Callback.dump (c : Callback) : Json :=
  .obj [("url", .str c.url.text), ("auth_scheme", .str "jwt_hs256")]

theorem Callback.validate_dump {c : Callback}
    (h : Pydantic.httpUrl (.str c.url.text) = some c.url) : validate c.dump = .ok c := by
  rcases c with ⟨url, ⟨⟩, hs⟩
  refine model_eq_ok.mpr ⟨_, rfl, ?_, by simp⟩
  simp only at h
  simp [field, Dict.lookup, Callback.validateUrl, leaf, literal, AuthScheme.values, h,
    Validated.andThen, hs]

end

end Grabatus

import Grabatus.Contract.Sections

/-!
# Inputs and outputs

Model of `contract/io_spec.py` and `contract/format_hints.py`. `FormatHints`, `InputSpec` and
`OutputSpec`. The hints are a union told apart by `format`, and a spec carries the check that its
own `format` is the hints'.

**What a dumped spec reads back as** (`InputSpec.validate_dump_eq_ok` and its twin): all of it
survives but the credential, which is what the collapsed URI parses to; and that is the credential
dumped exactly when its reference is `UriSafe` (`reread_eq_ok_self`).

Out of scope: the texts of Pydantic's own errors.
-/

namespace Grabatus

open Grabatus.Lib Grabatus.Python

/-! ## Vocabularies -/

/-- `DataFormat`. -/
inductive DataFormat where
  | xlsx
  | csv
  | json
  | parquet
  | bigquery
  | inline
  deriving DecidableEq

/-- The members of `DataFormat`. -/
def DataFormat.values : List (String × DataFormat) :=
  [("xlsx", .xlsx), ("csv", .csv), ("json", .json), ("parquet", .parquet),
    ("bigquery", .bigquery), ("inline", .inline)]

/-- A format as the string it is. -/
def DataFormat.name : DataFormat → String
  | .xlsx => "xlsx"
  | .csv => "csv"
  | .json => "json"
  | .parquet => "parquet"
  | .bigquery => "bigquery"
  | .inline => "inline"

theorem DataFormat.lookup_name : ∀ f : DataFormat, Dict.lookup f.name DataFormat.values = some f
  | .xlsx | .csv | .json | .parquet | .bigquery | .inline => by decide

/-- `Compression`. -/
inductive Compression where
  | none
  | gzip
  | zstd
  deriving DecidableEq

/-- The members of `Compression`. -/
def Compression.values : List (String × Compression) :=
  [("none", .none), ("gzip", .gzip), ("zstd", .zstd)]

/-- A compression as the string it is. -/
def Compression.name : Compression → String
  | .none => "none"
  | .gzip => "gzip"
  | .zstd => "zstd"

theorem Compression.lookup_name :
    ∀ c : Compression, Dict.lookup c.name Compression.values = some c
  | .none | .gzip | .zstd => by decide

/-- `WriteMode`. -/
inductive WriteMode where
  | overwrite
  | append
  | failIfExists
  deriving DecidableEq

/-- The members of `WriteMode`. -/
def WriteMode.values : List (String × WriteMode) :=
  [("overwrite", .overwrite), ("append", .append), ("fail_if_exists", .failIfExists)]

/-- A write mode as the string it is. -/
def WriteMode.name : WriteMode → String
  | .overwrite => "overwrite"
  | .append => "append"
  | .failIfExists => "fail_if_exists"

theorem WriteMode.lookup_name : ∀ m : WriteMode, Dict.lookup m.name WriteMode.values = some m
  | .overwrite | .append | .failIfExists => by decide

/-! ## Format hints -/

/-- `Field(default=…, min_length=1, max_length=max)`. -/
abbrev hintSpec (max : Nat) : StrSpec := { minLength := 1, maxLength := some max }

/-- `Field(default=None, max_length=max)`. -/
abbrev optionalHintSpec (max : Nat) : StrSpec := { maxLength := some max }

/-- `FormatHints`: the options of one format. -/
inductive FormatHints where
  | xlsx (sheet : Str (hintSpec 64)) (header : {n : Int // 0 ≤ n ∧ n ≤ 128})
  | csv (delimiter : Str (hintSpec 4)) (encoding : Str (hintSpec 32))
  | json
  | parquet (partition : Option (Str (optionalHintSpec 256)))
  | bigquery (query : Option (Str (optionalHintSpec 8192))) (location : Str (hintSpec 32))
  | inline
  deriving DecidableEq

namespace FormatHints

/-- The discriminator. -/
def format : FormatHints → DataFormat
  | xlsx _ _ => .xlsx
  | csv _ _ => .csv
  | json => .json
  | parquet _ => .parquet
  | bigquery _ _ => .bigquery
  | inline => .inline

variable [Pydantic]

/-- The member of the union for a format. -/
def validateAs : DataFormat → Json → Validated FormatHints
  | .xlsx => model ["format", "sheet", "header"] fun o =>
      FormatHints.xlsx <$> fieldOr o "sheet" ⟨"Sheet1", by decide⟩ (str _) <*>
        fieldOr o "header" ⟨0, by decide⟩ (intBetween 0 128)
  | .csv => model ["format", "delimiter", "encoding"] fun o =>
      FormatHints.csv <$> fieldOr o "delimiter" ⟨",", by decide⟩ (str _) <*>
        fieldOr o "encoding" ⟨"utf-8", by decide⟩ (str _)
  | .json => model ["format"] fun _ => .ok FormatHints.json
  | .parquet => model ["format", "partition"] fun o =>
      FormatHints.parquet <$> fieldOr o "partition" none (nullable (str _))
  | .bigquery => model ["format", "query", "location"] fun o =>
      FormatHints.bigquery <$> fieldOr o "query" none (nullable (str _)) <*>
        fieldOr o "location" ⟨"US", by decide⟩ (str _)
  | .inline => model ["format"] fun _ => .ok FormatHints.inline

/-- The discriminated union: `format` selects the member. -/
def validate : Json → Validated FormatHints
  | .obj o =>
    match Dict.lookup "format" o with
    | some (.str s) =>
      match Dict.lookup s DataFormat.values with
      | some f => validateAs f (.obj o)
      | none => .fail (.unionTag (DataFormat.values.map Prod.fst))
    | _ => .fail (.unionTag (DataFormat.values.map Prod.fst))
  | _ => .fail .modelType

omit [Pydantic] in
/-- The fields of the member besides `format`. -/
def dumpFields : FormatHints → JsonObject
  | xlsx sheet header => [("sheet", .str sheet.val), ("header", .int header.val)]
  | csv delimiter encoding => [("delimiter", .str delimiter.val), ("encoding", .str encoding.val)]
  | json => []
  | parquet partition => [("partition", dumpNullable (fun s => .str s.val) partition)]
  | bigquery query location =>
    [("query", dumpNullable (fun s => .str s.val) query), ("location", .str location.val)]
  | inline => []

omit [Pydantic] in
/-- `model_dump(mode="json")`. -/
def dump (h : FormatHints) : Json := .obj (("format", .str h.format.name) :: h.dumpFields)

/-- The integers of the hints survive dump and re-validation. -/
def LeavesSurvive : FormatHints → Prop
  | xlsx _ header => Pydantic.int (.int header.val) = some header.val
  | _ => True

instance : ∀ h : FormatHints, Decidable h.LeavesSurvive
  | .xlsx _ header => inferInstanceAs (Decidable (Pydantic.int (.int header.val) = some header.val))
  | .csv _ _ | .json | .parquet _ | .bigquery _ _ | .inline => inferInstanceAs (Decidable True)

omit [Pydantic] in
theorem format_json : json.format = .json := rfl

omit [Pydantic] in
theorem nullable_str {c : StrSpec} (s : Option (Str c)) :
    nullable (str c) (dumpNullable (fun s => .str s.val) s) = .ok s :=
  Undoes.nullable (Undoes.str c) (fun _ => nofun) s

theorem validateAs_dump {h : FormatHints} (hs : h.LeavesSurvive) :
    validateAs h.format h.dump = .ok h := by
  cases h with
  | xlsx sheet header =>
    simp only [validateAs, dump, format, dumpFields]
    refine model_eq_ok.mpr ⟨_, rfl, ?_, by simp⟩
    simp [fieldOr, Dict.lookup, intBetween_eq_ok.mpr hs]
  | csv delimiter encoding =>
    simp only [validateAs, dump, format, dumpFields]
    refine model_eq_ok.mpr ⟨_, rfl, ?_, by simp⟩
    simp [fieldOr, Dict.lookup]
  | parquet partition =>
    simp only [validateAs, dump, format, dumpFields]
    refine model_eq_ok.mpr ⟨_, rfl, ?_, by simp⟩
    simp [fieldOr, Dict.lookup, nullable_str]
  | bigquery query location =>
    simp only [validateAs, dump, format, dumpFields]
    refine model_eq_ok.mpr ⟨_, rfl, ?_, by simp⟩
    simp [fieldOr, Dict.lookup, nullable_str]
  | json =>
    simp only [validateAs, dump, format, dumpFields]
    exact model_eq_ok.mpr ⟨_, rfl, rfl, by simp⟩
  | inline =>
    simp only [validateAs, dump, format, dumpFields]
    exact model_eq_ok.mpr ⟨_, rfl, rfl, by simp⟩

theorem validate_dump {h : FormatHints} (hs : h.LeavesSurvive) : validate h.dump = .ok h := by
  simp only [validate, dump, Dict.lookup, if_pos, DataFormat.lookup_name]
  exact validateAs_dump hs

end FormatHints

/-! ## Specs -/

/-- `role: str = Field(min_length=1, max_length=32, pattern=ROLE_PATTERN)`. -/
abbrev roleSpec : StrSpec := { minLength := 1, maxLength := some 32, pattern := some rolePattern }

/-- Declarative description of an input. -/
structure InputSpec where
  role : Str roleSpec
  sourceUri : AnyUrl
  format : DataFormat
  formatHints : FormatHints
  compression : Compression
  credentialRef : Option SecretRef
  format_matches : formatHints.format = format
  deriving DecidableEq

/-- Declarative description of an output. -/
structure OutputSpec where
  role : Str roleSpec
  destinationUri : AnyUrl
  format : DataFormat
  formatHints : FormatHints
  compression : Compression
  writeMode : WriteMode
  credentialRef : Option SecretRef
  format_matches : formatHints.format = format
  deriving DecidableEq

section

variable [UnicodeData] [Pydantic]

/-- `_format_matches_hints`, over what is built when the formats agree. -/
def formatMatchesHints {α : Type} (hints : FormatHints) (format : DataFormat)
    (build : hints.format = format → α) : Validated α :=
  require (hints.format = format) ("format_hints.format=" ++ pyRepr hints.format.name ++
    " does not match format=" ++ pyRepr format.name) build

/-- `credential_ref: SecretRef | None = None`. -/
def credentialField (o : JsonObject) : Validated (Option SecretRef) :=
  fieldOr o "credential_ref" none (nullable SecretRef.validate)

/-- `InputSpec.model_validate`. -/
def InputSpec.validate (j : Json) : Validated InputSpec :=
  (model ["role", "source_uri", "format", "format_hints", "compression", "credential_ref"]
    (fun o => (fun role uri format hints compression ref =>
        formatMatchesHints hints format fun h =>
          InputSpec.mk role uri format hints compression ref h) <$>
      field o "role" (str roleSpec) <*>
      field o "source_uri" (leaf "url" Pydantic.anyUrl) <*>
      field o "format" (literal DataFormat.values) <*>
      field o "format_hints" FormatHints.validate <*>
      fieldOr o "compression" .none (literal Compression.values) <*>
      credentialField o) j).andThen id

/-- `OutputSpec.model_validate`. -/
def OutputSpec.validate (j : Json) : Validated OutputSpec :=
  (model ["role", "destination_uri", "format", "format_hints", "compression", "write_mode",
      "credential_ref"]
    (fun o => (fun role uri format hints compression mode ref =>
        formatMatchesHints hints format fun h =>
          OutputSpec.mk role uri format hints compression mode ref h) <$>
      field o "role" (str roleSpec) <*>
      field o "destination_uri" (leaf "url" Pydantic.anyUrl) <*>
      field o "format" (literal DataFormat.values) <*>
      field o "format_hints" FormatHints.validate <*>
      fieldOr o "compression" .none (literal Compression.values) <*>
      fieldOr o "write_mode" .overwrite (literal WriteMode.values) <*>
      credentialField o) j).andThen id

omit [UnicodeData] [Pydantic] in
/-- `InputSpec.model_dump(mode="json")`. -/
def InputSpec.dump (s : InputSpec) : Json :=
  .obj [("role", .str s.role.val), ("source_uri", .str s.sourceUri.text),
    ("format", .str s.format.name), ("format_hints", s.formatHints.dump),
    ("compression", .str s.compression.name),
    ("credential_ref", dumpNullable SecretRef.dump s.credentialRef)]

omit [UnicodeData] [Pydantic] in
/-- `OutputSpec.model_dump(mode="json")`. -/
def OutputSpec.dump (s : OutputSpec) : Json :=
  .obj [("role", .str s.role.val), ("destination_uri", .str s.destinationUri.text),
    ("format", .str s.format.name), ("format_hints", s.formatHints.dump),
    ("compression", .str s.compression.name), ("write_mode", .str s.writeMode.name),
    ("credential_ref", dumpNullable SecretRef.dump s.credentialRef)]

/-- The leaf values of an input survive dump and re-validation. -/
structure InputSpec.LeavesSurvive (s : InputSpec) : Prop where
  sourceUri : Pydantic.anyUrl (.str s.sourceUri.text) = some s.sourceUri
  formatHints : s.formatHints.LeavesSurvive

/-- The leaf values of an output survive dump and re-validation. -/
structure OutputSpec.LeavesSurvive (s : OutputSpec) : Prop where
  destinationUri : Pydantic.anyUrl (.str s.destinationUri.text) = some s.destinationUri
  formatHints : s.formatHints.LeavesSurvive

omit [UnicodeData] in
instance (s : InputSpec) : Decidable s.LeavesSurvive :=
  decidable_of_iff (Pydantic.anyUrl (.str s.sourceUri.text) = some s.sourceUri ∧
      s.formatHints.LeavesSurvive)
    ⟨fun h => ⟨h.1, h.2⟩, fun h => ⟨h.sourceUri, h.formatHints⟩⟩

omit [UnicodeData] in
instance (s : OutputSpec) : Decidable s.LeavesSurvive :=
  decidable_of_iff (Pydantic.anyUrl (.str s.destinationUri.text) = some s.destinationUri ∧
      s.formatHints.LeavesSurvive)
    ⟨fun h => ⟨h.1, h.2⟩, fun h => ⟨h.destinationUri, h.formatHints⟩⟩

/-- What the credential of a dumped spec reads back as. -/
def reread (ref : Option SecretRef) : Validated (Option SecretRef) :=
  nullable SecretRef.validate (dumpNullable SecretRef.dump ref)

omit [Pydantic] in
/-- A credential reads back as itself exactly when its reference is `UriSafe`. -/
theorem reread_eq_ok_self {ref : Option SecretRef} :
    reread ref = .ok ref ↔ ∀ r ∈ ref, r.UriSafe := by
  cases ref with
  | none => exact ⟨fun _ => by simp, fun _ => rfl⟩
  | some r =>
    show some <$> SecretRef.validate (.str r.toUri) = .ok (some r) ↔ _
    simp [SecretRef.validate_toUri]

/-- **An input with a collapsed credential**: all of it reads back but the credential, which is
what the URI parses to. -/
theorem InputSpec.validate_dump_eq_ok {s s' : InputSpec} (h : s.LeavesSurvive) :
    validate s.dump = .ok s' ↔
      reread s.credentialRef = .ok s'.credentialRef ∧
        s' = { s with credentialRef := s'.credentialRef } := by
  simp only [validate, Validated.andThen_eq_ok, id_eq, model_eq_ok, dump, Json.obj.injEq]
  simp [field, fieldOr, credentialField, Dict.lookup, leaf, h.sourceUri,
    Undoes.literal DataFormat.lookup_name s.format, FormatHints.validate_dump h.formatHints,
    Undoes.literal Compression.lookup_name s.compression, formatMatchesHints, require_eq_ok,
    s.format_matches]
  constructor
  · rintro ⟨ref, hr, rfl⟩
    exact ⟨hr, rfl⟩
  · rintro ⟨hr, hs⟩
    exact ⟨_, hr, hs.symm⟩

/-- **An output with a collapsed credential**, likewise. -/
theorem OutputSpec.validate_dump_eq_ok {s s' : OutputSpec} (h : s.LeavesSurvive) :
    validate s.dump = .ok s' ↔
      reread s.credentialRef = .ok s'.credentialRef ∧
        s' = { s with credentialRef := s'.credentialRef } := by
  simp only [validate, Validated.andThen_eq_ok, id_eq, model_eq_ok, dump, Json.obj.injEq]
  simp [field, fieldOr, credentialField, Dict.lookup, leaf, h.destinationUri,
    Undoes.literal DataFormat.lookup_name s.format, FormatHints.validate_dump h.formatHints,
    Undoes.literal Compression.lookup_name s.compression,
    Undoes.literal WriteMode.lookup_name s.writeMode, formatMatchesHints, require_eq_ok,
    s.format_matches]
  constructor
  · rintro ⟨ref, hr, rfl⟩
    exact ⟨hr, rfl⟩
  · rintro ⟨hr, hs⟩
    exact ⟨_, hr, hs.symm⟩

end

end Grabatus

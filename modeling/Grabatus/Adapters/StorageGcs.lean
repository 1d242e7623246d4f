import Grabatus.Adapters.Retry

/-!
# `GcsStorage`

Model of `adapters/storage_gcs.py`. The storage adapter for `gs://`. `_parse_gs_uri` cuts the text
itself, without `urlparse`; `parseGsUri_eq_ok` says what it accepts.

Out of scope: Cloud Storage, whose client is any operations on the world.
-/

namespace Grabatus

open Grabatus.Lib Grabatus.Lib.Text Grabatus.Python

section

variable [UnicodeData]

/-- `uri.partition("://")`, without the separator. -/
def partitionScheme (uri : String) : List Char × List Char :=
  (cutAt "://".toList uri.toList).getD (uri.toList, [])

/-- `_parse_gs_uri`. -/
def parseGsUri (uri : String) : Except PyException (String × String) :=
  let scheme := (partitionScheme uri).1
  let bucket := (cut '/' (partitionScheme uri).2).1
  let blob := (cut '/' (partitionScheme uri).2).2.getD []
  if scheme ≠ "gs".toList then
    .error (serviceError .unsupportedSchemeError
      ("GcsStorage requires scheme='gs', got uri=" ++ pyRepr uri))
  else if bucket = [] ∨ blob = [] then
    .error (serviceError .unsupportedSchemeError
      ("GcsStorage URI must be gs://<bucket>/<blob>, got uri=" ++ pyRepr uri))
  else .ok (String.ofList bucket, String.ofList blob)

/-- **What `_parse_gs_uri` accepts**: the bucket and the blob are the text around the first slash
after `gs://`. -/
theorem parseGsUri_eq_ok {uri bucket blob : String} :
    parseGsUri uri = .ok (bucket, blob) ↔
      uri.toList = "gs://".toList ++ bucket.toList ++ '/' :: blob.toList ∧
        '/' ∉ bucket.toList ∧ bucket ≠ "" ∧ blob ≠ "" := by
  have hsep : "://".toList = ':' :: ['/', '/'] := by decide
  have hgs : "gs://".toList = "gs".toList ++ "://".toList := by decide
  have hne : ∀ {l : List Char}, l ≠ [] → String.ofList l ≠ "" := fun hl h =>
    hl (String.ofList_injective h)
  unfold parseGsUri
  dsimp only
  constructor
  · intro h
    split at h
    · exact absurd h nofun
    · rename_i hs
      split at h
      · exact absurd h nofun
      · rename_i hparts
        rw [not_not] at hs
        rw [not_or] at hparts
        obtain ⟨hbucket, hblob⟩ := hparts
        simp only [Except.ok.injEq, Prod.mk.injEq] at h
        obtain ⟨rfl, rfl⟩ := h
        rcases hcut : cutAt "://".toList uri.toList with - | ⟨scheme, rest⟩
        · simp only [partitionScheme, hcut, Option.getD_none] at hbucket
          exact absurd rfl hbucket
        · have hpart : partitionScheme uri = (scheme, rest) := by
            rw [partitionScheme, hcut, Option.getD_some]
          rw [hpart] at hs hbucket hblob ⊢
          obtain rfl : scheme = "gs".toList := hs
          rcases hrest : cut '/' rest with ⟨b, - | r⟩
          · rw [hrest] at hblob
            exact absurd rfl hblob
          · obtain ⟨hr, hb⟩ := eq_of_cut_some hrest
            rw [hrest] at hbucket hblob
            simp only [Option.getD_some, String.toList_ofList]
            refine ⟨?_, hb, hne hbucket, hne hblob⟩
            rw [eq_of_cutAt hcut, hgs, hr]
            simp only [List.append_assoc]
  · rintro ⟨huri, hb, hbucket, hblob⟩
    have hcut : cutAt "://".toList uri.toList =
        some ("gs".toList, bucket.toList ++ '/' :: blob.toList) := by
      rw [huri, hgs, hsep]
      simpa only [List.append_assoc] using
        cutAt_append ['/', '/'] (bucket.toList ++ '/' :: blob.toList)
          (show ':' ∉ "gs".toList by decide)
    have hpart : partitionScheme uri = ("gs".toList, bucket.toList ++ '/' :: blob.toList) := by
      rw [partitionScheme, hcut, Option.getD_some]
    rw [hpart]
    simp only [cut_append hb, Option.getD_some]
    rw [if_neg (by simp), if_neg, String.ofList_toList, String.ofList_toList]
    rintro (h | h)
    · exact hbucket (String.toList_inj.mp h)
    · exact hblob (String.toList_inj.mp h)

/-! ## The adapter -/

/-- The client of `google.cloud.storage`: `bucket` checks a bucket's name, the other two run on
an object of it. -/
structure GcsClient (σ : Type) where
  bucket : String → Except PyException Unit
  downloadAsBytes : String → String → PyOp σ Bytes
  uploadFromString : String → String → Bytes → PyOp σ Unit

variable {σ : Type}

/-- The `except` clauses of `GcsStorage.read`. -/
def gcsReadError (uri : String) (exc : PyException) : PyException :=
  if exc.isA retriableGoogleErrors then exc
  else if exc.isA [.googleNotFound] then
    serviceError .inputNotFoundError ("GcsStorage: object not found at uri=" ++ pyRepr uri)
  else if exc.isA [.googleApiError] then
    serviceError .inputReadError
      ("GcsStorage: download failed for uri=" ++ pyRepr uri ++ ": " ++ exc.str)
  else exc

/-- The `except` clauses of `GcsStorage.write`. -/
def gcsWriteError (uri : String) (exc : PyException) : PyException :=
  if exc.isA retriableGoogleErrors then exc
  else if exc.isA [.googleApiError] then
    serviceError .outputWriteError
      ("GcsStorage: upload failed for uri=" ++ pyRepr uri ++ ": " ++ exc.str)
  else exc

/-- `GcsStorage.read`. -/
def GcsStorage.read (client : GcsClient σ) (spec : InputSpec) (_credentials : Credentials) :
    PyOp σ Bytes :=
  withRetry retriableGoogleErrors do
    let (bucket, blob) ← Op.ofExcept (parseGsUri spec.sourceUri.text)
    Op.ofExcept (client.bucket bucket)
    Op.mapError (gcsReadError spec.sourceUri.text) (client.downloadAsBytes bucket blob)

/-- `GcsStorage.write`. -/
def GcsStorage.write (client : GcsClient σ) (spec : OutputSpec) (payload : Bytes)
    (_credentials : Credentials) : PyOp σ WriteReceipt :=
  withRetry retriableGoogleErrors do
    let (bucket, blob) ← Op.ofExcept (parseGsUri spec.destinationUri.text)
    Op.ofExcept (client.bucket bucket)
    Op.mapError (gcsWriteError spec.destinationUri.text)
      (client.uploadFromString bucket blob payload)
    return { uri := spec.destinationUri.text, bytesWritten := payload.size, requestIdTag := "gcs" }

end

end Grabatus

import Grabatus.Ports.Ports

/-!
# `CompressedStorage`

Model of `adapters/storage_compressed.py`. A storage over another one, which holds what the spec's
codec makes of a payload. The codecs are those of `gzip` and `zstandard`, as parameters: a
decompressor may raise what its library raises, and `read` turns one class of each into an
`InputReadError`.

Out of scope: the compression levels, which the codecs carry.
-/

namespace Grabatus

open Grabatus.Lib Grabatus.Python

/-- `gzip` and `zstandard`. -/
structure Codecs where
  gzipCompress : Bytes → Bytes
  gzipDecompress : Bytes → Except PyException Bytes
  zstdCompress : Bytes → Bytes
  zstdDecompress : Bytes → Except PyException Bytes

/-- What `write` makes of a payload. -/
def Codecs.encode (codecs : Codecs) : Compression → Bytes → Bytes
  | .none, payload => payload
  | .gzip, payload => codecs.gzipCompress payload
  | .zstd, payload => codecs.zstdCompress payload

/-- `except Caught as exc: raise InputReadError(...)` around a decompressor. -/
def decompressError (caught : ExceptionClass) (codec uri : String) (exc : PyException) :
    PyException :=
  if exc.isA [caught] then serviceError .inputReadError
    ("failed to " ++ codec ++ "-decompress payload from uri=" ++ uri ++ ": " ++ exc.str)
  else exc

/-- What `read` makes of the bytes it was given. -/
def Codecs.decode (codecs : Codecs) (uri : String) : Compression → Bytes → Except PyException Bytes
  | .none, raw => .ok raw
  | .gzip, raw => (codecs.gzipDecompress raw).mapError (decompressError .osError "gzip" uri)
  | .zstd, raw => (codecs.zstdDecompress raw).mapError (decompressError .zstdError "zstd" uri)

/-- Each decompressor reads back what its compressor made. -/
structure Codecs.Lossless (codecs : Codecs) : Prop where
  gzip : ∀ payload, codecs.gzipDecompress (codecs.gzipCompress payload) = .ok payload
  zstd : ∀ payload, codecs.zstdDecompress (codecs.zstdCompress payload) = .ok payload

theorem Codecs.Lossless.decode_of_encode {codecs : Codecs} (h : codecs.Lossless) (uri : String)
    (compression : Compression) (payload : Bytes) :
    codecs.decode uri compression (codecs.encode compression payload) = .ok payload := by
  cases compression with
  | none => rfl
  | gzip => simp only [encode, decode, h.gzip, Except.mapError]
  | zstd => simp only [encode, decode, h.zstd, Except.mapError]

/-- The URI stands in the errors only. -/
theorem Codecs.decode_eq_ok {codecs : Codecs} {uri : String} (uri' : String)
    {compression : Compression} {raw payload : Bytes}
    (h : codecs.decode uri compression raw = .ok payload) :
    codecs.decode uri' compression raw = .ok payload := by
  cases compression with
  | none => exact h
  | gzip =>
    simp only [decode, Except.mapError] at h ⊢
    rcases hraw : codecs.gzipDecompress raw with e | p <;> rw [hraw] at h
    · exact absurd h nofun
    · exact h
  | zstd =>
    simp only [decode, Except.mapError] at h ⊢
    rcases hraw : codecs.zstdDecompress raw with e | p <;> rw [hraw] at h
    · exact absurd h nofun
    · exact h

variable {σ : Type}

/-- `CompressedStorage`. -/
def compressedStorage [UnicodeData] (codecs : Codecs) (inner : StoragePort σ) :
    StoragePort σ where
  read spec credentials := do
    let raw ← inner.read spec credentials
    Op.ofExcept (codecs.decode spec.sourceUri.text spec.compression raw)
  write spec payload credentials :=
    inner.write spec (codecs.encode spec.compression payload) credentials

/-! ## Codecs that compress nothing -/

namespace Sample

/-- A header, and the payload as it is. -/
def headed (header : List UInt8) (payload : Bytes) : Bytes :=
  ⟨(header ++ payload.data.toList).toArray⟩

/-- What stands behind the header. -/
def unheaded (header : List UInt8) (cls : ExceptionClass) (raw : Bytes) :
    Except PyException Bytes :=
  if header.isPrefixOf raw.data.toList then .ok ⟨(raw.data.toList.drop header.length).toArray⟩
  else .error (.raised cls "unknown header")

theorem unheaded_headed (header : List UInt8) (cls : ExceptionClass) (payload : Bytes) :
    unheaded header cls (headed header payload) = .ok payload := by
  have hprefix : header.isPrefixOf (header ++ payload.data.toList) = true :=
    List.isPrefixOf_iff_prefix.mpr (List.prefix_append _ _)
  simp only [unheaded, headed, List.toList_toArray, hprefix, if_true, List.drop_left,
    Array.toArray_toList]

/-- Codecs that put the magic number of their format before the payload. -/
def codecs : Codecs where
  gzipCompress := headed [0x1f, 0x8b]
  gzipDecompress := unheaded [0x1f, 0x8b] .osError
  zstdCompress := headed [0x28, 0xb5, 0x2f, 0xfd]
  zstdDecompress := unheaded [0x28, 0xb5, 0x2f, 0xfd] .zstdError

theorem codecs_lossless : codecs.Lossless where
  gzip := unheaded_headed [0x1f, 0x8b] .osError
  zstd := unheaded_headed [0x28, 0xb5, 0x2f, 0xfd] .zstdError

end Sample

end Grabatus

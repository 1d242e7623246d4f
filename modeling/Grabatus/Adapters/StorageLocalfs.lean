import Grabatus.Adapters.StorageGcs

/-!
# `LocalFsStorage`

Model of `adapters/storage_localfs.py`. The storage adapter for `file://`. `_resolve_path` ignores
the host of the URI, and a configured root is compared with the path as it is written: `..` stays
a component.

Out of scope: symbolic links; the file system is any operations on paths as they are written.
-/

namespace Grabatus

open Grabatus.Lib Grabatus.Lib.Text Grabatus.Python

/-- `pathlib.PurePosixPath`: its root, `""`, `"/"` or `"//"`, and its components. -/
structure PosixPath where
  root : String
  tail : List String
  deriving DecidableEq

namespace PosixPath

/-- The root of a path text: two slashes are kept, one and more than two are one. -/
def rootOf : List Char → String
  | '/' :: '/' :: '/' :: _ => "/"
  | '/' :: '/' :: _ => "//"
  | '/' :: _ => "/"
  | _ => ""

/-- `Path(text)`: empty components and `.` are dropped. -/
def parse (text : List Char) : PosixPath where
  root := rootOf text
  tail := ((text.splitOn '/').map String.ofList).filter fun part => part ≠ "" ∧ part ≠ "."

/-- `str(path)`. -/
def str (p : PosixPath) : String :=
  if p.root = "" ∧ p.tail = [] then "." else p.root ++ "/".intercalate p.tail

/-- `path.parent`. -/
def parent (p : PosixPath) : PosixPath := { p with tail := p.tail.dropLast }

/-- `path.is_relative_to(other)`. -/
def isRelativeTo (p other : PosixPath) : Bool :=
  p.root = other.root && other.tail.isPrefixOf p.tail

end PosixPath

/-- The file system, as `pathlib` uses it: `mkdir` with `parents` and `exist_ok`. -/
structure FileSystem (σ : Type) where
  pathExists : PosixPath → PyOp σ Bool
  readBytes : PosixPath → PyOp σ Bytes
  mkdir : PosixPath → PyOp σ Unit
  writeBytes : PosixPath → Bytes → PyOp σ Unit

namespace LocalFsStorage

variable [UnicodeData] {σ : Type}

/-- `_resolve_path`. -/
def resolvePath (root : Option PosixPath) (uri : String) : Except PyException PosixPath :=
  if (partitionScheme uri).1 ≠ "file".toList then
    .error (serviceError .unsupportedSchemeError
      ("LocalFsStorage requires scheme='file', got uri=" ++ pyRepr uri))
  else
    let path := PosixPath.parse ('/' :: (cut '/' (partitionScheme uri).2).2.getD [])
    match root with
    | none => .ok path
    | some root =>
      if path.isRelativeTo root then .ok path
      else .error (serviceError .unsupportedSchemeError
        ("LocalFsStorage path=" ++ path.str ++ " escapes configured root=" ++ root.str))

/-- `except OSError as exc: raise Kind(...)`, around what was done to the file. -/
def caught (kind : ErrorKind) (action uri : String) (exc : PyException) : PyException :=
  if exc.isA [.osError] then
    serviceError kind
      ("LocalFsStorage failed to " ++ action ++ " uri=" ++ pyRepr uri ++ ": " ++ exc.str)
  else exc

/-- `LocalFsStorage.read`. -/
def read (fs : FileSystem σ) (root : Option PosixPath) (spec : InputSpec)
    (_credentials : Credentials) : PyOp σ Bytes := do
  let uri := spec.sourceUri.text
  let path ← Op.ofExcept (resolvePath root uri)
  let found ← fs.pathExists path
  if found then Op.mapError (caught .inputReadError "read" uri) (fs.readBytes path)
  else Op.fail (serviceError .inputNotFoundError
    ("LocalFsStorage has no file at path=" ++ path.str ++ "; uri=" ++ pyRepr uri))

/-- `LocalFsStorage.write`. -/
def write (fs : FileSystem σ) (root : Option PosixPath) (spec : OutputSpec) (payload : Bytes)
    (_credentials : Credentials) : PyOp σ WriteReceipt := do
  let uri := spec.destinationUri.text
  let path ← Op.ofExcept (resolvePath root uri)
  Op.mapError (caught .outputWriteError "write" uri) do
    fs.mkdir path.parent
    fs.writeBytes path payload
  return { uri, bytesWritten := payload.size, requestIdTag := "local" }

end LocalFsStorage

end Grabatus

import Grabatus.Adapters.StorageLocalfs
import Grabatus.Lib.Store

/-!
# What a write does under each `write_mode`

Over `adapters/storage_gcs.py` and `adapters/storage_localfs.py`. `OutputSpec` declares a mode
"that adapters honor". `GcsStorage` and `LocalFsStorage` never look at it: a write that returns
replaced the object it names (`Overwrites`), **so it honored the mode exactly when the mode asks
for nothing else** (`write_mode_honored_iff`): `append` where there was no content,
`fail_if_exists` where there was no object.

A store is seen through its objects: under bucket and blob for the one, under the file a path
names for the other.
-/

namespace Grabatus

open Grabatus.Lib Grabatus.Python

/-! ## The modes -/

section

variable {ι : Type} [DecidableEq ι]

/-- What the store holds after a write in this mode, or nothing where the write is refused. -/
def WriteMode.target (mode : WriteMode) (before : ι → Option Bytes) (dest : ι) (payload : Bytes) :
    Option (ι → Option Bytes) :=
  match mode with
  | .overwrite => some (Store.put before dest payload)
  | .append => some (Store.put before dest ((before dest).getD ByteArray.empty ++ payload))
  | .failIfExists => if before dest = none then some (Store.put before dest payload) else none

/-- **A write honors its mode**: it returns and leaves what the mode asks for, or is refused with
an `OutputWriteError` and leaves the store as it was. -/
def Honors (mode : WriteMode) (payload : Bytes) (dest : ι) (before after : ι → Option Bytes)
    (reply : Except PyException WriteReceipt) : Prop :=
  match mode.target before dest payload with
  | some objects => (∃ receipt, reply = .ok receipt) ∧ after = objects
  | none => (∃ message, reply = .error (serviceError .outputWriteError message)) ∧ after = before

/-- The mode asks for nothing but the payload, over this content. -/
def WriteMode.Replaces : WriteMode → Option Bytes → Prop
  | .overwrite, _ => True
  | .append, content => content.getD ByteArray.empty = ByteArray.empty
  | .failIfExists, content => content = none

theorem append_eq_right_iff {a b : Bytes} : b = a ++ b ↔ a = ByteArray.empty := by
  constructor
  · intro h
    have hsize := congrArg ByteArray.size h
    rw [ByteArray.size_append] at hsize
    exact ByteArray.size_eq_zero_iff.mp (by omega)
  · rintro rfl
    exact ByteArray.empty_append.symm

/-- A write that returned and replaced honored its mode exactly when the mode asks for that. -/
theorem honors_iff_replaces {mode : WriteMode} {payload : Bytes} {dest : ι}
    {before after : ι → Option Bytes} {receipt : WriteReceipt}
    (h : after = Store.put before dest payload) :
    Honors mode payload dest before after (.ok receipt) ↔ mode.Replaces (before dest) := by
  subst h
  cases mode with
  | overwrite => simp [Honors, WriteMode.target, WriteMode.Replaces]
  | append =>
    simp [Honors, WriteMode.target, WriteMode.Replaces, Store.put_eq_put_iff, append_eq_right_iff]
  | failIfExists =>
    by_cases hvacant : before dest = none
    · simp [Honors, WriteMode.target, WriteMode.Replaces, hvacant]
    · simp [Honors, WriteMode.target, WriteMode.Replaces, hvacant]

end

/-! ## Writes that replace -/

/-- A write to `place` that looks at nothing: when it returns, it put the payload there; and
whatever it does, it does nothing elsewhere. -/
structure Overwrites {σ ι : Type} [DecidableEq ι] (write : PyOp σ WriteReceipt)
    (objects : σ → ι → Option Bytes) (place : Except PyException ι) (payload : Bytes) : Prop where
  returned : ∀ s receipt s', write s = (.ok receipt, s') →
    ∃ dest, place = .ok dest ∧ objects s' = Store.put (objects s) dest payload
  elsewhere : ∀ s k, place ≠ .ok k → objects (write s).2 k = objects s k

/-- What an upload does to the objects: one that returned replaced the object, and one that raised
did so too or did nothing. -/
structure GcsClient.Uploads {σ : Type} (client : GcsClient σ)
    (objects : σ → String × String → Option Bytes) : Prop where
  returned : ∀ bucket blob payload s s',
    client.uploadFromString bucket blob payload s = (.ok (), s') →
      objects s' = Store.put (objects s) (bucket, blob) payload
  raised : ∀ bucket blob payload s e s',
    client.uploadFromString bucket blob payload s = (.error e, s') →
      objects s' = objects s ∨ objects s' = Store.put (objects s) (bucket, blob) payload

/-- What the file system does to the files: directories are none of them, a write that returned
replaced the file its path names, and one that raised left all other files alone. -/
structure FileSystem.Writes {σ ι : Type} [DecidableEq ι] (fs : FileSystem σ)
    (names : PosixPath → ι) (files : σ → ι → Option Bytes) : Prop where
  mkdir : ∀ path s, files (fs.mkdir path s).2 = files s
  returned : ∀ path payload s s', fs.writeBytes path payload s = (.ok (), s') →
    files s' = Store.put (files s) (names path) payload
  raised : ∀ path payload s e s', fs.writeBytes path payload s = (.error e, s') →
    ∀ k, k ≠ names path → files s' k = files s k

section

variable [UnicodeData] {σ : Type}

/-- One upload, or three: the object is replaced, whatever the attempts before did. -/
theorem GcsStorage.write_overwrites {client : GcsClient σ}
    {objects : σ → String × String → Option Bytes} (hclient : client.Uploads objects)
    (spec : OutputSpec) (payload : Bytes) (credentials : Credentials) :
    Overwrites (GcsStorage.write client spec payload credentials) objects
      (parseGsUri spec.destinationUri.text) payload := by
  -- Before an attempt the store is as the caller left it, or an attempt that raised wrote to it.
  let Put (s₀ s : σ) : Prop := ∃ dest, parseGsUri spec.destinationUri.text = .ok dest ∧
    objects s = Store.put (objects s₀) dest payload
  have hrun : ∀ s₀, (objects (GcsStorage.write client spec payload credentials s₀).2 = objects s₀ ∨
      Put s₀ (GcsStorage.write client spec payload credentials s₀).2) ∧
      ∀ receipt, (GcsStorage.write client spec payload credentials s₀).1 = .ok receipt →
        Put s₀ (GcsStorage.write client spec payload credentials s₀).2 := by
    intro s₀
    unfold GcsStorage.write withRetry
    refine Op.retry_rule (P := fun s => objects s = objects s₀ ∨ Put s₀ s)
      (Q := fun reply s => (objects s = objects s₀ ∨ Put s₀ s) ∧
        ∀ receipt, reply = .ok receipt → Put s₀ s) ?_ (fun _ _ _ h => h.1) 2 s₀ (.inl rfl)
    intro s hs
    rcases hplace : parseGsUri spec.destinationUri.text with e | ⟨bucket, blob⟩
    · exact ⟨hs, nofun⟩
    · have hput : Store.put (objects s) (bucket, blob) payload =
          Store.put (objects s₀) (bucket, blob) payload := by
        rcases hs with hs | ⟨dest, hdest, hs⟩
        · rw [hs]
        · obtain rfl := Except.ok.inj (hplace.symm.trans hdest)
          rw [hs, Store.put_put]
      rcases hbucket : client.bucket bucket with e | u
      · simp only [Op.run_bind, Op.run_ofExcept, hbucket]
        exact ⟨hs, nofun⟩
      · rcases hupload : client.uploadFromString bucket blob payload s with ⟨e | u, s'⟩
        · simp only [Op.run_bind, Op.run_ofExcept, hbucket, Op.mapError, hupload]
          refine ⟨?_, nofun⟩
          rcases hclient.raised bucket blob payload s e s' hupload with h | h
          · rcases hs with hs | ⟨dest, hdest, hs⟩
            · exact .inl (h.trans hs)
            · exact .inr ⟨dest, hdest, h.trans hs⟩
          · exact .inr ⟨_, hplace, h.trans hput⟩
        · simp only [Op.run_bind, Op.run_ofExcept, hbucket, Op.mapError, hupload, Op.run_pure]
          have h : Put s₀ s' :=
            ⟨_, hplace, (hclient.returned bucket blob payload s s' hupload).trans hput⟩
          exact ⟨.inr h, fun _ _ => h⟩
  constructor
  · intro s receipt s' h
    have hs := (hrun s).2 receipt (congrArg Prod.fst h)
    rwa [h] at hs
  · intro s k hk
    rcases (hrun s).1 with h | ⟨dest, hdest, h⟩
    · rw [h]
    · rw [h, Store.put_of_ne]
      rintro rfl
      exact hk hdest

/-- One file, written. -/
theorem LocalFsStorage.write_overwrites {ι : Type} [DecidableEq ι] {fs : FileSystem σ}
    {names : PosixPath → ι} {files : σ → ι → Option Bytes} (hfs : fs.Writes names files)
    (root : Option PosixPath) (spec : OutputSpec) (payload : Bytes) (credentials : Credentials) :
    Overwrites (LocalFsStorage.write fs root spec payload credentials) files
      ((LocalFsStorage.resolvePath root spec.destinationUri.text).map names) payload := by
  have hrun : ∀ s, (∀ receipt,
      (LocalFsStorage.write fs root spec payload credentials s).1 = .ok receipt →
        ∃ dest, (LocalFsStorage.resolvePath root spec.destinationUri.text).map names = .ok dest ∧
          files (LocalFsStorage.write fs root spec payload credentials s).2 =
            Store.put (files s) dest payload) ∧
      ∀ k, (LocalFsStorage.resolvePath root spec.destinationUri.text).map names ≠ .ok k →
        files (LocalFsStorage.write fs root spec payload credentials s).2 k = files s k := by
    intro s
    unfold LocalFsStorage.write
    rcases LocalFsStorage.resolvePath root spec.destinationUri.text with e | path
    · exact ⟨nofun, fun _ _ => rfl⟩
    · have hmkdir := hfs.mkdir path.parent s
      rcases hdir : fs.mkdir path.parent s with ⟨e | u, s₁⟩
      · rw [hdir] at hmkdir
        simp only [Op.run_bind, Op.run_ofExcept, Op.mapError, hdir]
        exact ⟨nofun, fun k _ => congrFun hmkdir k⟩
      · rw [hdir] at hmkdir
        rcases hwrite : fs.writeBytes path payload s₁ with ⟨e | u, s₂⟩
        · simp only [Op.run_bind, Op.run_ofExcept, Op.mapError, hdir, hwrite]
          refine ⟨nofun, fun k hk => ?_⟩
          rw [← hmkdir]
          refine hfs.raised path payload s₁ e s₂ hwrite k ?_
          rintro rfl
          exact hk rfl
        · have h := hfs.returned path payload s₁ s₂ hwrite
          rw [hmkdir] at h
          simp only [Op.run_bind, Op.run_ofExcept, Op.mapError, hdir, hwrite, Op.run_pure]
          refine ⟨fun _ _ => ⟨_, rfl, h⟩, fun k hk => ?_⟩
          rw [h, Store.put_of_ne]
          rintro rfl
          exact hk rfl
  constructor
  · intro s receipt s' h
    have hs := (hrun s).1 receipt (congrArg Prod.fst h)
    rwa [h] at hs
  · exact fun s => (hrun s).2

omit [UnicodeData] in
/-- A returning write that replaces honored its mode exactly when the mode asks for nothing else. -/
theorem Overwrites.honors_iff {ι : Type} [DecidableEq ι] {write : PyOp σ WriteReceipt}
    {objects : σ → ι → Option Bytes} {place : Except PyException ι} {payload : Bytes}
    (h : Overwrites write objects place payload) (mode : WriteMode) {s s' : σ}
    {receipt : WriteReceipt} (hwrite : write s = (.ok receipt, s')) :
    ∃ dest, place = .ok dest ∧ (Honors mode payload dest (objects s) (objects s') (.ok receipt) ↔
      mode.Replaces (objects s dest)) := by
  obtain ⟨dest, hdest, hafter⟩ := h.returned s receipt s' hwrite
  exact ⟨dest, hdest, honors_iff_replaces hafter⟩

/-- **A write through `GcsStorage` or `LocalFsStorage` that returns honored its mode exactly when
the mode asks for nothing but the payload**, and no write touches another object. -/
theorem write_mode_honored_iff {τ ι : Type} [DecidableEq ι] {client : GcsClient σ}
    {objects : σ → String × String → Option Bytes} (hclient : client.Uploads objects)
    {fs : FileSystem τ} {names : PosixPath → ι} {files : τ → ι → Option Bytes}
    (hfs : fs.Writes names files) (root : Option PosixPath) (spec : OutputSpec) (payload : Bytes)
    (credentials : Credentials) :
    ((∀ s receipt s', GcsStorage.write client spec payload credentials s = (.ok receipt, s') →
        ∃ dest, parseGsUri spec.destinationUri.text = .ok dest ∧
          (Honors spec.writeMode payload dest (objects s) (objects s') (.ok receipt) ↔
            spec.writeMode.Replaces (objects s dest))) ∧
      ∀ s k, parseGsUri spec.destinationUri.text ≠ .ok k →
        objects (GcsStorage.write client spec payload credentials s).2 k = objects s k) ∧
    (∀ s receipt s', LocalFsStorage.write fs root spec payload credentials s = (.ok receipt, s') →
        ∃ path, LocalFsStorage.resolvePath root spec.destinationUri.text = .ok path ∧
          (Honors spec.writeMode payload (names path) (files s) (files s') (.ok receipt) ↔
            spec.writeMode.Replaces (files s (names path)))) ∧
      ∀ s k, (∀ path, LocalFsStorage.resolvePath root spec.destinationUri.text = .ok path →
          names path ≠ k) →
        files (LocalFsStorage.write fs root spec payload credentials s).2 k = files s k := by
  have hgcs := GcsStorage.write_overwrites hclient spec payload credentials
  have hlocal := LocalFsStorage.write_overwrites hfs root spec payload credentials
  refine ⟨⟨fun s receipt s' h => hgcs.honors_iff spec.writeMode h, hgcs.elsewhere⟩,
    fun s receipt s' h => ?_, fun s k hk => hlocal.elsewhere s k ?_⟩
  · obtain ⟨dest, hdest, hiff⟩ := hlocal.honors_iff spec.writeMode h
    rcases hpath : LocalFsStorage.resolvePath root spec.destinationUri.text with e | path
    · rw [hpath] at hdest
      exact absurd hdest nofun
    · rw [hpath] at hdest
      obtain rfl := Except.ok.inj hdest
      exact ⟨path, rfl, hiff⟩
  · rcases hpath : LocalFsStorage.resolvePath root spec.destinationUri.text with e | path
    · exact nofun
    · exact fun h => hk path hpath (Except.ok.inj h)

end

/-! ## Stores in memory -/

/-- A store that is its objects, as a client. -/
def memoryGcsClient : GcsClient (String × String → Option Bytes) where
  bucket _ := .ok ()
  downloadAsBytes bucket blob objects :=
    match objects (bucket, blob) with
    | some payload => (.ok payload, objects)
    | none =>
      (.error (.raised .googleNotFound ("No such object: " ++ bucket ++ "/" ++ blob)), objects)
  uploadFromString bucket blob payload objects :=
    (.ok (), Store.put objects (bucket, blob) payload)

theorem memoryGcsClient_uploads : memoryGcsClient.Uploads id where
  returned := by
    rintro bucket blob payload s s' h
    exact (Prod.mk.inj h).2.symm
  raised := by
    rintro bucket blob payload s e s' h
    exact absurd (Prod.mk.inj h).1 nofun

/-- A file system that is its files. -/
def memoryFileSystem : FileSystem (PosixPath → Option Bytes) where
  pathExists path files := (.ok (files path).isSome, files)
  readBytes path files :=
    match files path with
    | some payload => (.ok payload, files)
    | none => (.error (.raised .osError ("No such file or directory: " ++ path.str)), files)
  mkdir _ files := (.ok (), files)
  writeBytes path payload files := (.ok (), Store.put files path payload)

theorem memoryFileSystem_writes : memoryFileSystem.Writes id id where
  mkdir _ _ := rfl
  returned := by
    rintro path payload s s' h
    exact (Prod.mk.inj h).2.symm
  raised := by
    rintro path payload s e s' h
    exact absurd (Prod.mk.inj h).1 nofun

namespace Sample

/-- `gs://b/o`. -/
def gsUri : AnyUrl := ⟨"gs://b/o", by decide, .inl (by decide)⟩

/-- `file:///tmp/o`. -/
def fileUri : AnyUrl := ⟨"file:///tmp/o", by decide, .inl (by decide)⟩

/-- An output at a destination, in a mode. -/
def outputSpec (destinationUri : AnyUrl) (writeMode : WriteMode) : OutputSpec where
  role := ⟨"result_json", by decide⟩
  destinationUri
  format := .json
  formatHints := .json
  compression := .none
  writeMode
  credentialRef := none
  format_matches := rfl

/-- No credentials. -/
def credentials : Credentials := ⟨ByteArray.empty, "none"⟩

/-- A store with one object. -/
def holding {ι : Type} [DecidableEq ι] (k : ι) (content : Bytes) : ι → Option Bytes :=
  Store.put (fun _ => none) k content

end Sample

section

attribute [local instance] UnicodeData.ascii

/-- A write through the client in memory, whatever the mode. -/
theorem memoryGcsClient_write (mode : WriteMode) (payload : Bytes)
    (objects : String × String → Option Bytes) :
    GcsStorage.write memoryGcsClient (Sample.outputSpec Sample.gsUri mode) payload
        Sample.credentials objects =
      (.ok ⟨"gs://b/o", payload.size, "gcs"⟩, Store.put objects ("b", "o") payload) := by
  have hplace : parseGsUri "gs://b/o" = .ok ("b", "o") :=
    parseGsUri_eq_ok.mpr ⟨by decide, by decide, by decide, by decide⟩
  unfold GcsStorage.write withRetry
  rw [show (Sample.outputSpec Sample.gsUri mode).destinationUri.text = "gs://b/o" from rfl, hplace]
  rfl

/-- A write through the file system in memory, whatever the mode. -/
theorem memoryFileSystem_write (mode : WriteMode) (payload : Bytes)
    (files : PosixPath → Option Bytes) :
    LocalFsStorage.write memoryFileSystem none (Sample.outputSpec Sample.fileUri mode) payload
        Sample.credentials files =
      (.ok ⟨"file:///tmp/o", payload.size, "local"⟩,
        Store.put files ⟨"/", ["tmp", "o"]⟩ payload) := by
  have hplace : LocalFsStorage.resolvePath none "file:///tmp/o" = .ok ⟨"/", ["tmp", "o"]⟩ := by
    decide +kernel
  unfold LocalFsStorage.write
  rw [show (Sample.outputSpec Sample.fileUri mode).destinationUri.text = "file:///tmp/o" from rfl]
  simp only [hplace]
  rfl

/-- `fail_if_exists` over an object, and `append` to a file: both writes return, and the content
is gone. -/
theorem write_mode_ignored :
    (∃ receipt objects', GcsStorage.write memoryGcsClient
        (Sample.outputSpec Sample.gsUri .failIfExists) (encodeUtf8 "new") Sample.credentials
        (Sample.holding ("b", "o") (encodeUtf8 "old")) = (.ok receipt, objects') ∧
      ¬ Honors .failIfExists (encodeUtf8 "new") ("b", "o")
        (Sample.holding ("b", "o") (encodeUtf8 "old")) objects' (.ok receipt)) ∧
    ∃ receipt files', LocalFsStorage.write memoryFileSystem none
        (Sample.outputSpec Sample.fileUri .append) (encodeUtf8 "new") Sample.credentials
        (Sample.holding ⟨"/", ["tmp", "o"]⟩ (encodeUtf8 "old")) = (.ok receipt, files') ∧
      ¬ Honors .append (encodeUtf8 "new") (⟨"/", ["tmp", "o"]⟩ : PosixPath)
        (Sample.holding ⟨"/", ["tmp", "o"]⟩ (encodeUtf8 "old")) files' (.ok receipt) := by
  refine ⟨⟨_, _, memoryGcsClient_write .failIfExists _ _, fun h => ?_⟩,
    _, _, memoryFileSystem_write .append _ _, fun h => ?_⟩
  · have hvacant : Sample.holding ("b", "o") (encodeUtf8 "old") ("b", "o") = none :=
      (honors_iff_replaces rfl).mp h
    rw [Sample.holding, Store.put_self] at hvacant
    exact absurd hvacant nofun
  · have hempty : (Sample.holding (⟨"/", ["tmp", "o"]⟩ : PosixPath) (encodeUtf8 "old")
        ⟨"/", ["tmp", "o"]⟩).getD ByteArray.empty = ByteArray.empty :=
      (honors_iff_replaces rfl).mp h
    rw [Sample.holding, Store.put_self] at hempty
    exact absurd hempty (by decide)

/-- `overwrite` over an object. -/
theorem write_mode_honored_iff_overwrite :
    ∃ dest, parseGsUri "gs://b/o" = .ok dest ∧
      (Honors .overwrite (encodeUtf8 "new") dest (Sample.holding ("b", "o") (encodeUtf8 "old"))
          (Store.put (Sample.holding ("b", "o") (encodeUtf8 "old")) ("b", "o") (encodeUtf8 "new"))
          (.ok ⟨"gs://b/o", (encodeUtf8 "new").size, "gcs"⟩) ↔
        WriteMode.overwrite.Replaces (Sample.holding ("b", "o") (encodeUtf8 "old") dest)) :=
  (write_mode_honored_iff memoryGcsClient_uploads memoryFileSystem_writes none
    (Sample.outputSpec Sample.gsUri .overwrite) (encodeUtf8 "new") Sample.credentials).1.1 _ _ _
    (memoryGcsClient_write .overwrite _ _)

end

end Grabatus

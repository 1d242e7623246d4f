import Grabatus.Adapters.StorageAssembled
import Grabatus.Adapters.TypedErrors
import Grabatus.Adapters.WriteMode
import Grabatus.Lib.History

/-!
# What a storage reads back

Over the storage adapters of `adapters/`. A storage of the package, over one Cloud Storage client
and one file system, is accessed again and again: specs are read, payloads are written, and any of
it may raise. A store is seen through its `contents`, an object under bucket and blob or a file;
`placeOf` is what a URI names of it.

**A read that returns, returns the payload of the last access that showed one**
(`Assembled.read_back`): of a write that returned, or of a read, at the same place and under the
same compression, when no write to the place was tried in between. No retry, codec or route shows
through, whatever else was accessed.

Out of scope: two accesses at the same time; accesses come one after the other here.
-/

namespace Grabatus

open Grabatus.Lib Grabatus.Lib.Text Grabatus.Python

/-! ## Places -/

/-- An object, or a file. -/
abbrev Place (φ : Type) : Type := (String × String) ⊕ φ

section

variable [UnicodeData] {σ φ : Type}

/-- What a URI names: files under the names the file system has for them. -/
def placeOf (names : PosixPath → φ) (uri : String) : Option (Place φ) :=
  match parseGsUri uri with
  | .ok object => some (.inl object)
  | .error _ =>
    match LocalFsStorage.resolvePath none uri with
    | .ok path => some (.inr (names path))
    | .error _ => none

/-- The scheme under which a place is reached. -/
def Place.scheme : Place φ → String
  | .inl _ => "gs"
  | .inr _ => "file"

theorem scheme_of_parseGsUri {uri : String} {object : String × String}
    (h : parseGsUri uri = .ok object) : (partitionScheme uri).1 = "gs".toList := by
  by_contra hscheme
  unfold parseGsUri at h
  rw [if_pos hscheme] at h
  exact absurd h nofun

/-- A path is that of a `file` URI, whatever the root. -/
theorem LocalFsStorage.resolvePath_eq_ok {root : Option PosixPath} {uri : String}
    {path : PosixPath} (h : resolvePath root uri = .ok path) :
    (partitionScheme uri).1 = "file".toList ∧ resolvePath none uri = .ok path := by
  unfold resolvePath at h ⊢
  split at h
  · exact absurd h nofun
  · rename_i hscheme
    refine ⟨not_not.mp hscheme, ?_⟩
    rw [if_neg hscheme]
    rcases root with - | root
    · exact h
    · dsimp only at h
      split at h
      · exact h
      · exact absurd h nofun

theorem placeOf_object {names : PosixPath → φ} {uri : String} {object : String × String} :
    placeOf names uri = some (.inl object) ↔ parseGsUri uri = .ok object := by
  unfold placeOf
  rcases hgs : parseGsUri uri with e | found
  · rcases LocalFsStorage.resolvePath none uri with e' | path <;> simp
  · simp

theorem placeOf_file {names : PosixPath → φ} {uri : String} {file : φ} :
    placeOf names uri = some (.inr file) ↔
      (LocalFsStorage.resolvePath none uri).map names = .ok file := by
  unfold placeOf
  rcases hgs : parseGsUri uri with e | object
  · rcases LocalFsStorage.resolvePath none uri with e' | path <;> simp [Except.map]
  · rcases hpath : LocalFsStorage.resolvePath none uri with e' | path
    · simp [Except.map]
    · have hscheme := (LocalFsStorage.resolvePath_eq_ok hpath).1
      rw [scheme_of_parseGsUri hgs] at hscheme
      exact absurd hscheme (by decide)

/-- What a `LocalFsStorage` resolves, the URI names. -/
theorem placeOf_of_resolvePath {names : PosixPath → φ} {root : Option PosixPath} {uri : String}
    {file : φ} (h : (LocalFsStorage.resolvePath root uri).map names = .ok file) :
    placeOf names uri = some (.inr file) := by
  rcases hpath : LocalFsStorage.resolvePath root uri with e | path
  · rw [hpath] at h
    exact absurd h nofun
  · rw [placeOf_file, (LocalFsStorage.resolvePath_eq_ok hpath).2, ← h, hpath]

/-- **A place is reached under one scheme.** -/
theorem schemeOf_of_placeOf {names : PosixPath → φ} {uri : String} {place : Place φ}
    (h : placeOf names uri = some place) : schemeOf uri = Place.scheme place := by
  have hlower : ∀ scheme ∈ ["gs", "file"], lower (String.ofList scheme.toList) = scheme := by
    have hascii : ∀ scheme ∈ ["gs", "file"],
        (String.ofList scheme.toList).toList.all isAscii = true ∧
          String.ofList ((String.ofList scheme.toList).toList.map Char.toLower) = scheme := by
      decide
    intro scheme hmem
    unfold lower
    rw [if_pos (hascii scheme hmem).1]
    exact (hascii scheme hmem).2
  rcases place with object | file
  · rw [schemeOf, scheme_of_parseGsUri (placeOf_object.mp h)]
    exact hlower "gs" (by decide)
  · rcases hpath : LocalFsStorage.resolvePath none uri with e | path
    · have hfile := placeOf_file.mp h
      rw [hpath] at hfile
      cases hfile
    · rw [schemeOf, (LocalFsStorage.resolvePath_eq_ok hpath).1]
      exact hlower "file" (by decide)

/-! ## Storages that store -/

/-- A storage whose writes that return leave, at the place their URI names, what `reads` the
payload, whose reads return what the contents of the place read, and which does nothing else. -/
structure StoragePort.Stores (storage : StoragePort σ) (names : PosixPath → φ)
    (contents : σ → Place φ → Option Bytes) (reads : Place φ → Compression → Bytes → Bytes → Prop) :
    Prop where
  keeps : ∀ spec c, Op.Keeps contents (storage.read spec c)
  read : ∀ spec c s payload s' place, storage.read spec c s = (.ok payload, s') →
    placeOf names spec.sourceUri.text = some place →
      ∃ raw, contents s place = some raw ∧ reads place spec.compression raw payload
  written : ∀ spec payload c s receipt s' place,
    storage.write spec payload c s = (.ok receipt, s') →
      placeOf names spec.destinationUri.text = some place →
        ∃ raw, contents s' place = some raw ∧ reads place spec.compression raw payload
  elsewhere : ∀ spec payload c s place, placeOf names spec.destinationUri.text ≠ some place →
    contents (storage.write spec payload c s).2 place = contents s place
  unique : ∀ place compression raw payload payload', reads place compression raw payload →
    reads place compression raw payload' → payload = payload'

/-- The client and the file system hold the contents: a download that returned gives an object's
content, a file that was read gives the file's, reading changes nothing, and each of them leaves
alone what the other holds. -/
structure Backs (client : GcsClient σ) (fs : FileSystem σ) (names : PosixPath → φ)
    [DecidableEq φ] (contents : σ → Place φ → Option Bytes) : Prop where
  uploads : client.Uploads fun s object => contents s (.inl object)
  uploadFiles : ∀ bucket blob payload,
    Op.Keeps (fun s file => contents s (.inr file)) (client.uploadFromString bucket blob payload)
  downloaded : ∀ bucket blob s payload s',
    client.downloadAsBytes bucket blob s = (.ok payload, s') →
    contents s (.inl (bucket, blob)) = some payload
  download : ∀ bucket blob, Op.Keeps contents (client.downloadAsBytes bucket blob)
  writes : fs.Writes names fun s file => contents s (.inr file)
  mkdirObjects : ∀ path, Op.Keeps (fun s object => contents s (.inl object)) (fs.mkdir path)
  writeObjects : ∀ path payload,
    Op.Keeps (fun s object => contents s (.inl object)) (fs.writeBytes path payload)
  readOk : ∀ path s payload s', fs.readBytes path s = (.ok payload, s') →
    contents s (.inr (names path)) = some payload
  readBytes : ∀ path, Op.Keeps contents (fs.readBytes path)
  pathExists : ∀ path, Op.Keeps contents (fs.pathExists path)

/-- What is stored as it is. -/
def readsPlain (_ : Place φ) (_ : Compression) (raw payload : Bytes) : Prop := payload = raw

section

variable [DecidableEq φ] {client : GcsClient σ} {fs : FileSystem σ} {names : PosixPath → φ}
  {contents : σ → Place φ → Option Bytes}

theorem GcsStorage.stores (h : Backs client fs names contents) :
    (GcsStorage.port client).Stores names contents readsPlain where
  keeps spec c := GcsStorage.read_closed (Op.Closed.keeps contents) (fun _ _ _ => h.download _ _) c
  read := by
    intro spec c s payload s' place hread hplace
    -- Every attempt finds the contents as they were before the first.
    have hrule : contents (GcsStorage.read client spec c s).2 = contents s ∧
        ∀ payload, (GcsStorage.read client spec c s).1 = .ok payload →
          ∃ object, parseGsUri spec.sourceUri.text = .ok object ∧
            contents s (.inl object) = some payload := by
      unfold GcsStorage.read withRetry
      refine Op.retry_rule (P := fun s' => contents s' = contents s)
        (Q := fun reply s' => contents s' = contents s ∧ ∀ payload, reply = .ok payload →
          ∃ object, parseGsUri spec.sourceUri.text = .ok object ∧
            contents s (.inl object) = some payload) ?_ (fun _ _ _ h => h.1) 2 s rfl
      intro s₁ hs₁
      rcases hgs : parseGsUri spec.sourceUri.text with e | ⟨bucket, blob⟩
      · exact ⟨hs₁, fun _ hp => by cases hp⟩
      · rcases hbucket : client.bucket bucket with e | u
        · simp only [Op.run_bind, Op.run_ofExcept, hbucket]
          exact ⟨hs₁, fun _ hp => by cases hp⟩
        · have hkeep := h.download bucket blob s₁
          rcases hdown : client.downloadAsBytes bucket blob s₁ with ⟨e | p, s₂⟩
          · rw [hdown] at hkeep
            simp only [Op.run_bind, Op.run_ofExcept, hbucket, Op.mapError, hdown]
            exact ⟨hkeep.trans hs₁, fun _ hp => by cases hp⟩
          · rw [hdown] at hkeep
            simp only [Op.run_bind, Op.run_ofExcept, hbucket, Op.mapError, hdown]
            refine ⟨hkeep.trans hs₁, fun payload hp => ⟨(bucket, blob), rfl, ?_⟩⟩
            obtain rfl := Except.ok.inj hp
            rw [← hs₁]
            exact h.downloaded bucket blob s₁ p s₂ hdown
    obtain ⟨object, hgs, hcontent⟩ := hrule.2 payload (congrArg Prod.fst hread)
    obtain rfl := Option.some.inj ((placeOf_object.mpr hgs).symm.trans hplace)
    exact ⟨payload, hcontent, rfl⟩
  written := by
    intro spec payload c s receipt s' place hwrite hplace
    obtain ⟨object, hgs, hafter⟩ :=
      (GcsStorage.write_overwrites h.uploads spec payload c).returned s receipt s' hwrite
    obtain rfl := Option.some.inj ((placeOf_object.mpr hgs).symm.trans hplace)
    exact ⟨payload, (congrFun hafter object).trans (Store.put_self ..), rfl⟩
  elsewhere := by
    intro spec payload c s place hplace
    rcases place with object | file
    · exact (GcsStorage.write_overwrites h.uploads spec payload c).elsewhere s object
        fun hgs => hplace (placeOf_object.mpr hgs)
    · have hkeep : Op.Keeps (fun s file => contents s (.inr file))
          (GcsStorage.write client spec payload c) :=
        GcsStorage.write_closed (Op.Closed.keeps _) (fun _ _ _ _ => h.uploadFiles _ _ _) c
      exact congrFun (hkeep s) file
  unique _ _ _ _ _ hp hp' := hp.trans hp'.symm

theorem LocalFsStorage.stores (h : Backs client fs names contents) (root : Option PosixPath) :
    (LocalFsStorage.port fs root).Stores names contents readsPlain where
  keeps spec c := by
    show Op.Keeps contents (LocalFsStorage.read fs root spec c)
    refine (Op.Keeps.ofExcept _).bind fun path => (h.pathExists path).bind fun found => ?_
    split
    · exact (h.readBytes path).mapError _
    · exact Op.Keeps.ofExcept _
  read := by
    intro spec c s payload s' place hread hplace
    have hread : LocalFsStorage.read fs root spec c s = (.ok payload, s') := hread
    unfold LocalFsStorage.read at hread
    rcases hpath : LocalFsStorage.resolvePath root spec.sourceUri.text with e | path
    · simp only [hpath, Op.ofExcept_error_bind, Op.run_fail, Prod.mk.injEq, reduceCtorEq,
        false_and] at hread
    · have hnamed : placeOf names spec.sourceUri.text = some (.inr (names path)) :=
        placeOf_of_resolvePath (congrArg (Except.map names) hpath)
      obtain rfl := Option.some.inj (hnamed.symm.trans hplace)
      have hkeep := h.pathExists path s
      rcases hfound : fs.pathExists path s with ⟨e | found, s₁⟩
      · simp only [hpath, Op.run_bind, Op.run_ofExcept, hfound, Prod.mk.injEq, reduceCtorEq,
          false_and] at hread
      · rw [hfound] at hkeep
        cases found with
        | false =>
          simp only [hpath, Op.run_bind, Op.run_ofExcept, hfound, Bool.false_eq_true, if_false,
            Op.run_fail, Prod.mk.injEq, reduceCtorEq, false_and] at hread
        | true =>
          rcases hbytes : fs.readBytes path s₁ with ⟨e | p, s₂⟩
          · simp only [hpath, Op.run_bind, Op.run_ofExcept, hfound, if_true, Op.mapError,
              hbytes, Prod.mk.injEq, reduceCtorEq, false_and] at hread
          · simp only [hpath, Op.run_bind, Op.run_ofExcept, hfound, if_true, Op.mapError,
              hbytes, Prod.mk.injEq, Except.ok.injEq] at hread
            obtain ⟨rfl, rfl⟩ := hread
            refine ⟨p, ?_, rfl⟩
            rw [← hkeep]
            exact h.readOk path s₁ p s₂ hbytes
  written := by
    intro spec payload c s receipt s' place hwrite hplace
    obtain ⟨file, hfile, hafter⟩ :=
      (LocalFsStorage.write_overwrites h.writes root spec payload c).returned s receipt s' hwrite
    obtain rfl := Option.some.inj ((placeOf_of_resolvePath hfile).symm.trans hplace)
    exact ⟨payload, (congrFun hafter file).trans (Store.put_self ..), rfl⟩
  elsewhere := by
    intro spec payload c s place hplace
    rcases place with object | file
    · have hkeep : Op.Keeps (fun s object => contents s (.inl object))
          (LocalFsStorage.write fs root spec payload c) :=
        (Op.Keeps.ofExcept _).bind fun path =>
          (((h.mkdirObjects _).bind fun _ => h.writeObjects path payload).mapError _).bind
            fun _ => Op.Keeps.ofExcept (.ok _)
      exact congrFun (hkeep s) object
    · exact (LocalFsStorage.write_overwrites h.writes root spec payload c).elsewhere s file
        fun hfile => hplace (placeOf_of_resolvePath hfile)
  unique _ _ _ _ _ hp hp' := hp.trans hp'.symm

end

section

variable {names : PosixPath → φ} {contents : σ → Place φ → Option Bytes}

/-- A storage whose reads return nothing that is stored, and which never writes. -/
theorem StoragePort.stores_of_fetches {storage : StoragePort σ}
    (hkeeps : ∀ spec c, Op.Keeps contents (storage.read spec c))
    (hscheme : ∀ spec c s payload s', storage.read spec c s = (.ok payload, s') →
      schemeOf spec.sourceUri.text ≠ "gs" ∧ schemeOf spec.sourceUri.text ≠ "file")
    (hwrite : ∀ spec payload c, ∃ e, storage.write spec payload c = Op.fail e) :
    storage.Stores names contents fun _ _ _ _ => False where
  keeps := hkeeps
  read := by
    intro spec c s payload s' place hread hplace
    obtain ⟨hgs, hfile⟩ := hscheme spec c s payload s' hread
    rcases place with object | file
    · exact absurd (schemeOf_of_placeOf hplace) hgs
    · exact absurd (schemeOf_of_placeOf hplace) hfile
  written := by
    intro spec payload c s receipt s' place h
    obtain ⟨e, hfail⟩ := hwrite spec payload c
    rw [hfail] at h
    exact absurd (congrArg Prod.fst h) nofun
  elsewhere := by
    intro spec payload c s place _
    obtain ⟨e, hfail⟩ := hwrite spec payload c
    rw [hfail, Op.run_fail]
  unique _ _ _ _ _ h := h.elim

/-- What is stored under the codecs: what stands below is what a decompressor takes. -/
def readsCompressed (codecs : Codecs) (reads : Place φ → Compression → Bytes → Bytes → Prop)
    (place : Place φ) (compression : Compression) (raw payload : Bytes) : Prop :=
  ∃ encoded, reads place compression raw encoded ∧
    codecs.decode "" compression encoded = .ok payload

theorem StoragePort.Stores.compressed {inner : StoragePort σ} {codecs : Codecs}
    {reads : Place φ → Compression → Bytes → Bytes → Prop} (hlossless : codecs.Lossless)
    (h : inner.Stores names contents reads) :
    (compressedStorage codecs inner).Stores names contents (readsCompressed codecs reads) where
  keeps spec c := (h.keeps spec c).bind fun raw => Op.Keeps.ofExcept _
  read := by
    intro spec c s payload s' place hread hplace
    have hread : (inner.read spec c >>= fun raw =>
      Op.ofExcept (codecs.decode spec.sourceUri.text spec.compression raw)) s = (.ok payload, s') :=
      hread
    rw [Op.run_bind] at hread
    rcases hinner : inner.read spec c s with ⟨e | encoded, s₁⟩
    · simp only [hinner, Prod.mk.injEq, reduceCtorEq, false_and] at hread
    · simp only [hinner, Op.run_ofExcept, Prod.mk.injEq] at hread
      obtain ⟨raw, hraw, hreads⟩ := h.read spec c s encoded s₁ place hinner hplace
      exact ⟨raw, hraw, encoded, hreads, Codecs.decode_eq_ok "" hread.1⟩
  written := by
    intro spec payload c s receipt s' place hwrite hplace
    obtain ⟨raw, hraw, hreads⟩ := h.written spec _ c s receipt s' place hwrite hplace
    exact ⟨raw, hraw, _, hreads, hlossless.decode_of_encode "" spec.compression payload⟩
  elsewhere spec payload c s place hplace := h.elsewhere spec _ c s place hplace
  unique := by
    rintro place compression raw payload payload' ⟨encoded, hraw, hok⟩ ⟨encoded', hraw', hok'⟩
    obtain rfl := h.unique place compression raw encoded encoded' hraw hraw'
    exact Except.ok.inj (hok.symm.trans hok')

/-- What is stored at a place is read by the adapter of its scheme. -/
def readsByScheme (byScheme : Dict String (StoragePort σ))
    (reads : String → Place φ → Compression → Bytes → Bytes → Prop) (place : Place φ)
    (compression : Compression) (raw payload : Bytes) : Prop :=
  (∃ adapter, byScheme.get? (Place.scheme place) = some adapter) ∧
    reads (Place.scheme place) place compression raw payload

theorem StoragePort.Stores.composite {byScheme : Dict String (StoragePort σ)}
    {reads : String → Place φ → Compression → Bytes → Bytes → Prop}
    (h : ∀ scheme adapter, byScheme.get? scheme = some adapter →
      adapter.Stores names contents (reads scheme)) :
    (CompositeStorage.port ⟨byScheme⟩).Stores names contents (readsByScheme byScheme reads) where
  keeps spec c := CompositeStorage.run_select (fun e => Op.Keeps.ofExcept (.error e))
    fun adapter hget => (h _ adapter hget).keeps spec c
  read := by
    intro spec c s payload s' place hread hplace
    rcases CompositeStorage.run_cases hread with ⟨e, he⟩ | ⟨adapter, hget, hread⟩
    · exact absurd (congrArg Prod.fst he) nofun
    · obtain ⟨raw, hraw, hreads⟩ := (h _ adapter hget).read spec c s payload s' place hread hplace
      rw [schemeOf_of_placeOf hplace] at hget hreads
      exact ⟨raw, hraw, ⟨adapter, hget⟩, hreads⟩
  written := by
    intro spec payload c s receipt s' place hwrite hplace
    rcases CompositeStorage.run_cases hwrite with ⟨e, he⟩ | ⟨adapter, hget, hwrite⟩
    · exact absurd (congrArg Prod.fst he) nofun
    · obtain ⟨raw, hraw, hreads⟩ :=
        (h _ adapter hget).written spec payload c s receipt s' place hwrite hplace
      rw [schemeOf_of_placeOf hplace] at hget hreads
      exact ⟨raw, hraw, ⟨adapter, hget⟩, hreads⟩
  elsewhere := by
    intro spec payload c s place hplace
    let Q (op : PyOp σ WriteReceipt) : Prop := contents (op s).2 place = contents s place
    have hrun : Q ((CompositeStorage.port ⟨byScheme⟩).write spec payload c) :=
      CompositeStorage.run_select (fun _ => rfl) fun adapter hget =>
        (h _ adapter hget).elsewhere spec payload c s place hplace
    exact hrun
  unique := by
    rintro place compression raw payload payload' ⟨⟨adapter, hget⟩, hreads⟩ ⟨-, hreads'⟩
    exact (h _ adapter hget).unique place compression raw payload payload' hreads hreads'

end

/-! ## Storages put together -/

/-- The adapters over a client and a file system; what the HTTP client fetches is kept elsewhere. -/
inductive StoringAdapter (client : GcsClient σ) (fs : FileSystem σ)
    (contents : σ → Place φ → Option Bytes) : StoragePort σ → Prop
  | gcs : StoringAdapter client fs contents (GcsStorage.port client)
  | localfs (root : Option PosixPath) :
    StoringAdapter client fs contents (LocalFsStorage.port fs root)
  | http (h : HttpFetchStorage σ)
    (hget : ∀ url headers timeout, Op.Keeps contents (h.client.get url headers timeout)) :
    StoringAdapter client fs contents h.port
  | inline : StoringAdapter client fs contents (inlineStorage σ)

/-- What `HttpFetchStorage` returns, it fetched over `http` or `https`. -/
theorem HttpFetchStorage.scheme_of_read {h : HttpFetchStorage σ} {spec : InputSpec}
    {c : Credentials} {s s' : σ} {payload : Bytes} (hread : h.read spec c s = (.ok payload, s')) :
    schemeOf spec.sourceUri.text ∈ httpSchemes := by
  by_contra hscheme
  obtain ⟨e, hfail⟩ := h.exists_fetch_eq_fail (mt checkScheme_eq_ok.mp hscheme)
  have hnever : ∀ payload, (h.read spec c s).1 ≠ .ok payload := by
    unfold HttpFetchStorage.read withRetry
    rw [hfail]
    exact Op.retry_rule (P := fun _ => True) (Q := fun reply _ => ∀ payload, reply ≠ .ok payload)
      (fun s _ payload h => absurd h (by rw [Op.run_fail]; exact nofun)) (fun _ _ _ _ => trivial)
      2 s trivial
  exact hnever payload (congrArg Prod.fst hread)

theorem scheme_of_decodeInlineUri {uri : String} {payload : Bytes}
    (h : decodeInlineUri uri = .ok payload) : schemeOf uri = "inline" := by
  have hscheme : (partitionScheme uri).1 = "inline".toList := by
    by_contra hscheme
    unfold decodeInlineUri at h
    dsimp only at h
    rw [if_pos hscheme] at h
    exact absurd h nofun
  rw [schemeOf, hscheme]
  unfold lower
  rw [if_pos (by decide)]
  decide

section

variable [DecidableEq φ] {client : GcsClient σ} {fs : FileSystem σ} {names : PosixPath → φ}
  {contents : σ → Place φ → Option Bytes} {codecs : Codecs} {storage : StoragePort σ}

theorem StoringAdapter.stores (hbacks : Backs client fs names contents)
    (h : StoringAdapter client fs contents storage) :
    ∃ reads, storage.Stores names contents reads := by
  cases h with
  | gcs => exact ⟨_, GcsStorage.stores hbacks⟩
  | localfs root => exact ⟨_, LocalFsStorage.stores hbacks root⟩
  | http h hget =>
    refine ⟨_, StoragePort.stores_of_fetches (fun spec c => ?_)
      (fun spec c s payload s' hread => ?_)
      fun spec payload c => ⟨_, rfl⟩⟩
    · dsimp only [HttpFetchStorage.port, HttpFetchStorage.read]
      refine Op.Keeps.retry ?_ _ _
      exact (Op.Keeps.ofExcept _).bind fun _ => (Op.Keeps.ofExcept _).bind fun _ =>
        (Op.Keeps.ofExcept _).bind fun headers =>
          ((hget _ headers _).mapError _).bind fun _ => Op.Keeps.ofExcept _
    · dsimp only [HttpFetchStorage.port] at hread
      have hschemes : ∀ scheme ∈ httpSchemes, scheme ≠ "gs" ∧ scheme ≠ "file" := by decide
      exact hschemes _ (HttpFetchStorage.scheme_of_read hread)
  | inline =>
    refine ⟨_, StoragePort.stores_of_fetches (fun spec c => Op.Keeps.ofExcept _)
      (fun spec c s payload s' hread => ?_) fun spec payload c => ⟨_, rfl⟩⟩
    dsimp only [inlineStorage, Op.run_ofExcept] at hread
    rw [scheme_of_decodeInlineUri (congrArg Prod.fst hread)]
    decide

/-- **However it is put together, a storage stores.** -/
theorem Assembled.stores (hlossless : codecs.Lossless) (hbacks : Backs client fs names contents)
    (h : Assembled codecs (StoringAdapter client fs contents) storage) :
    ∃ reads, storage.Stores names contents reads := by
  induction h with
  | plain hadapter => exact hadapter.stores hbacks
  | compressed hinner ih =>
    obtain ⟨reads, hreads⟩ := ih
    exact ⟨_, hreads.compressed hlossless⟩
  | @composite byScheme hadapters ih =>
    have hreads : ∀ scheme, ∃ reads, ∀ adapter, byScheme.get? scheme = some adapter →
        adapter.Stores names contents reads := by
      intro scheme
      rcases hget : byScheme.get? scheme with - | adapter
      · exact ⟨fun _ _ _ _ => False, nofun⟩
      · obtain ⟨reads, hstores⟩ := ih scheme adapter hget
        exact ⟨reads, fun _ h => Option.some.inj h ▸ hstores⟩
    choose reads hstores using hreads
    exact ⟨_, StoragePort.Stores.composite hstores⟩

end

/-! ## Accesses -/

/-- One access to a storage: what it was asked, and what it replied. -/
inductive Access
  | read (spec : InputSpec) (credentials : Credentials) (reply : Except PyException Bytes)
  | write (spec : OutputSpec) (payload : Bytes) (credentials : Credentials)
    (reply : Except PyException WriteReceipt)

/-- A write to the place was tried. -/
def Access.WritesTo (names : PosixPath → φ) (place : Place φ) : Access → Prop
  | .read .. => False
  | .write spec .. => placeOf names spec.destinationUri.text = some place

/-- A payload was shown to stand at the place, under a compression: it was read there, or written
there by a write that returned. -/
def Access.Shows (names : PosixPath → φ) (place : Place φ) (compression : Compression)
    (payload : Bytes) : Access → Prop
  | .read spec _ reply => placeOf names spec.sourceUri.text = some place ∧
      spec.compression = compression ∧ reply = .ok payload
  | .write spec payload' _ reply => placeOf names spec.destinationUri.text = some place ∧
      spec.compression = compression ∧ payload' = payload ∧ ∃ receipt, reply = .ok receipt

/-- A storage is accessed. -/
inductive StoragePort.Accessed (storage : StoragePort σ) : σ → Access → σ → Prop
  | read {spec : InputSpec} {c : Credentials} {s s' : σ} {reply : Except PyException Bytes}
    (h : storage.read spec c s = (reply, s')) : storage.Accessed s (.read spec c reply) s'
  | write {spec : OutputSpec} {payload : Bytes} {c : Credentials} {s s' : σ}
    {reply : Except PyException WriteReceipt} (h : storage.write spec payload c s = (reply, s')) :
    storage.Accessed s (.write spec payload c reply) s'

section

variable {names : PosixPath → φ} {contents : σ → Place φ → Option Bytes}
  {reads : Place φ → Compression → Bytes → Bytes → Prop} {storage : StoragePort σ}
  {place : Place φ} {access : Access} {s s' : σ}

/-- An access that does not write to a place leaves it alone. -/
theorem StoragePort.Stores.keeps_place (h : storage.Stores names contents reads)
    (haccess : ¬ access.WritesTo names place) (hstep : storage.Accessed s access s') :
    contents s' place = contents s place := by
  cases hstep with
  | read hread => exact congrFun ((congrArg contents (congrArg Prod.snd hread)).symm.trans
      (h.keeps _ _ s)) place
  | @write spec payload c _ _ reply hwrite =>
    have hkeep := h.elsewhere spec payload c s place haccess
    rwa [hwrite] at hkeep

/-- What an access shows is what the place holds after it. -/
theorem StoragePort.Stores.holds_of_shows (h : storage.Stores names contents reads)
    {compression : Compression} {payload : Bytes}
    (hshows : access.Shows names place compression payload)
    (hstep : storage.Accessed s access s') :
    ∃ raw, contents s' place = some raw ∧ reads place compression raw payload := by
  cases hstep with
  | @read spec c _ _ reply hread =>
    obtain ⟨hplace, rfl, rfl⟩ := hshows
    have hkeep := h.keeps spec c s
    rw [hread] at hkeep
    rw [hkeep]
    exact h.read spec c s payload s' place hread hplace
  | @write spec payload' c _ _ reply hwrite =>
    obtain ⟨hplace, rfl, rfl, receipt, rfl⟩ := hshows
    exact h.written spec _ c s receipt s' place hwrite hplace

end

section

variable [DecidableEq φ] {client : GcsClient σ} {fs : FileSystem σ} {names : PosixPath → φ}
  {contents : σ → Place φ → Option Bytes} {codecs : Codecs} {storage : StoragePort σ}

/-- **A read returns the payload that was shown last.** Of the accesses one after the other, any
may have raised, and between them the rest of the world did what it did, to anything but the
place. -/
theorem Assembled.read_back (hlossless : codecs.Lossless) (hbacks : Backs client fs names contents)
    (hstorage : Assembled codecs (StoringAdapter client fs contents) storage) {place : Place φ}
    {s s' : σ} {earlier between later : List Access} {shown : Access} {spec : InputSpec}
    {c : Credentials} {payload payload' : Bytes}
    (hrun : History storage.Accessed (fun s => contents s place) s
      (earlier ++ shown :: (between ++ .read spec c (.ok payload') :: later)) s')
    (hshown : shown.Shows names place spec.compression payload)
    (hbetween : ∀ access ∈ between, ¬ access.WritesTo names place)
    (hplace : placeOf names spec.sourceUri.text = some place) : payload' = payload := by
  obtain ⟨reads, h⟩ := hstorage.stores hlossless hbacks
  obtain ⟨s₁, s₂, s₃, s₄, hfirst, hsecond, hkeep⟩ :=
    hrun.between fun access haccess _ _ => h.keeps_place (hbetween access haccess)
  obtain ⟨raw, hraw, hreads⟩ := h.holds_of_shows hshown hfirst
  cases hsecond with
  | read hread =>
    obtain ⟨raw', hraw', hreads'⟩ := h.read spec c s₃ payload' s₄ place hread hplace
    have hkeep : contents s₃ place = contents s₂ place := hkeep
    rw [hkeep, hraw] at hraw'
    obtain rfl := Option.some.inj hraw'
    exact h.unique place spec.compression raw payload' payload hreads' hreads

end

end

/-! ## A store in memory -/

namespace Sample

/-- What a store in memory holds. -/
abbrev Contents : Type := Place PosixPath → Option Bytes

/-- The client of a store in memory. -/
def contentsClient : GcsClient Contents where
  bucket _ := .ok ()
  downloadAsBytes bucket blob contents :=
    match contents (.inl (bucket, blob)) with
    | some payload => (.ok payload, contents)
    | none => (.error (.raised .googleNotFound "No such object"), contents)
  uploadFromString bucket blob payload contents :=
    (.ok (), Store.put contents (.inl (bucket, blob)) payload)

/-- Its file system. -/
def contentsFiles : FileSystem Contents where
  pathExists path contents := (.ok (contents (.inr path)).isSome, contents)
  readBytes path contents :=
    match contents (.inr path) with
    | some payload => (.ok payload, contents)
    | none => (.error (.raised .osError "No such file or directory"), contents)
  mkdir _ contents := (.ok (), contents)
  writeBytes path payload contents := (.ok (), Store.put contents (.inr path) payload)

theorem contents_backs : Backs contentsClient contentsFiles id fun contents => contents where
  uploads :=
    { returned := by
        rintro bucket blob payload s s' h
        obtain rfl := (Prod.mk.inj h).2
        exact Store.put_comp Sum.inl_injective s (bucket, blob) payload
      raised := by
        rintro bucket blob payload s e s' h
        exact absurd (Prod.mk.inj h).1 nofun }
  uploadFiles bucket blob payload s := funext fun _ =>
    show Store.put s (.inl (bucket, blob)) payload _ = _ from Store.put_of_ne Sum.inr_ne_inl
  downloaded := by
    intro bucket blob s payload s' h
    unfold contentsClient at h
    dsimp only at h
    split at h
    · obtain rfl := Except.ok.inj (Prod.mk.inj h).1
      assumption
    · exact absurd (Prod.mk.inj h).1 nofun
  download bucket blob s := by
    unfold contentsClient
    dsimp only
    split <;> rfl
  writes :=
    { mkdir := fun _ _ => rfl
      returned := by
        rintro path payload s s' h
        obtain rfl := (Prod.mk.inj h).2
        exact Store.put_comp Sum.inr_injective s path payload
      raised := by
        rintro path payload s e s' h
        exact absurd (Prod.mk.inj h).1 nofun }
  mkdirObjects _ _ := rfl
  writeObjects path payload s := funext fun _ =>
    show Store.put s (.inr path) payload _ = _ from Store.put_of_ne Sum.inl_ne_inr
  readOk := by
    intro path s payload s' h
    unfold contentsFiles at h
    dsimp only at h
    split at h
    · obtain rfl := Except.ok.inj (Prod.mk.inj h).1
      assumption
    · exact absurd (Prod.mk.inj h).1 nofun
  readBytes path s := by
    unfold contentsFiles
    dsimp only
    split <;> rfl
  pathExists _ _ := rfl

/-- A storage with codecs over the store in memory. -/
def contentsStorage [UnicodeData] : StoragePort Contents :=
  compressedStorage codecs (CompositeStorage.port
    ⟨(Dict.empty.set "gs" (GcsStorage.port contentsClient)).set "file"
      (LocalFsStorage.port contentsFiles none)⟩)

theorem contentsStorage_assembled [UnicodeData] : Assembled codecs
    (StoringAdapter contentsClient contentsFiles fun contents => contents) contentsStorage := by
  refine .compressed (.composite fun scheme adapter hget => ?_)
  rw [Dict.get?_set, Dict.get?_set] at hget
  split at hget
  · obtain rfl := Option.some.inj hget
    exact .plain (.localfs none)
  · split at hget
    · obtain rfl := Option.some.inj hget
      exact .plain .gcs
    · exact absurd hget.symm (Option.some_ne_none _)

/-- An input at a source, under `gzip`. -/
def gzippedInput (sourceUri : AnyUrl) : InputSpec := { gzipInput with sourceUri }

/-- An output at a destination, under `gzip`. -/
def gzippedOutput (destinationUri : AnyUrl) : OutputSpec :=
  { outputSpec destinationUri .overwrite with compression := .gzip }

end Sample

section

attribute [local instance] UnicodeData.ascii

/-- An object is written, then a file, then the object is read. -/
theorem read_back_sample : ∃ payload s, Sample.contentsStorage.read
      (Sample.gzippedInput Sample.gsUri) Sample.credentials
      (Sample.contentsStorage.write (Sample.outputSpec Sample.fileUri .overwrite) (encodeUtf8 "w")
        Sample.credentials
        (Sample.contentsStorage.write (Sample.gzippedOutput Sample.gsUri) (encodeUtf8 "v")
          Sample.credentials fun _ => none).2).2 = (.ok payload, s) ∧ payload = encodeUtf8 "v" := by
  let object : Place PosixPath := .inl ("b", "o")
  have hobject : placeOf id "gs://b/o" = some object := by decide +kernel
  have hfile : placeOf id "file:///tmp/o" ≠ some object := by decide +kernel
  have hwritten : (Sample.contentsStorage.write (Sample.gzippedOutput Sample.gsUri)
      (encodeUtf8 "v") Sample.credentials fun _ => none).1 = .ok ⟨"gs://b/o", 3, "gcs"⟩ := by
    decide +kernel
  have hread : ∃ payload, (Sample.contentsStorage.read (Sample.gzippedInput Sample.gsUri)
      Sample.credentials
      (Sample.contentsStorage.write (Sample.outputSpec Sample.fileUri .overwrite) (encodeUtf8 "w")
        Sample.credentials
        (Sample.contentsStorage.write (Sample.gzippedOutput Sample.gsUri) (encodeUtf8 "v")
          Sample.credentials fun _ => none).2).2).1 = .ok payload :=
    ⟨encodeUtf8 "v", by decide +kernel⟩
  obtain ⟨payload, hpayload⟩ := hread
  refine ⟨payload, _, Prod.ext hpayload rfl, ?_⟩
  let earlier : Access := .write (Sample.gzippedOutput Sample.gsUri) (encodeUtf8 "v")
    Sample.credentials (.ok ⟨"gs://b/o", 3, "gcs"⟩)
  let between : Access := .write (Sample.outputSpec Sample.fileUri .overwrite) (encodeUtf8 "w")
    Sample.credentials (Sample.contentsStorage.write (Sample.outputSpec Sample.fileUri .overwrite)
      (encodeUtf8 "w") Sample.credentials
      (Sample.contentsStorage.write (Sample.gzippedOutput Sample.gsUri) (encodeUtf8 "v")
          Sample.credentials fun _ => none).2).1
  let later : Access := .read (Sample.gzippedInput Sample.gsUri) Sample.credentials (.ok payload)
  have hrun : History Sample.contentsStorage.Accessed (fun s => s object) (fun _ => none)
      ([] ++ earlier :: ([between] ++ later :: [])) _ :=
    .cons rfl (.write (Prod.ext hwritten rfl)) (.cons rfl (.write rfl)
      (.cons rfl (.read (Prod.ext hpayload rfl)) (.nil rfl)))
  exact Assembled.read_back Sample.codecs_lossless Sample.contents_backs
    Sample.contentsStorage_assembled hrun ⟨hobject, rfl, rfl, _, rfl⟩
    (List.forall_mem_singleton.mpr hfile) hobject

end

end Grabatus

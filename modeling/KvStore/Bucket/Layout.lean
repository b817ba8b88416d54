import KvStore.Store.World
import KvStore.Store.Page
import KvStore.Bucket.Name
import KvStore.Bucket.Object
import KvStore.Payload

namespace KvStore

namespace Bucket

def resolve (path : String) : Act Path := do pure ((← get).host.resolve path)

def change (f : FileTree → Nat → Except IoError FileTree) : Act (Except IoError Unit) := do
  let w ← get
  let h := w.host.tick
  match f h.files h.clock with
  | .ok files =>
    set { w with host := { h with files } }
    pure (.ok ())
  | .error e =>
    set { w with host := h }
    pure (.error e)

def logTarget : String := "kvbridge::storage::document::bucket"

def files : Act FileTree := do pure (← get).host.files

def ioFailure (operation : String) (e : IoError) : Error := .operationFailed operation e.message

def contentBytes : FileData → ByteArray
  | .text content => content.toUTF8
  | .database _ => "SQLite format 3".toUTF8.push 0

structure Layout where
  pool : Nat
  bucket : String
  bucketDir : String
  deriving Repr, BEq, Inhabited

namespace Layout

def make (pool : Nat) (root bucket : String) : Outcome Layout :=
  if isPlainDirName bucket then .ok { pool, bucket, bucketDir := PathText.join root bucket }
  else .error (.invalidInput ("bucket name '" ++ bucket ++ "' must be a plain directory name"))

def ensureOpen (l : Layout) : Act Unit := do
  if ((← get).pool l.pool).closed then throw .disconnected

def namespaceDir (l : Layout) (ns : String) : String := PathText.join l.bucketDir (namespaceDirName ns)

def objectPath (l : Layout) (ns key : String) : String :=
  PathText.join (l.namespaceDir ns) (objectFileName key)

def bootstrap (l : Layout) : Act Unit := do
  l.ensureOpen
  let p ← resolve l.bucketDir
  match ← change fun t _ => t.createDirAll p with
  | .ok () => pure ()
  | .error e => throw (ioFailure "bucket_bootstrap" e)

def load (l : Layout) (path : String) : Act (Option StoredObject) := do
  l.ensureOpen
  match (← files).readFile (← resolve path) with
  | .error .notFound => pure none
  | .error e => throw (ioFailure "bucket_read" e)
  | .ok d =>
    match Json.decodeBytes objectReader (contentBytes d) with
    | .ok o => pure (some o)
    | .error e => throw (.operationFailed "bucket_decode" (path ++ ": " ++ e.render))

def touch (path : String) : Act Unit := do
  let p ← resolve path
  match ← change fun t now => t.touch p now with
  | .ok () | .error .notFound => pure ()
  | .error _ => Act.log .debug logTarget "Failed to refresh lastAccessed" ["error"]

/-- The `(key, value)` pairs found, one per key asked for. An object whose stored key
differs (a hashed name shared by two keys) is not the key's; a found object is
refreshed. -/
def getMany (l : Layout) (ns : String) (keys : List String) : Act (List (String × String)) :=
  keys.foldlM (fun found key => do
    let path := l.objectPath ns key
    match ← l.load path with
    | some o =>
      if o.key == key then
        touch path
        pure (found ++ [(key, o.value)])
      else pure found
    | none => pure found) []

def upsertMany (l : Layout) (ns : String) (entries : List StoredEntry) : Act Unit := do
  l.ensureOpen
  let dir := l.namespaceDir ns
  let dirPath ← resolve dir
  match ← change fun t _ => t.createDirAll dirPath with
  | .ok () => pure ()
  | .error e => throw (ioFailure "bucket_create_namespace" e)
  let now : Int := (← get).nowMillis
  for entry in entries do
    let object : StoredObject :=
      { key := entry.key, value := entry.value,
        metadata := { expiresAt := entry.expires, lastAccessed := now, namespaceName := ns } }
    let temp ← resolve (PathText.join dir ("." ++ toString (← Act.fresh) ++ ".tmp"))
    match ← change fun t now => t.writeFile temp (.text object.encode) now with
    | .ok () => pure ()
    | .error e =>
      discard (change fun t _ => t.removeFile temp)
      throw (ioFailure "bucket_write" e)
    let target ← resolve (l.objectPath ns entry.key)
    match ← change fun t _ => t.rename temp target with
    | .ok () => pure ()
    | .error e =>
      discard (change fun t _ => t.removeFile temp)
      throw (ioFailure "bucket_rename" e)

def remove (l : Layout) (path : String) : Act Bool := do
  l.ensureOpen
  let p ← resolve path
  match ← change fun t _ => t.removeFile p with
  | .ok () => pure true
  | .error .notFound => pure false
  | .error e => throw (ioFailure "bucket_delete" e)

def delete (l : Layout) (ns key : String) : Act Bool := l.remove (l.objectPath ns key)

def deleteMany (l : Layout) (ns : String) (keys : List String) : Act Nat :=
  keys.foldlM (fun n key => do pure (if ← l.delete ns key then n + 1 else n)) 0

def hasMany (l : Layout) (ns : String) (keys : List String) : Act (List String) := do
  l.ensureOpen
  keys.foldlM (fun found key => do
    match (← files).tryExists (← resolve (l.objectPath ns key)) with
    | .ok true => pure (found ++ [key])
    | .ok false => pure found
    | .error e => throw (ioFailure "bucket_exists" e)) []

def listObjects (l : Layout) (dir : String) : Act (List (String × String)) := do
  match (← files).readDir (← resolve dir) with
  | .error .notFound => pure []
  | .error e => throw (ioFailure "bucket_list" e)
  | .ok names =>
    names.foldlM (fun acc name => do
      let path := PathText.join dir name
      if !FileName.isText name then pure acc
      else match keyOfFileName? name with
        | some key => pure (acc ++ [(key, path)])
        | none =>
          if isHashedName name then
            match ← Act.attempt (l.load path) with
            | .ok (some o) => pure (acc ++ [(o.key, path)])
            | .ok none => pure acc
            | .error _ => do
              Act.log .debug logTarget "Skipping unreadable object" ["error", "file"]
              pure acc
          else pure acc) []

def listNamespace (l : Layout) (ns : String) : Act (List (String × String)) := do
  l.ensureOpen
  let objects ← l.listObjects (l.namespaceDir ns)
  pure (objects.mergeSort fun a b => decide (a.1 ≤ b.1))

def namespaceDirs (l : Layout) : Act (List String) := do
  l.ensureOpen
  match (← files).readDir (← resolve l.bucketDir) with
  | .error .notFound => pure []
  | .error e => throw (ioFailure "bucket_list" e)
  | .ok names =>
    pure ((names.filter fun n => FileName.isText n && n.startsWith namespacePrefix).map
      (PathText.join l.bucketDir))

def clearNamespace (l : Layout) (ns : String) : Act Nat := do
  let objects ← l.listNamespace ns
  objects.foldlM (fun n (_, path) => do pure (if ← l.remove path then n + 1 else n)) 0

def restore (tomb path : Path) : Act Unit := do
  match ← change fun t _ => t.hardLink tomb path with
  | .ok () | .error .alreadyExists =>
    match ← change fun t _ => t.removeFile tomb with
    | .ok () => pure ()
    | .error e => throw (ioFailure "bucket_restore" e)
  | .error _ =>
    match ← change fun t _ => t.rename tomb path with
    | .ok () => pure ()
    | .error e => throw (ioFailure "bucket_restore" e)

/-- Deletes the object at a path if `stale` holds for it, judged on a tombstone the
object was moved to; whether it was deleted. -/
def reap (l : Layout) (path : String) (stale : StoredObject → Nat → Bool) : Act Bool := do
  l.ensureOpen
  match PathText.parent? path with
  | none => pure false
  | some dir =>
    let tombText := PathText.join dir ("." ++ toString (← Act.fresh) ++ ".reap")
    let tomb ← resolve tombText
    let p ← resolve path
    match ← change fun t _ => t.rename p tomb with
    | .ok () =>
      let verdict ← Act.attempt do
        match (← files).modified tomb with
        | .error e => throw (ioFailure "bucket_metadata" e)
        | .ok modified =>
          match ← l.load tombText with
          | some o => pure (stale o modified)
          | none => pure false
      match verdict with
      | .ok true =>
        match ← change fun t _ => t.removeFile tomb with
        | .ok () => pure true
        | .error e => throw (ioFailure "bucket_reap" e)
      | .ok false =>
        restore tomb p
        pure false
      | .error e =>
        if let .error _ ← Act.attempt (restore tomb p) then
          Act.log .warn logTarget "Failed to restore reaped object" ["error"]
        throw e
    | .error .notFound => pure false
    | .error e => throw (ioFailure "bucket_reap" e)

def expiredAt (now : Int) (o : StoredObject) : Bool :=
  match o.metadata.expiresAt with
  | some e => decide (e < now)
  | none => false

def clearExpired (l : Layout) (now : Int) : Act Nat := do
  let dirs ← l.namespaceDirs
  dirs.foldlM (fun n dir => do
    let objects ← l.listObjects dir
    objects.foldlM (fun n (_, path) => do
      let candidate := match ← l.load path with
        | some o => expiredAt now o
        | none => false
      if candidate then pure (if ← l.reap path (fun o _ => expiredAt now o) then n + 1 else n)
      else pure n) n) 0

/-- The latest modification time, in nanoseconds, of an object unused for `maxAge`
seconds. A cutoff before the clock's range is its start. -/
def cutoff (clock maxAge : Nat) : Int :=
  if maxAge > clock / 1000000000 + Nat.pow 2 63 then 0 else (clock : Int) - maxAge * 1000000000

def clearUnusedFor (l : Layout) (maxAge : Nat) : Act Nat := do
  modify fun w => { w with host := w.host.tick }
  let limit := cutoff (← get).host.clock maxAge
  let unused : StoredObject → Nat → Bool := fun _ modified => decide ((modified : Int) < limit)
  let dirs ← l.namespaceDirs
  dirs.foldlM (fun n dir => do
    let objects ← l.listObjects dir
    objects.foldlM (fun n (_, path) => do
      match (← files).modified (← resolve path) with
      | .ok modified =>
        if (modified : Int) < limit then pure (if ← l.reap path unused then n + 1 else n)
        else pure n
      | .error .notFound => pure n
      | .error e => throw (ioFailure "bucket_metadata" e)) n) 0

/-- One keyset page of a namespace: keys after the cursor, at most `limit` of them. An
object gone since the listing is counted as fetched but yields no entry. -/
def page (l : Layout) (ns : String) (cursor : Option String) (limit : Nat) : Act Page := do
  let objects ← l.listNamespace ns
  let objects := (objects.filter fun (k, _) => match cursor with
    | some c => decide (c < k)
    | none => true).take limit
  let entries ← objects.foldlM (fun acc (k, path) => do
    match ← l.load path with
    | some o => pure (acc ++ [(k, o.value)])
    | none => pure acc) []
  pure { entries, fetched := objects.length, lastKey := objects.getLast?.map (·.1) }

def debugText (w : World) (l : Layout) : String :=
  "BucketLayout \x7b handle: " ++ (w.pool l.pool).debugText ++ ", bucket_dir: " ++ Text.quoted l.bucketDir ++
    ", bucket: " ++ Text.quoted l.bucket ++ " \x7d"

end Layout

end Bucket

end KvStore

import KvStore.Host.Path
import KvStore.Text.Hex

namespace KvStore

inductive IoError where
  | notPermitted
  | notFound
  | permissionDenied
  | alreadyExists
  | notADirectory
  | isADirectory
  | invalidArgument
  | nameTooLong
  | directoryNotEmpty
  deriving Repr, BEq, DecidableEq, Inhabited

namespace IoError

def message : IoError → String
  | .notPermitted => "Operation not permitted (os error 1)"
  | .notFound => "No such file or directory (os error 2)"
  | .permissionDenied => "Permission denied (os error 13)"
  | .alreadyExists => "File exists (os error 17)"
  | .notADirectory => "Not a directory (os error 20)"
  | .isADirectory => "Is a directory (os error 21)"
  | .invalidArgument => "Invalid argument (os error 22)"
  | .nameTooLong => "File name too long (os error 36)"
  | .directoryNotEmpty => "Directory not empty (os error 39)"

end IoError

namespace FileName

/-- The name of a directory entry from its bytes. A name that is not UTF-8 text is kept
as a NUL followed by the hex of its bytes; a NUL never occurs in a name that is text. -/
def ofBytes (bytes : List UInt8) : String :=
  match String.fromUTF8? (ByteArray.mk bytes.toArray) with
  | some s => s
  | none => "\x00" ++ Hex.encodeBytes bytes

def isText (name : String) : Bool := !name.startsWith "\x00"

end FileName

inductive FileData where
  | text (content : String)
  | database (id : Nat)
  deriving Repr, BEq, Inhabited

inductive Entry where
  | dir
  | file (data : FileData) (modified : Nat)
  deriving Repr, BEq, Inhabited

/-- A file tree: every entry under its absolute path. The root is always a directory. -/
structure FileTree where
  entries : List (Path × Entry)
  deriving Inhabited

namespace FileTree

def empty : FileTree := ⟨[]⟩

def maxNameBytes : Nat := 255

def get? (t : FileTree) (p : Path) : Option Entry :=
  if p.isEmpty then some .dir else (t.entries.find? (·.1 == p)).map (·.2)

def lookup (t : FileTree) (p : Path) : Except IoError (Option Entry) :=
  go [] p
where
  go (done : Path) : Path → Except IoError (Option Entry)
    | [] => .ok (t.get? done)
    | c :: rest =>
      if c.utf8ByteSize > maxNameBytes then .error .nameTooLong
      else
        let here := done ++ [c]
        match t.get? here, rest with
        | e, [] => .ok e
        | none, _ => .error .notFound
        | some (.file _ _), _ => .error .notADirectory
        | some .dir, _ => go here rest

def put (t : FileTree) (p : Path) (e : Entry) : FileTree :=
  if t.entries.any (·.1 == p) then ⟨t.entries.map fun (q, old) => if q == p then (q, e) else (q, old)⟩
  else ⟨t.entries ++ [(p, e)]⟩

def erase (t : FileTree) (p : Path) : FileTree :=
  ⟨t.entries.filter fun (q, _) => !(p.isPrefixOf q)⟩

def children (t : FileTree) (p : Path) : List String :=
  let names := t.entries.filterMap fun (q, _) =>
    if q.length == p.length + 1 && p.isPrefixOf q then q.getLast? else none
  names.mergeSort (fun a b => decide (a ≤ b))

def checkParent (t : FileTree) (p : Path) : Except IoError Unit :=
  match t.lookup p.dropLast with
  | .error e => .error e
  | .ok none => .error .notFound
  | .ok (some (.file _ _)) => .error .notADirectory
  | .ok (some .dir) =>
    match p.getLast? with
    | some c => if c.utf8ByteSize > maxNameBytes then .error .nameTooLong else .ok ()
    | none => .ok ()

def mkdir (t : FileTree) (p : Path) : Except IoError FileTree := do
  match ← t.lookup p with
  | some _ => throw .alreadyExists
  | none =>
    t.checkParent p
    pure (t.put p .dir)

def isDir (t : FileTree) (p : Path) : Bool :=
  match t.lookup p with
  | .ok (some .dir) => true
  | _ => false

def createDirAllWithin : Nat → FileTree → Path → Except IoError FileTree
  | 0, t, q => if t.isDir q then .ok t else .error .alreadyExists
  | n + 1, t, q =>
    match t.mkdir q with
    | .ok t' => .ok t'
    | .error .notFound =>
      match createDirAllWithin n t q.dropLast with
      | .error e => .error e
      | .ok t' =>
        match t'.mkdir q with
        | .ok t'' => .ok t''
        | .error e => if t'.isDir q then .ok t' else .error e
    | .error e => if t.isDir q then .ok t else .error e

def createDirAll (t : FileTree) (p : Path) : Except IoError FileTree :=
  createDirAllWithin (p.length + 1) t p

def readFile (t : FileTree) (p : Path) : Except IoError FileData := do
  match ← t.lookup p with
  | none => throw .notFound
  | some .dir => throw .isADirectory
  | some (.file d _) => pure d

def writeFile (t : FileTree) (p : Path) (d : FileData) (now : Nat) : Except IoError FileTree := do
  t.checkParent p
  match ← t.lookup p with
  | some .dir => throw .isADirectory
  | _ => pure (t.put p (.file d now))

def openAppend (t : FileTree) (p : Path) (now : Nat) : Except IoError FileTree := do
  match ← t.lookup p with
  | some .dir => throw .isADirectory
  | some (.file _ _) => pure t
  | none =>
    t.checkParent p
    pure (t.put p (.file (.text "") now))

def appendText (t : FileTree) (p : Path) (s : String) (now : Nat) : Except IoError FileTree := do
  match ← t.lookup p with
  | some .dir => throw .isADirectory
  | some (.file (.text old) _) => pure (t.put p (.file (.text (old ++ s)) now))
  | some (.file d _) => pure (t.put p (.file d now))
  | none =>
    t.checkParent p
    pure (t.put p (.file (.text s) now))

def removeFile (t : FileTree) (p : Path) : Except IoError FileTree := do
  match ← t.lookup p with
  | none => throw .notFound
  | some .dir => throw .isADirectory
  | some (.file _ _) => pure (t.erase p)

def tryExists (t : FileTree) (p : Path) : Except IoError Bool :=
  match t.lookup p with
  | .ok e => .ok e.isSome
  | .error .notFound => .ok false
  | .error e => .error e

def exists_ (t : FileTree) (p : Path) : Bool :=
  match t.lookup p with
  | .ok (some _) => true
  | _ => false

def readDir (t : FileTree) (p : Path) : Except IoError (List String) := do
  match ← t.lookup p with
  | none => throw .notFound
  | some (.file _ _) => throw .notADirectory
  | some .dir => pure (t.children p)

def rename (t : FileTree) (src dst : Path) : Except IoError FileTree := do
  let e ← match ← t.lookup src with
    | none => throw .notFound
    | some e => pure e
  t.checkParent dst
  let target ← t.lookup dst
  match e, target with
  | .file _ _, some .dir => throw .isADirectory
  | .dir, some (.file _ _) => throw .notADirectory
  | .dir, some .dir =>
    if (t.children dst).isEmpty then pure () else throw .directoryNotEmpty
  | _, _ => pure ()
  if src == dst then return t
  if e == .dir && src.isPrefixOf dst then throw .invalidArgument
  let moved := t.entries.filterMap fun (q, x) =>
    if src.isPrefixOf q then some (dst ++ q.drop src.length, x) else none
  let kept := (t.erase dst).erase src
  pure ⟨kept.entries ++ moved⟩

def hardLink (t : FileTree) (src dst : Path) : Except IoError FileTree := do
  let e ← match ← t.lookup src with
    | none => throw .notFound
    | some e => pure e
  t.checkParent dst
  match ← t.lookup dst with
  | some _ => throw .alreadyExists
  | none =>
    match e with
    | .dir => throw .notPermitted
    | .file _ _ => pure (t.put dst e)

def touch (t : FileTree) (p : Path) (now : Nat) : Except IoError FileTree := do
  match ← t.lookup p with
  | none => throw .notFound
  | some .dir => throw .isADirectory
  | some (.file d _) => pure (t.put p (.file d now))

def modified (t : FileTree) (p : Path) : Except IoError Nat := do
  match ← t.lookup p with
  | none => throw .notFound
  | some .dir => pure 0
  | some (.file _ m) => pure m

def under (t : FileTree) (p : Path) : List (Path × Entry) :=
  t.entries.filterMap fun (q, e) =>
    if p.isPrefixOf q && q.length > p.length then some (q.drop p.length, e) else none

end FileTree

end KvStore

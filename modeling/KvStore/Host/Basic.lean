import KvStore.Host.Env
import KvStore.Host.Files

namespace KvStore

/-- The environment, files, working directory and clock of a process. -/
structure Host where
  env : EnvVars := {}
  files : FileTree := FileTree.empty
  cwd : Path := []
  clock : Nat := 1750000000000000000
  deriving Inhabited

namespace Host

def atRoot (root : String) : Host :=
  let rootPath := PathText.resolve [] root
  let files := (FileTree.empty.createDirAll rootPath).toOption.getD FileTree.empty
  let files := (files.createDirAll ["tmp"]).toOption.getD files
  { env := EnvVars.set {} "HOME" root, files, cwd := rootPath }

def nowMillis (h : Host) : Nat := h.clock / 1000000

def tick (h : Host) : Host := { h with clock := h.clock + 1000 }

def sleep (h : Host) (ms : Nat) : Host := { h with clock := h.clock + ms * 1000000 }

def resolve (h : Host) (p : String) : Path := PathText.resolve h.cwd p

def textAt? (h : Host) (p : String) : Option String :=
  match h.files.readFile (h.resolve p) with
  | .ok (.text t) => some t
  | _ => none

/-- Writes a fixture: text into a file, or a directory when there is no text; the
directories above it are created. A fixture that cannot be written is skipped. -/
def writeFixture (h : Host) (path : String) (content : Option String) : Host :=
  let h := h.tick
  let p := h.resolve path
  match content with
  | none => { h with files := (h.files.createDirAll p).toOption.getD h.files }
  | some text =>
    let files := (h.files.createDirAll p.dropLast).toOption.getD h.files
    { h with files := (files.writeFile p (.text text) h.clock).toOption.getD files }

end Host

end KvStore

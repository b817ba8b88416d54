import KvStore.Config.Store
import KvStore.Payload

namespace KvStore

namespace Session

inductive Family where
  | sqlite
  | bucket
  | postgres
  deriving Repr, BEq, DecidableEq, Inhabited

structure StoreSpec where
  name : String
  family : Family
  config : StoreConfig
  lazy : Bool := false
  /-- Bootstrapped as part of opening, so that a bootstrap failure fails the open. -/
  connect : Bool := false
  deriving Inhabited

/-- A call straight to a store's backend, past the store's checks. -/
inductive BackendCall where
  | name
  | table
  | bootstrap
  | getMany (keys : List String)
  | hasMany (keys : List String)
  | upsertMany (entries : List StoredEntry)
  | delete (key : String)
  | deleteMany (keys : List String)
  | clearNamespace
  | clearExpired (now : Int)
  | page (cursor : Option String) (limit : Nat)
  deriving Inhabited

inductive Command where
  | set (key : String) (value : Payload)
  | setMany (entries : List (String × Payload))
  | get (key : String)
  | getMany (keys : List String)
  | has (key : String)
  | hasMany (keys : List String)
  | delete (key : String)
  | deleteMany (keys : List String)
  | clear
  | clearExpired
  | iterate
  | iterNew (id : String)
  | iterNext (id : String) (count : Nat)
  | iterDebug (id : String)
  | page (cursor : Option String) (limit : Nat)
  | disconnect
  | isClosed
  | ready
  | info
  | options
  /-- Starts or stops the expiry reaper; `inRuntime` is false when called from a
  thread with no runtime to run it. -/
  | setReaper (ms : Option Nat) (inRuntime : Bool)
  | hasReaper
  | clearUnused (secs : Nat)
  | events
  | dump
  /-- One expiry sweep over the store's URI with a store of its own. -/
  | reap (namespaceName table : Option String)
  | openStore
  | sql (text : String)
  | query (text : String)
  | writeFile (path : String) (content : Option String)
  /-- A file whose name is given as bytes, in a directory under the root. -/
  | writeBytes (dir : String) (name : List UInt8) (content : String)
  | removePath (path : String)
  | sleep (ms : Nat)
  | debug
  | cloneOps (key : String)
  | poolLen
  | filterNew (id eventType : String)
  | filterNext (id : String)
  | backend (call : BackendCall) (ns : String)
  | unknown (op : String)
  deriving Inhabited

/-- A command and the store it addresses (`none`: the first store). -/
structure Step where
  store : Option String
  command : Command
  deriving Inhabited

structure Script where
  stores : List StoreSpec
  /-- SQL run, before any store opens, on a database file under the root. -/
  setupSql : Option (String × String) := none
  steps : List Step
  deriving Inhabited

end Session

end KvStore

import KvStore.Store.Basic

namespace KvStore

inductive IterState where
  | start
  | paging (cursor : String)
  | done
  deriving Repr, BEq, Inhabited

/-- The cursor of the next page while the scan goes on: from the first key at the
start, after the last key scanned while paging. -/
def IterState.cursor? : IterState → Option (Option String)
  | .start => some none
  | .paging c => some (some c)
  | .done => none

/-- A keyset scan: the page size, where it stands, and the entries fetched but not yet
yielded. -/
structure KeysetIterator where
  limit : Nat
  state : IterState := .start
  buffer : List (String × String) := []
  deriving Repr, Inhabited

def Sql.SchemaObject.rowCount : Sql.SchemaObject → Nat
  | .table t => t.rows.length
  | _ => 0

def Sql.Database.rowCount (db : Sql.Database) : Nat :=
  db.objects.foldr (fun o n => o.rowCount + n) 0

/-- How many entries a world holds: the rows of its databases and the entries of its file
tree. No namespace of a store holds more keys. -/
def World.entryCount (w : World) : Nat :=
  w.databases.foldr (fun d n => d.2.rowCount + n) 0 + w.host.files.entries.length

namespace KeysetIterator

def new (limit : Nat) : KeysetIterator := { limit := max limit 1 }

def debugText (it : KeysetIterator) : String :=
  let state := match it.state with
    | .start => "Start"
    | .paging c => "Paging(" ++ Text.quoted c ++ ")"
    | .done => "Done"
  "KeysetIterator \x7b limit: " ++ toString it.limit ++ ", state: " ++ state ++ ", buffered: " ++
    toString it.buffer.length ++ ", .. \x7d"

/-- The scan after a page that scanned some entries: its entries are buffered, and the
last key of a full page is the cursor of the next one. -/
def absorb (it : KeysetIterator) (page : Page) : KeysetIterator :=
  { it with
    state := match page.lastKey with
      | some last => if page.fetched ≥ it.limit then .paging last else .done
      | none => .done
    buffer := it.buffer ++ page.entries }

section Loop

variable {m : Type → Type} [Monad m] (fetch : Option String → Nat → m (Outcome Page))

/-- The next entry within `fuel` turns of the loop, pages fetched by `fetch`: an entry,
`none` at the end, or the error of a fetch, after which the scan is over. The answer is
`none` when the loop has not ended within `fuel` turns. -/
def nextWithin : Nat → KeysetIterator → m (Option (KeysetIterator × Outcome (Option (String × String))))
  | 0, _ => pure none
  | fuel + 1, it =>
    match it.buffer with
    | e :: rest => pure (some ({ it with buffer := rest }, .ok (some e)))
    | [] =>
      match it.state.cursor? with
      | none => pure (some (it, .ok none))
      | some cursor => do
        match ← fetch cursor it.limit with
        | .error e => pure (some ({ it with state := .done }, .error e))
        | .ok page =>
          if page.fetched = 0 then pure (some ({ it with state := .done }, .ok none))
          else nextWithin fuel (it.absorb page)

/-- Drains a scan within `fuel` calls of `next`, the call that still has `n` of them
left taking at most `n` turns of its loop: every entry, or the first error. The answer
is `none` when the scan has not ended within them. -/
def collectWithin : Nat → KeysetIterator → List (String × String) →
    m (Option (Outcome (List (String × String))))
  | 0, _, _ => pure none
  | fuel + 1, it, acc => do
    match ← nextWithin fetch (fuel + 1) it with
    | none => pure none
    | some (_, .error e) => pure (some (.error e))
    | some (_, .ok none) => pure (some (.ok acc.reverse))
    | some (it', .ok (some e)) => collectWithin fuel it' (e :: acc)

end Loop

def storeFetch (cursor : Option String) (limit : Nat) : StoreAct (Outcome Page) :=
  StoreAct.attempt (Store.fetchPage cursor limit)

/-- The turns the loop of one step may take in a world: one for each entry the world holds,
and one more. A page that yields nothing moves the cursor past a key of the namespace, and
reading adds no entry, so the loop never needs more. -/
def turnBound (w : World) : Nat := w.entryCount + 1

def next (it : KeysetIterator) : StoreAct (KeysetIterator × Outcome (Option (String × String))) := do
  match ← nextWithin storeFetch (turnBound (← StoreAct.world)) it with
  | some r => pure r
  | none => pure (it, .ok none)

/-- Every entry of a fresh scan of the store; the first error ends it. Each call of `next`
but the last yields an entry, so at most `turnBound` calls drain the scan, each still given
a step's turns. -/
def collectAll (limit : Nat) : StoreAct (List (String × String)) := do
  match ← collectWithin storeFetch (2 * turnBound (← StoreAct.world)) (new limit) [] with
  | some (.ok entries) => pure entries
  | some (.error e) => throw e
  | none => pure []

end KeysetIterator

end KvStore

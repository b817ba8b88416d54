import KvStore.Sql.Exec

namespace KvStore

namespace Sql

inductive ClientError where
  | engine (message : String)
  | input (message sql : String) (offset : Nat)
  /-- A result column read as a type its value does not have. -/
  | columnType (index : Nat) (name : String) (found : String)
  | returnedRows
  | multipleStatements
  deriving Repr, BEq, Inhabited

namespace ClientError

def message : ClientError → String
  | .engine m => m
  | .input m sql offset => m ++ " in " ++ sql ++ " at offset " ++ toString offset
  | .columnType i name found =>
    "Invalid column type " ++ found ++ " at index: " ++ toString i ++ ", name: " ++ name
  | .returnedRows => "Execute returned results - did you mean to call query?"
  | .multipleStatements => "Multiple statements provided"

def ofEngine (sql : String) (e : SqlError) : ClientError :=
  match e.offset with
  | some offset => .input e.message sql offset
  | none => .engine e.message

end ClientError

def bytesFrom (s : String) (start : Nat) : String :=
  (String.fromUTF8? (s.toUTF8.extract start s.utf8ByteSize)).getD ""

/-- The first statement of SQL text and the text after its `;`; `none` when the text
holds only blanks, comments and `;`. A token the lexer refuses is reported when the
statement reaches it. -/
def firstStatement (sql : String) : Except SqlError (Option (Parsed × String)) :=
  let (tokens, lexError) := tokenizePrefix sql
  match nextStatement sql tokens, lexError with
  | .ok (some (p, semi :: _)), _ => .ok (some (p, bytesFrom sql (semi.offset + 1)))
  | .ok (some (p, [])), none => .ok (some (p, ""))
  | .ok _, some e => .error e
  | .ok none, none => .ok none
  | .error e, some le =>
    match e.offset, le.offset with
    | some at₁, some at₂ => if at₁ < at₂ then .error e else .error le
    | _, _ => .error le
  | .error e, none => .error e

/-- The database a statement leaves, and its outcome. A failure that keeps the rows
written before it leaves them; one that undoes the transaction leaves the database as
the transaction found it, with no transaction open. -/
def settle (db : Database) : Except SqlError StatementResult → Database × Except SqlError StatementResult
  | .ok r =>
    match r.stoppedBy with
    | some e => (r.db, .error e)
    | none => (r.db, .ok r)
  | .error e =>
    match e.undo, db.savepoint with
    | .transaction, some objects => ({ db with objects, savepoint := none }, .error e)
    | _, _ => (db, .error e)

/-- Runs every statement of `sql` in turn. The statements before a failing one stay
applied; the error reports the text from the failing statement on. -/
def executeBatch (db : Database) (sql : String) : Database × Option ClientError :=
  go (sql.length + 1) db sql
where
  go : Nat → Database → String → Database × Option ClientError
    | 0, db, _ => (db, none)
    | fuel + 1, db, sql =>
      match firstStatement sql with
      | .error e => (db, some (ClientError.ofEngine sql e))
      | .ok none => (db, none)
      | .ok (some (p, rest)) =>
        match settle db (run db [] p) with
        | (db', .error e) => (db', some (ClientError.ofEngine sql e))
        | (db', .ok _) => go fuel db' rest

def singleStatement (sql : String) : Except ClientError (Option Parsed) :=
  match firstStatement sql with
  | .error e => .error (ClientError.ofEngine sql e)
  | .ok none => .ok none
  | .ok (some (p, rest)) =>
    match firstStatement rest with
    | .ok none => .ok (some p)
    | _ => .error .multipleStatements

/-- Runs one statement for its effect, with parameters; gives the database it leaves
and the number of rows it changed. -/
def execute (db : Database) (sql : String) (params : List Value) : Database × Except ClientError Nat :=
  match singleStatement sql with
  | .error e => (db, .error e)
  | .ok none => (db, .ok 0)
  | .ok (some p) =>
    match settle db (run db params p) with
    | (db', .error e) => (db', .error (ClientError.ofEngine sql e))
    | (db', .ok r) => if r.rows.isEmpty then (db', .ok r.changes) else (db, .error .returnedRows)

/-- Runs one statement for its rows, with parameters; gives the database it leaves, the
result's column names and its rows. -/
def query (db : Database) (sql : String) (params : List Value) :
    Database × Except ClientError (List String × List (List Value)) :=
  match singleStatement sql with
  | .error e => (db, .error e)
  | .ok none => (db, .ok ([], []))
  | .ok (some p) =>
    match settle db (run db params p) with
    | (db', .error e) => (db', .error (ClientError.ofEngine sql e))
    | (db', .ok r) => (db', .ok (r.columns, r.rows))

def Value.className : Value → String
  | .null => "Null"
  | .int _ => "Integer"
  | .real _ => "Real"
  | .text _ => "Text"
  | .blob _ => "Blob"

/-- A result row with its column names, read by position. -/
structure ResultRow where
  columns : List String
  values : List Value
  deriving Inhabited

namespace ResultRow

def cell (r : ResultRow) (i : Nat) : Value := (r.values[i]?).getD .null

def columnName (r : ResultRow) (i : Nat) : String := (r.columns[i]?).getD ""

def text (r : ResultRow) (i : Nat) : Except ClientError String :=
  match r.cell i with
  | .text s => .ok s
  | v => .error (.columnType i (r.columnName i) v.className)

def optionalText (r : ResultRow) (i : Nat) : Except ClientError (Option String) :=
  match r.cell i with
  | .null => .ok none
  | .text s => .ok (some s)
  | v => .error (.columnType i (r.columnName i) v.className)

def integer (r : ResultRow) (i : Nat) : Except ClientError Int :=
  match r.cell i with
  | .int n => .ok n
  | v => .error (.columnType i (r.columnName i) v.className)

end ResultRow

def queryRows (db : Database) (sql : String) (params : List Value) :
    Database × Except ClientError (List ResultRow) :=
  let (db', r) := query db sql params
  (db', r.map fun (columns, rows) => rows.map fun values => { columns, values })

end Sql

end KvStore

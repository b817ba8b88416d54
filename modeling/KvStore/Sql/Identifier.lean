import KvStore.Text.Quoted

namespace KvStore

namespace Sql

def splitOn (sep : Char) : List Char → List (List Char)
  | [] => [[]]
  | c :: rest =>
    if c = sep then [] :: splitOn sep rest
    else match splitOn sep rest with
      | [] => [[c]]
      | first :: more => (c :: first) :: more

def quoteIdentifier (ident : String) : String :=
  String.ofList ('"' :: (ident.toList.flatMap fun c => if c = '"' then ['"', '"'] else [c]) ++ ['"'])

def escapeIdentifier (ident : String) : String :=
  ".".intercalate ((splitOn '.' ident.toList).map fun seg => quoteIdentifier (String.ofList seg))

end Sql

/-- A table name, optionally inside a schema; an empty schema counts as none. -/
structure TableName where
  schema : Option String
  name : String
  deriving Repr, BEq, Inhabited

namespace TableName

def make (schema : Option String) (name : String) : TableName :=
  { schema := schema.filter (!·.isEmpty), name }

def qualified (t : TableName) : String :=
  ".".intercalate ((t.schema.toList ++ [t.name]).map Sql.quoteIdentifier)

def derivedRaw (t : TableName) (suffix : String) : String := t.name ++ "_" ++ suffix

def derived (t : TableName) (suffix : String) : String := Sql.quoteIdentifier (t.derivedRaw suffix)

def debugText (t : TableName) : String :=
  "TableName \x7b schema: " ++
    (match t.schema with | some x => "Some(" ++ Text.quoted x ++ ")" | none => "None") ++
    ", name: " ++ Text.quoted t.name ++ " \x7d"

end TableName

end KvStore

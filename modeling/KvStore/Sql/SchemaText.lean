import KvStore.Sql.Token

namespace KvStore

namespace Sql

def Token.isWord (t : Token) (w : String) : Bool :=
  match t.kind with
  | .word x => x.toUpper == w
  | _ => false

def Token.isOp (t : Token) (o : String) : Bool :=
  match t.kind with
  | .op x => x == o
  | _ => false

def textBetween (source : String) (start stop : Nat) : String :=
  (String.fromUTF8? (source.toUTF8.extract start stop)).getD ""

def createHeader : List Token → Option (String × List Token)
  | c :: rest =>
    if !c.isWord "CREATE" then none
    else
      let rest := rest.dropWhile fun t => t.isWord "TEMP" || t.isWord "TEMPORARY"
      match rest with
      | u :: i :: more =>
        if u.isWord "UNIQUE" && i.isWord "INDEX" then some ("UNIQUE INDEX", more)
        else if u.isWord "VIRTUAL" && i.isWord "TABLE" then some ("VIRTUAL TABLE", more)
        else if u.isWord "TABLE" then some ("TABLE", i :: more)
        else if u.isWord "INDEX" then some ("INDEX", i :: more)
        else if u.isWord "VIEW" then some ("VIEW", i :: more)
        else if u.isWord "TRIGGER" then some ("TRIGGER", i :: more)
        else none
      | _ => none
  | [] => none

/-- The name token of an object after its kind words: past `IF NOT EXISTS`, and the
second part of a qualified name. -/
def nameToken (ts : List Token) : Option Token :=
  let ts := match ts with
    | i :: n :: e :: more => if i.isWord "IF" && n.isWord "NOT" && e.isWord "EXISTS" then more else ts
    | _ => ts
  match ts with
  | first :: dot :: second :: _ => if dot.isOp "." then some second else some first
  | [first] | first :: _ => some first
  | [] => none

/-- The text the schema keeps for a `CREATE` statement whose tokens are `tokens`,
ending at byte `stop` of `source`; `none` for another statement. -/
def schemaText (source : String) (tokens : List Token) (stop : Nat) : Option String := do
  let (kind, rest) ← createHeader tokens
  let n ← nameToken rest
  pure ("CREATE " ++ kind ++ " " ++ textBetween source n.offset stop)

/-- A name as a rename writes it: in double quotes when the new name was quoted or
the name it replaces was. -/
def renamedName (old : Token) (newName : String) (quoted : Bool) : String :=
  let bare := match old.kind with
    | .word _ => true
    | _ => false
  if quoted || !bare then "\"" ++ newName.replace "\"" "\"\"" ++ "\"" else newName

def replaceToken (sql : String) (pick : List Token → Option Token) (replace : Token → String) : String :=
  match tokenize sql with
  | .ok ts =>
    match pick ts with
    | some t =>
      textBetween sql 0 t.offset ++ replace t ++
        textBetween sql (t.offset + t.text.utf8ByteSize) sql.utf8ByteSize
    | none => sql
  | .error _ => sql

def tokenAfterOn (ts : List Token) : Option Token :=
  match ts.dropWhile (!·.isWord "ON") with
  | _ :: t :: _ => some t
  | _ => none

def renameTableText (sql newName : String) (quoted : Bool) : String :=
  replaceToken sql (fun ts => (createHeader ts).bind fun (_, rest) => nameToken rest)
    (renamedName · newName quoted)

def renameTargetText (sql newName : String) (quoted : Bool) : String :=
  replaceToken sql tokenAfterOn (renamedName · newName quoted)

end Sql

end KvStore

import KvStore.Sql.SchemaText
import KvStore.Sql.Substitute
import KvStore.Text.Blank

namespace KvStore

namespace Sql

abbrev Parser := StateT (List Token) (ReaderT String (Except SqlError))

namespace Parser

def upper (s : String) : String := String.ofList (s.toList.map Char.toUpper)

def reserved : List String :=
  ["ALL", "AND", "AS", "ASC", "BETWEEN", "BY", "CASE", "CAST", "CHECK", "COLLATE",
    "CONSTRAINT", "CREATE", "CROSS", "DEFAULT", "DELETE", "DESC", "DISTINCT", "DROP", "ELSE",
    "END", "ESCAPE", "EXCEPT", "EXISTS", "FROM", "GLOB", "GROUP", "HAVING", "IN", "INDEX",
    "INNER", "INSERT", "INTERSECT", "INTO", "IS", "ISNULL", "JOIN", "LEFT", "LIKE", "LIMIT",
    "NATURAL", "NOT", "NOTNULL", "NULL", "OFFSET", "ON", "OR", "ORDER", "OUTER", "PRIMARY",
    "REFERENCES", "SELECT", "SET", "TABLE", "THEN", "TO", "UNION", "UNIQUE", "UPDATE",
    "USING", "VALUES", "WHEN", "WHERE"]

def peek : Parser (Option Token) := do
  pure (← get).head?

def peekSecond : Parser (Option Token) := do
  pure ((← get).drop 1).head?

def advance : Parser Unit := modify (·.drop 1)

def failHere {α : Type} : Parser α := do
  match ← peek with
  | some t => throw { message := "near \"" ++ t.text ++ "\": syntax error", offset := some t.offset }
  | none => throw { message := "incomplete input" }

def isWord (t : Token) (kw : String) : Bool :=
  match t.kind with
  | .word w => upper w == kw
  | _ => false

def isOp (t : Token) (o : String) : Bool :=
  match t.kind with
  | .op p => p == o
  | _ => false

def atWord (kw : String) : Parser Bool := do
  pure (((← peek).map (isWord · kw)).getD false)

def atOp (o : String) : Parser Bool := do
  pure (((← peek).map (isOp · o)).getD false)

def acceptWord (kw : String) : Parser Bool := do
  if ← atWord kw then
    advance
    pure true
  else pure false

def acceptOp (o : String) : Parser Bool := do
  if ← atOp o then
    advance
    pure true
  else pure false

def expectWord (kw : String) : Parser Unit := do
  unless ← acceptWord kw do failHere

def expectOp (o : String) : Parser Unit := do
  unless ← acceptOp o do failHere

def orFail {α : Type} : Except SqlError α → Parser α
  | .ok a => pure a
  | .error e => throw e

def tokenEnd (t : Token) : Nat := t.offset + t.text.utf8ByteSize

def span (start stop : Nat) : Parser String := do
  let src ← read
  pure ((String.fromUTF8? (src.toUTF8.extract start stop)).getD "")

def name : Parser String := do
  match ← peek with
  | some t =>
    match t.kind with
    | .word w => if reserved.contains (upper w) then failHere else do advance; pure w
    | .quoted s | .bracketed s | .str s => advance; pure s
    | _ => failHere
  | none => failHere

def objectName : Parser String := do
  let n ← name
  if ← acceptOp "." then name else pure n

def objectNameAt : Parser (String × Nat) := do
  let first := ((← peek).map (·.offset)).getD 0
  let n ← name
  if ← acceptOp "." then
    let second := ((← peek).map (·.offset)).getD 0
    pure (← name, second)
  else pure (n, first)

def ifNotExists : Parser Bool := do
  if ← atWord "IF" then
    advance
    expectWord "NOT"
    expectWord "EXISTS"
    pure true
  else pure false

def ifExists : Parser Bool := do
  if ← atWord "IF" then
    advance
    expectWord "EXISTS"
    pure true
  else pure false

def nameList : Parser (List String) := do
  expectOp "("
  let rec loop : Nat → List String → Parser (List String)
    | 0, acc => pure acc.reverse
    | n + 1, acc => do
      let x ← name
      if ← acceptWord "COLLATE" then discard name
      discard (acceptWord "ASC")
      discard (acceptWord "DESC")
      if ← acceptOp "," then loop n (x :: acc) else pure (x :: acc).reverse
  let xs ← loop 1000 []
  expectOp ")"
  pure xs

def skipBalanced : Nat → Nat → Parser Unit
  | 0, _ => pure ()
  | fuel + 1, depth => do
    match ← peek with
    | none => failHere
    | some t =>
      advance
      if isOp t "(" then skipBalanced fuel (depth + 1)
      else if isOp t ")" then
        if depth = 0 then pure () else skipBalanced fuel (depth - 1)
      else skipBalanced fuel depth

def chain (operand : Parser Expr) (op : Parser (Option (Expr → Expr → Expr))) :
    Nat → Expr → Parser Expr
  | 0, a => pure a
  | n + 1, a => do
    match ← op with
    | some combine =>
      let b ← operand
      chain operand op n (combine a b)
    | none => pure a

/-- Reads at most `n` items separated by commas. How many items a list holds does not
count against the nesting of the expressions in them. -/
def commaSeparated {α : Type} (item : Parser α) : Nat → Parser (List α)
  | 0 => failHere
  | n + 1 => do
    let x ← item
    if ← acceptOp "," then pure (x :: (← commaSeparated item n)) else pure [x]

def listLimit : Nat := 100000

def binaryOps (table : List (String × BinaryOp)) : Parser (Option (Expr → Expr → Expr)) := do
  match ← peek with
  | some t =>
    match table.find? (fun (o, _) => isOp t o || isWord t o) with
    | some (_, b) =>
      advance
      pure (some (.binary b))
    | none => pure none
  | none => pure none

def typeName : Parser String := do
  let start := ((← peek).map (·.offset)).getD 0
  let stopWords := ["CONSTRAINT", "PRIMARY", "NOT", "NULL", "UNIQUE", "CHECK", "DEFAULT",
    "COLLATE", "REFERENCES", "GENERATED", "AS"]
  let rec words : Nat → Nat → Parser Nat
    | 0, stop => pure stop
    | n + 1, stop => do
      match ← peek with
      | some t =>
        match t.kind with
        | .word w =>
          if stopWords.contains (upper w) then pure stop
          else
            advance
            words n (tokenEnd t)
        | .quoted _ | .bracketed _ | .str _ => advance; words n (tokenEnd t)
        | _ => pure stop
      | none => pure stop
  let stop ← words 100 start
  if stop = start then return ""
  let stop ← if ← atOp "(" then do
      let before ← get
      advance
      skipBalanced 10000 0
      let after ← get
      let used := before.take (before.length - after.length)
      pure ((used.getLast?.map tokenEnd).getD stop)
    else pure stop
  span start stop

def columnAfterQualifier (qualifier : String) (offset : Nat) : Parser Expr := do
  match ← peek with
  | some t =>
    match t.kind with
    | .word w => advance; pure (.column (some qualifier) w false offset)
    | .quoted c | .bracketed c => advance; pure (.column (some qualifier) c false offset)
    | _ => failHere
  | none => failHere

def aliasName : Parser (Option String) := do
  if ← acceptWord "AS" then some <$> name
  else match ← peek with
    | some tok =>
      match tok.kind with
      | .word w => if reserved.contains (upper w) then pure none else some <$> name
      | .quoted _ | .bracketed _ => some <$> name
      | _ => pure none
    | none => pure none

/-- The join operator before a source, if one follows: whether it is a left join and
whether it is natural. -/
def joinOperator : Parser (Option (Bool × Bool)) := do
  if ← acceptOp "," then return some (false, false)
  let natural ← acceptWord "NATURAL"
  let left ← if ← acceptWord "LEFT" then
      discard (acceptWord "OUTER")
      pure true
    else
      discard (acceptWord "INNER")
      discard (acceptWord "CROSS")
      pure false
  if ← acceptWord "JOIN" then pure (some (left, natural))
  else if natural || left then failHere
  else pure none

mutual

def expr : Nat → Parser Expr
  | 0 => failHere
  | f + 1 => do
    let a ← andExpr f
    chain (andExpr f) (binaryOps [("OR", .or)]) 10000 a

def andExpr : Nat → Parser Expr
  | 0 => failHere
  | f + 1 => do
    let a ← notExpr f
    chain (notExpr f) (binaryOps [("AND", .and)]) 10000 a

def notExpr : Nat → Parser Expr
  | 0 => failHere
  | f + 1 => do
    if ← atWord "NOT" then
      advance
      pure (.unary .not (← notExpr f))
    else
      let a ← comparison f
      equalityRest f a

def equalityRest : Nat → Expr → Parser Expr
  | 0, a => pure a
  | f + 1, a => do
    let next ← peek
    let second ← peekSecond
    let negated := match next with
      | some t => isWord t "NOT" && (second.map fun s => isWord s "IN" || isWord s "LIKE" ||
          isWord s "GLOB" || isWord s "BETWEEN" || isWord s "NULL").getD false
      | none => false
    if negated then advance
    match ← peek with
    | none => pure a
    | some t =>
      if !negated && (isOp t "=" || isOp t "==") then
        advance
        equalityRest f (.binary .eq a (← comparison f))
      else if !negated && (isOp t "!=" || isOp t "<>") then
        advance
        equalityRest f (.binary .ne a (← comparison f))
      else if !negated && isWord t "IS" then
        advance
        let isNot ← acceptWord "NOT"
        if ← acceptWord "DISTINCT" then
          expectWord "FROM"
          equalityRest f (.binary (if isNot then .is else .isNot) a (← comparison f))
        else if ← acceptWord "NULL" then equalityRest f (.isNull a isNot)
        else equalityRest f (.binary (if isNot then .isNot else .is) a (← comparison f))
      else if !negated && (isWord t "ISNULL") then
        advance
        equalityRest f (.isNull a false)
      else if !negated && (isWord t "NOTNULL") then
        advance
        equalityRest f (.isNull a true)
      else if negated && isWord t "NULL" then
        advance
        equalityRest f (.isNull a true)
      else if isWord t "IN" then
        advance
        expectOp "("
        if (← atWord "SELECT") || (← atWord "VALUES") || (← atWord "WITH") then
          let q ← query f
          expectOp ")"
          equalityRest f (.inQuery a q negated)
        else if ← acceptOp ")" then equalityRest f (.inList a [] negated)
        else
          let items ← exprList f
          expectOp ")"
          equalityRest f (.inList a items negated)
      else if isWord t "LIKE" || isWord t "GLOB" then
        advance
        let pattern ← comparison f
        let escape ← if ← acceptWord "ESCAPE" then some <$> comparison f else pure none
        equalityRest f (.like a pattern escape (isWord t "GLOB") negated)
      else if isWord t "BETWEEN" then
        advance
        let low ← comparison f
        expectWord "AND"
        let high ← comparison f
        equalityRest f (.between a low high negated)
      else pure a

def comparison : Nat → Parser Expr
  | 0 => failHere
  | f + 1 => do
    let a ← bitwise f
    chain (bitwise f) (binaryOps [("<=", .le), (">=", .ge), ("<", .lt), (">", .gt)]) 10000 a

def bitwise : Nat → Parser Expr
  | 0 => failHere
  | f + 1 => do
    let a ← additive f
    chain (additive f) (binaryOps [("<<", .shl), (">>", .shr), ("&", .bitAnd), ("|", .bitOr)]) 10000 a

def additive : Nat → Parser Expr
  | 0 => failHere
  | f + 1 => do
    let a ← multiplicative f
    chain (multiplicative f) (binaryOps [("+", .add), ("-", .sub)]) 10000 a

def multiplicative : Nat → Parser Expr
  | 0 => failHere
  | f + 1 => do
    let a ← concatenation f
    chain (concatenation f) (binaryOps [("*", .mul), ("/", .div), ("%", .rem)]) 10000 a

def concatenation : Nat → Parser Expr
  | 0 => failHere
  | f + 1 => do
    let a ← unary f
    let op : Parser (Option (Expr → Expr → Expr)) := do
      if ← acceptOp "||" then pure (some (.binary .concat))
      else if ← acceptOp "->>" then pure (some fun x y => .call "->>" [x, y] false false)
      else if ← acceptOp "->" then pure (some fun x y => .call "->" [x, y] false false)
      else pure none
    chain (unary f) op 10000 a

def unary : Nat → Parser Expr
  | 0 => failHere
  | f + 1 => do
    if ← acceptOp "-" then pure (.unary .neg (← unary f))
    else if ← acceptOp "+" then pure (.unary .plus (← unary f))
    else if ← acceptOp "~" then pure (.unary .bitNot (← unary f))
    else
      let e ← primary f
      if ← acceptWord "COLLATE" then pure (.collate e (← name)) else pure e

def exprList : Nat → Parser (List Expr)
  | 0 => failHere
  | f + 1 => commaSeparated (expr f) listLimit

def primary : Nat → Parser Expr
  | 0 => failHere
  | f + 1 => do
    let some t ← peek | failHere
    match t.kind with
    | .int n =>
      advance
      pure (.lit (if n ≤ maxInt.toNat then .int n else .real (Binary64.ofNat n)))
    | .real x => advance; pure (.lit (.real x))
    | .str s => advance; pure (.lit (.text s))
    | .blob b => advance; pure (.lit (.blob b))
    | .param i => advance; pure (.param (i.getD 0))
    | .named _ => advance; pure (.param 0)
    | .op "(" =>
      advance
      if (← atWord "SELECT") || (← atWord "VALUES") || (← atWord "WITH") then
        let q ← query f
        expectOp ")"
        pure (.scalar q)
      else
        let e ← expr f
        expectOp ")"
        pure e
    | .quoted s =>
      advance
      if ← acceptOp "." then columnAfterQualifier s t.offset else pure (.column none s true t.offset)
    | .bracketed s =>
      advance
      if ← acceptOp "." then columnAfterQualifier s t.offset else pure (.column none s false t.offset)
    | .word w =>
      let kw := upper w
      if kw == "NULL" then
        advance
        pure (.lit .null)
      else if kw == "EXISTS" then
        advance
        expectOp "("
        let q ← query f
        expectOp ")"
        pure (.exists q)
      else if kw == "CASE" then
        advance
        let operand ← if ← atWord "WHEN" then pure none else some <$> expr f
        let arms ← whenArms f
        let otherwise ← if ← acceptWord "ELSE" then some <$> expr f else pure none
        expectWord "END"
        pure (.cases operand arms otherwise)
      else if kw == "CAST" then
        advance
        expectOp "("
        let e ← expr f
        expectWord "AS"
        let ty ← typeName
        expectOp ")"
        pure (.cast e ty)
      else if kw == "RAISE" then
        advance
        expectOp "("
        if ← acceptWord "IGNORE" then
          expectOp ")"
          pure (.raise .ignore "")
        else
          let action ← if ← acceptWord "ROLLBACK" then pure ConflictAction.rollback
            else if ← acceptWord "ABORT" then pure .abort
            else if ← acceptWord "FAIL" then pure .fail
            else failHere
          expectOp ","
          let message ← name
          expectOp ")"
          pure (.raise action message)
      else if kw == "CURRENT_DATE" || kw == "CURRENT_TIME" || kw == "CURRENT_TIMESTAMP" then
        advance
        pure (.call w.toLower [] false false)
      else if reserved.contains kw then failHere
      else
        advance
        if ← acceptOp "(" then
          if ← acceptOp "*" then
            expectOp ")"
            pure (.call w [] true false)
          else if ← acceptOp ")" then pure (.call w [] false false)
          else
            let distinct ← acceptWord "DISTINCT"
            let args ← exprList f
            expectOp ")"
            pure (.call w args false distinct)
        else if ← acceptOp "." then columnAfterQualifier w t.offset
        else pure (.column none w false t.offset)
    | _ => failHere

def whenArms : Nat → Parser (List (Expr × Expr))
  | 0 => failHere
  | f + 1 => do
    expectWord "WHEN"
    let c ← expr f
    expectWord "THEN"
    let r ← expr f
    if ← atWord "WHEN" then pure ((c, r) :: (← whenArms f)) else pure [(c, r)]

/-- A query: simple selects joined by compound operators, then ordering and limits,
after the tables of a `WITH` clause its references to them read. -/
def query : Nat → Parser Query
  | 0 => failHere
  | f + 1 => do
    if ← acceptWord "WITH" then
      discard (acceptWord "RECURSIVE")
      let tables ← commonTables f
      let q ← query f
      let g ← orFail (withSubstitution (2 * f + 2) tables)
      return q.mapSources g (2 * f + 2)
    let first ← selectCore f
    let rest ← compoundRest f
    let orderBy ← if ← acceptWord "ORDER" then
        expectWord "BY"
        orderTerms f
      else pure []
    let (limit, offset) ← if ← acceptWord "LIMIT" then do
        let l ← expr f
        if ← acceptWord "OFFSET" then pure (some l, some (← expr f))
        else if ← acceptOp "," then pure (some (← expr f), some l)
        else pure (some l, none)
      else pure (none, none)
    match first, rest with
    | .select d cs src w g h _ _ _, [] => pure (.select d cs src w g h orderBy limit offset)
    | q, [] =>
      if orderBy.isEmpty && limit.isNone then pure q
      else pure (.compound q [] orderBy limit offset)
    | q, rest => pure (.compound q rest orderBy limit offset)

def commonTables : Nat → Parser (List CommonTable)
  | 0 => failHere
  | f + 1 =>
    let table : Parser CommonTable := do
      let tableName ← name
      let columnNames ← if ← atOp "(" then nameList else pure []
      expectWord "AS"
      if ← acceptWord "NOT" then expectWord "MATERIALIZED" else discard (acceptWord "MATERIALIZED")
      expectOp "("
      let body ← query f
      expectOp ")"
      pure { name := tableName, columnNames, body }
    commaSeparated table listLimit

def compoundRest : Nat → Parser (List (String × Query))
  | 0 => pure []
  | f + 1 => do
    let op ← if ← acceptWord "UNION" then
        if ← acceptWord "ALL" then pure (some "UNION ALL") else pure (some "UNION")
      else if ← acceptWord "INTERSECT" then pure (some "INTERSECT")
      else if ← acceptWord "EXCEPT" then pure (some "EXCEPT")
      else pure none
    match op with
    | some o =>
      let q ← selectCore f
      pure ((o, q) :: (← compoundRest f))
    | none => pure []

def orderTerms : Nat → Parser (List (Expr × SortOrder))
  | 0 => failHere
  | f + 1 =>
    let term : Parser (Expr × SortOrder) := do
      let e ← expr f
      discard (acceptWord "ASC")
      let desc ← acceptWord "DESC"
      let nullsFirst ← if ← acceptWord "NULLS" then
          if ← acceptWord "FIRST" then pure true else do expectWord "LAST"; pure false
        else pure !desc
      pure (e, { descending := desc, nullsFirst })
    commaSeparated term listLimit

def selectCore : Nat → Parser Query
  | 0 => failHere
  | f + 1 => do
    if ← acceptWord "VALUES" then
      pure (.values (← valueRows f))
    else
      expectWord "SELECT"
      let distinct ← acceptWord "DISTINCT"
      discard (acceptWord "ALL")
      let columns ← resultColumns f
      let sources ← if ← acceptWord "FROM" then fromClause f else pure []
      let filter ← if ← acceptWord "WHERE" then some <$> expr f else pure none
      let groupBy ← if ← acceptWord "GROUP" then
          expectWord "BY"
          exprList f
        else pure []
      let having ← if ← acceptWord "HAVING" then some <$> expr f else pure none
      pure (.select distinct columns sources filter groupBy having [] none none)

def valueRows : Nat → Parser (List (List Expr))
  | 0 => failHere
  | f + 1 =>
    let row : Parser (List Expr) := do
      expectOp "("
      let row ← exprList f
      expectOp ")"
      pure row
    commaSeparated row listLimit

def resultColumns : Nat → Parser (List ResultColumn)
  | 0 => failHere
  | f + 1 => commaSeparated (resultColumn f) listLimit

def resultColumn : Nat → Parser ResultColumn
  | 0 => failHere
  | f + 1 => do
    if ← acceptOp "*" then return .star
    match ← peek, ← peekSecond with
    | some _, some dot =>
      if isOp dot "." then
        let third := ((← get).drop 2).head?
        if (third.map (isOp · "*")).getD false then
          let tableName ← name
          advance
          advance
          return .tableStar tableName
    | _, _ => pure ()
    let start := ((← peek).map (·.offset)).getD 0
    let before ← get
    let e ← expr f
    let after ← get
    let used := before.take (before.length - after.length)
    let stop := (used.getLast?.map tokenEnd).getD start
    let text ← span start stop
    let asName ← if ← acceptWord "AS" then some <$> name
      else match ← peek with
        | some t =>
          match t.kind with
          | .word w => if reserved.contains (upper w) then pure none else some <$> name
          | .quoted _ | .bracketed _ | .str _ => some <$> name
          | _ => pure none
        | none => pure none
    pure (.expr e asName text)

def fromItem : Nat → JoinSpec → Parser FromItem
  | 0, _ => failHere
  | f + 1, spec => do
    if ← acceptOp "(" then
      let q ← query f
      expectOp ")"
      pure (.query q (← aliasName) [] spec)
    else
      let t ← objectName
      pure (.table t (← aliasName) spec)

def fromClause : Nat → Parser (List FromItem)
  | 0 => failHere
  | f + 1 => do
    let first ← fromItem f JoinSpec.cross
    pure (first :: (← joinedItems f))

/-- The sources after the first of a `FROM` clause, each after its join operator and
followed by its `ON` or `USING` constraint. -/
def joinedItems : Nat → Parser (List FromItem)
  | 0 => pure []
  | f + 1 => do
    match ← joinOperator with
    | none => pure []
    | some (left, natural) =>
      let item ← fromItem f JoinSpec.cross
      let spec ← if ← acceptWord "ON" then pure (JoinSpec.join left natural (some (← expr f)) [])
        else if ← acceptWord "USING" then pure (JoinSpec.join left natural none (← nameList))
        else pure (JoinSpec.join left natural none [])
      let item := match item with
        | .table t a _ => FromItem.table t a spec
        | .query q a cs _ => .query q a cs spec
        | .working w a cs _ => .working w a cs spec
      pure (item :: (← joinedItems f))

end

def conflictClause : Parser (Option ConflictAction) := do
  if ← acceptWord "ON" then
    expectWord "CONFLICT"
    if ← acceptWord "ROLLBACK" then pure (some .rollback)
    else if ← acceptWord "ABORT" then pure (some .abort)
    else if ← acceptWord "FAIL" then pure (some .fail)
    else if ← acceptWord "IGNORE" then pure (some .ignore)
    else if ← acceptWord "REPLACE" then pure (some .replace)
    else failHere
  else pure none

def parenthesized (fuel : Nat) : Parser (String × Expr) := do
  expectOp "("
  let start := ((← peek).map (·.offset)).getD 0
  let before ← get
  let e ← expr fuel
  let after ← get
  let used := before.take (before.length - after.length)
  let stop := (used.getLast?.map tokenEnd).getD start
  expectOp ")"
  pure (← span start stop, e)

def foreignAction : Parser ForeignAction := do
  if ← acceptWord "SET" then
    if ← acceptWord "NULL" then pure .setNull
    else
      expectWord "DEFAULT"
      pure .setDefault
  else if ← acceptWord "CASCADE" then pure .cascade
  else if ← acceptWord "RESTRICT" then pure .restrict
  else
    expectWord "NO"
    expectWord "ACTION"
    pure .noAction

def referenceClause : Parser ForeignKeySpec := do
  let parent ← name
  let parentColumns ← if ← atOp "(" then nameList else pure []
  let rec clauses : Nat → ForeignKeySpec → Parser ForeignKeySpec
    | 0, spec => pure spec
    | n + 1, spec => do
      if ← acceptWord "ON" then
        if ← acceptWord "DELETE" then clauses n { spec with onDelete := ← foreignAction }
        else
          expectWord "UPDATE"
          clauses n { spec with onUpdate := ← foreignAction }
      else if ← acceptWord "MATCH" then
        discard name
        clauses n spec
      else if (← atWord "DEFERRABLE") ||
          ((← atWord "NOT") && (((← peekSecond).map (isWord · "DEFERRABLE")).getD false)) then
        discard (acceptWord "NOT")
        expectWord "DEFERRABLE"
        if ← acceptWord "INITIALLY" then discard name
        clauses n spec
      else pure spec
  clauses 100 { parent, parentColumns }

def columnSpec (fuel : Nat) : Parser ColumnSpec := do
  let colName ← name
  let declType ← typeName
  let rec constraints : Nat → Option String → ColumnSpec → Parser ColumnSpec
    | 0, _, c => pure c
    | n + 1, named, c => do
      if ← acceptWord "CONSTRAINT" then
        constraints n (some (← name)) c
      else if ← acceptWord "PRIMARY" then
        expectWord "KEY"
        discard (acceptWord "ASC")
        let desc ← acceptWord "DESC"
        let action ← conflictClause
        discard (acceptWord "AUTOINCREMENT")
        constraints n none { c with primaryKey := true, descending := desc, primaryKeyAction := action }
      else if ← acceptWord "NOT" then
        expectWord "NULL"
        let action ← conflictClause
        constraints n none { c with notNull := true, notNullAction := action }
      else if ← acceptWord "NULL" then
        discard conflictClause
        constraints n none c
      else if ← acceptWord "UNIQUE" then
        let action ← conflictClause
        constraints n none { c with unique := true, uniqueAction := action }
      else if ← acceptWord "CHECK" then
        let (text, condition) ← parenthesized fuel
        constraints n none { c with checks := c.checks ++ [{ name := named, text, condition }] }
      else if ← acceptWord "DEFAULT" then
        let start := ((← peek).map (·.offset)).getD 0
        let before ← get
        let bareWord := match ← peek with
          | some { kind := .word w, .. } =>
            let kw := upper w
            if reserved.contains kw || kw.startsWith "CURRENT_" then none else some w
          | _ => none
        let e ← if ← atOp "(" then do
            advance
            let e ← expr fuel
            expectOp ")"
            pure e
          else match bareWord with
            -- a bare name is the text it spells, or a truth value
            | some w =>
              advance
              pure (match upper w with
                | "TRUE" => .lit (.int 1)
                | "FALSE" => .lit (.int 0)
                | _ => .lit (.text w))
            | none => unary fuel
        let after ← get
        let used := before.take (before.length - after.length)
        let stop := (used.getLast?.map tokenEnd).getD start
        constraints n none { c with default := some (← span start stop, e) }
      else if ← acceptWord "COLLATE" then
        constraints n none { c with collation := some (← name) }
      else if ← acceptWord "REFERENCES" then
        constraints n none { c with references := some (← referenceClause) }
      else if (← atWord "GENERATED") || (← atWord "AS") then
        if ← acceptWord "GENERATED" then expectWord "ALWAYS"
        expectWord "AS"
        let (_, e) ← parenthesized fuel
        let stored ← acceptWord "STORED"
        if !stored then discard (acceptWord "VIRTUAL")
        constraints n none { c with generated := some (e, stored) }
      else pure c
  constraints 100 none { name := colName, declType }

def tableConstraint (fuel : Nat) : Parser (Option TableConstraint) := do
  let named ← if ← acceptWord "CONSTRAINT" then some <$> name else pure none
  if ← acceptWord "PRIMARY" then
    expectWord "KEY"
    let cols ← nameList
    pure (some (.primaryKey cols (← conflictClause)))
  else if ← acceptWord "UNIQUE" then
    let cols ← nameList
    pure (some (.unique cols (← conflictClause)))
  else if ← acceptWord "CHECK" then
    let (text, condition) ← parenthesized fuel
    pure (some (.check { name := named, text, condition }))
  else if ← acceptWord "FOREIGN" then
    expectWord "KEY"
    let cols ← nameList
    expectWord "REFERENCES"
    pure (some (.foreignKey cols (← referenceClause)))
  else pure none

def assignments (fuel : Nat) : Nat → Parser (List (String × Expr))
  | 0 => failHere
  | n + 1 => do
    let col ← name
    expectOp "="
    let e ← expr fuel
    if ← acceptOp "," then pure ((col, e) :: (← assignments fuel n)) else pure [(col, e)]

def conflictAction : Parser (Option ConflictAction) := do
  if ← acceptWord "OR" then
    if ← acceptWord "IGNORE" then pure (some .ignore)
    else if ← acceptWord "REPLACE" then pure (some .replace)
    else if ← acceptWord "ABORT" then pure (some .abort)
    else if ← acceptWord "FAIL" then pure (some .fail)
    else if ← acceptWord "ROLLBACK" then pure (some .rollback)
    else failHere
  else pure none

def statementAlias : Parser (Option String) := do
  if ← acceptWord "AS" then some <$> name else pure none

def upsertClause (fuel : Nat) : Parser (Option Upsert) := do
  if ← acceptWord "ON" then
    expectWord "CONFLICT"
    let target ← if ← atOp "(" then nameList else pure []
    expectWord "DO"
    if ← acceptWord "NOTHING" then pure (some { target, update := none })
    else
      expectWord "UPDATE"
      expectWord "SET"
      let sets ← assignments fuel 1000
      let cond ← if ← acceptWord "WHERE" then some <$> expr fuel else pure none
      pure (some { target, update := some (sets, cond) })
  else pure none

def insertStatement (fuel : Nat) (action : Option ConflictAction) : Parser Statement := do
  expectWord "INTO"
  let table ← objectName
  let asName ← statementAlias
  let columns ← if ← atOp "(" then some <$> nameList else pure none
  let source ← if ← acceptWord "DEFAULT" then
      expectWord "VALUES"
      pure InsertSource.defaults
    else if ← atWord "VALUES" then
      match ← query fuel with
      | .values rows => pure (.rows rows)
      | q => pure (.query q)
    else .query <$> query fuel
  let upsert ← upsertClause fuel
  pure (.insert table asName columns source action upsert)

def updateStatement (fuel : Nat) : Parser Statement := do
  let action ← conflictAction
  let table ← objectName
  let asName ← statementAlias
  expectWord "SET"
  let sets ← assignments fuel 1000
  let filter ← if ← acceptWord "WHERE" then some <$> expr fuel else pure none
  pure (.update table asName action sets filter)

def deleteStatement (fuel : Nat) : Parser Statement := do
  expectWord "FROM"
  let table ← objectName
  let asName ← statementAlias
  let filter ← if ← acceptWord "WHERE" then some <$> expr fuel else pure none
  pure (.delete table asName filter)

def triggerStep (fuel : Nat) : Parser Statement := do
  let some t ← peek | failHere
  if isWord t "SELECT" || isWord t "VALUES" then pure (.query (← query fuel))
  else if isWord t "INSERT" then
    advance
    insertStatement fuel (← conflictAction)
  else if isWord t "REPLACE" then
    advance
    insertStatement fuel (some .replace)
  else if isWord t "UPDATE" then
    advance
    updateStatement fuel
  else if isWord t "DELETE" then
    advance
    deleteStatement fuel
  else failHere

def triggerSteps (fuel : Nat) : Nat → List Statement → Parser (List Statement)
  | 0, acc => pure acc.reverse
  | n + 1, acc => do
    if ← acceptWord "END" then
      if acc.isEmpty then failHere
      pure acc.reverse
    else
      let s ← triggerStep fuel
      expectOp ";"
      triggerSteps fuel n (s :: acc)

def moduleArgs : Parser (List String) := do
  if !(← acceptOp "(") then return []
  let rec loop : Nat → Nat → Nat → List String → Parser (List String)
    | 0, _, _, acc => pure acc.reverse
    | n + 1, depth, start, acc => do
      match ← peek with
      | none => failHere
      | some t =>
        if depth = 0 && (isOp t "," || isOp t ")") then
          let text ← span start t.offset
          advance
          let acc := if (Text.trim text).isEmpty then acc else Text.trim text :: acc
          if isOp t ")" then pure acc.reverse
          else loop n 0 ((← peek).map (·.offset) |>.getD t.offset) acc
        else
          advance
          if isOp t "(" then loop n (depth + 1) start acc
          else if isOp t ")" then loop n (depth - 1) start acc
          else loop n depth start acc
  let start := ((← peek).map (·.offset)).getD 0
  loop 10000 0 start []

def createStatement (fuel : Nat) : Parser Statement := do
  discard (acceptWord "TEMP")
  discard (acceptWord "TEMPORARY")
  let unique ← acceptWord "UNIQUE"
  if ← acceptWord "TABLE" then
    let ine ← ifNotExists
    let (tableName, nameAt) ← objectNameAt
    if ← acceptWord "AS" then
      let q ← query fuel
      return .createTable tableName nameAt ine [] [] false false (some q)
    expectOp "("
    let rec items : Nat → List ColumnSpec → List TableConstraint →
        Parser (List ColumnSpec × List TableConstraint)
      | 0, cs, ts => pure (cs.reverse, ts.reverse)
      | n + 1, cs, ts => do
        match ← tableConstraint fuel with
        | some t =>
          if ← acceptOp "," then items n cs (t :: ts) else pure (cs.reverse, (t :: ts).reverse)
        | none =>
          if !ts.isEmpty then failHere
          let c ← columnSpec fuel
          if ← acceptOp "," then items n (c :: cs) ts else pure ((c :: cs).reverse, ts.reverse)
    let (columns, constraints) ← items 10000 [] []
    expectOp ")"
    let rec options : Nat → Bool → Bool → Parser (Bool × Bool)
      | 0, w, s => pure (w, s)
      | n + 1, w, s => do
        if ← acceptWord "WITHOUT" then
          expectWord "ROWID"
          if ← acceptOp "," then options n true s else pure (true, s)
        else if ← acceptWord "STRICT" then
          if ← acceptOp "," then options n w true else pure (w, true)
        else pure (w, s)
    let (withoutRowid, strict) ← options 10 false false
    pure (.createTable tableName nameAt ine columns constraints withoutRowid strict none)
  else if ← acceptWord "INDEX" then
    let ine ← ifNotExists
    let indexName ← objectName
    expectWord "ON"
    let table ← name
    expectOp "("
    let rec terms : Nat → Parser (List Expr)
      | 0 => pure []
      | n + 1 => do
        let e ← expr fuel
        discard (acceptWord "ASC")
        discard (acceptWord "DESC")
        if ← acceptOp "," then pure (e :: (← terms n)) else pure [e]
    let ts ← terms 1000
    expectOp ")"
    let filter ← if ← acceptWord "WHERE" then some <$> expr fuel else pure none
    pure (.createIndex indexName table unique ine ts filter)
  else if unique then failHere
  else if ← acceptWord "VIEW" then
    let ine ← ifNotExists
    let (viewName, nameAt) ← objectNameAt
    let names ← if ← atOp "(" then nameList else pure []
    expectWord "AS"
    let q ← query fuel
    -- a view's own column names rename the columns of its query
    let q := if names.isEmpty then q
      else .select false [.star] [.query q (some viewName) names .cross] none [] none [] none none
    pure (.createView viewName nameAt ine q)
  else if ← acceptWord "TRIGGER" then
    let ine ← ifNotExists
    let (triggerName, nameAt) ← objectNameAt
    let timing ← if ← acceptWord "BEFORE" then pure TriggerTiming.before
      else if ← acceptWord "AFTER" then pure .after
      else if ← acceptWord "INSTEAD" then
        expectWord "OF"
        pure .insteadOf
      else pure .before
    let event ← if ← acceptWord "INSERT" then pure TriggerEvent.insert
      else if ← acceptWord "DELETE" then pure .delete
      else if ← acceptWord "UPDATE" then
        if ← acceptWord "OF" then
          let rec names : Nat → Parser (List String)
            | 0 => pure []
            | n + 1 => do
              let x ← name
              if ← acceptOp "," then pure (x :: (← names n)) else pure [x]
          pure (.update (← names 1000))
        else pure (.update [])
      else failHere
    expectWord "ON"
    let table ← objectName
    if ← acceptWord "FOR" then
      expectWord "EACH"
      expectWord "ROW"
    let condition ← if ← acceptWord "WHEN" then some <$> expr fuel else pure none
    expectWord "BEGIN"
    let body ← triggerSteps fuel 10000 []
    pure (.createTrigger triggerName nameAt ine timing event table condition body)
  else if ← acceptWord "VIRTUAL" then
    expectWord "TABLE"
    let ine ← ifNotExists
    let tableName ← objectName
    expectWord "USING"
    let moduleName ← name
    let args ← moduleArgs
    pure (.createVirtual tableName moduleName args ine)
  else failHere

def withStatement (fuel : Nat) : Parser Statement := do
  discard (acceptWord "RECURSIVE")
  let tables ← commonTables fuel
  let some t ← peek | failHere
  let inner ← if isWord t "SELECT" || isWord t "VALUES" then pure (Statement.query (← query fuel))
    else if isWord t "INSERT" then do
      advance
      insertStatement fuel (← conflictAction)
    else if isWord t "REPLACE" then do
      advance
      insertStatement fuel (some .replace)
    else if isWord t "UPDATE" then do
      advance
      updateStatement fuel
    else if isWord t "DELETE" then do
      advance
      deleteStatement fuel
    else failHere
  let g ← orFail (withSubstitution (2 * fuel + 2) tables)
  pure (inner.mapSources g (2 * fuel + 2))

def statement (fuel : Nat) : Parser Statement := do
  let some t ← peek | failHere
  if isWord t "SELECT" || isWord t "VALUES" then
    pure (.query (← query fuel))
  else if isWord t "WITH" then
    advance
    withStatement fuel
  else if isWord t "CREATE" then
    advance
    createStatement fuel
  else if isWord t "DROP" then
    advance
    let kind ← if ← acceptWord "TABLE" then pure ObjectKind.table
      else if ← acceptWord "INDEX" then pure .index
      else if ← acceptWord "VIEW" then pure .view
      else if ← acceptWord "TRIGGER" then pure .trigger
      else failHere
    let ie ← ifExists
    pure (.drop kind (← objectName) ie)
  else if isWord t "ALTER" then
    advance
    expectWord "TABLE"
    let table ← objectName
    if ← acceptWord "ADD" then
      discard (acceptWord "COLUMN")
      pure (.addColumn table (← columnSpec fuel))
    else if ← acceptWord "RENAME" then
      if ← acceptWord "TO" then
        let quoted := match ← peek with
          | some t => match t.kind with
            | .word _ => false
            | _ => true
          | none => false
        pure (.renameTable table (← name) quoted)
      else
        discard (acceptWord "COLUMN")
        let old ← name
        expectWord "TO"
        pure (.renameColumn table old (← name))
    else failHere
  else if isWord t "INSERT" then
    advance
    insertStatement fuel (← conflictAction)
  else if isWord t "REPLACE" then
    advance
    insertStatement fuel (some .replace)
  else if isWord t "UPDATE" then
    advance
    updateStatement fuel
  else if isWord t "DELETE" then
    advance
    deleteStatement fuel
  else if isWord t "PRAGMA" then
    advance
    let pragmaName ← objectName
    let readArg : Parser PragmaArg := do
      let some a ← peek | failHere
      match a.kind with
      | .word w | .quoted w | .bracketed w | .str w => advance; pure (.name w)
      | .int n => advance; pure (.number (.int n))
      | .op "-" =>
        advance
        let some b ← peek | failHere
        match b.kind with
        | .int n => advance; pure (.number (.int (-(n : Int))))
        | _ => failHere
      | _ => failHere
    if ← acceptOp "=" then pure (.pragma pragmaName (some (← readArg)))
    else if ← acceptOp "(" then
      let a ← readArg
      expectOp ")"
      pure (.pragma pragmaName (some a))
    else pure (.pragma pragmaName none)
  else if isWord t "BEGIN" then
    advance
    discard (acceptWord "DEFERRED")
    discard (acceptWord "IMMEDIATE")
    discard (acceptWord "EXCLUSIVE")
    discard (acceptWord "TRANSACTION")
    pure .begin
  else if isWord t "COMMIT" || isWord t "END" then
    advance
    discard (acceptWord "TRANSACTION")
    pure .commit
  else if isWord t "ROLLBACK" then
    advance
    discard (acceptWord "TRANSACTION")
    pure .rollback
  else failHere

end Parser

/-- The next statement of a script and the tokens after it; `none` when only
separators are left. The statement's text runs from its first to its last token. -/
def nextStatement (source : String) (tokens : List Token) :
    Except SqlError (Option (Parsed × List Token)) :=
  let tokens := tokens.dropWhile (Parser.isOp · ";")
  match tokens with
  | [] => .ok none
  | first :: _ =>
    let run : Parser Statement := do
      let s ← Parser.statement 200
      match ← Parser.peek with
      | none => pure s
      | some t => if Parser.isOp t ";" then pure s else Parser.failHere
    match (run.run tokens).run source with
    | .error e => .error e
    | .ok (stmt, rest) =>
      let used := tokens.take (tokens.length - rest.length)
      let stop := (used.getLast?.map Parser.tokenEnd).getD first.offset
      let text := (schemaText source used stop).getD (textBetween source first.offset stop)
      .ok (some ({ statement := stmt, text }, rest))

end Sql

end KvStore

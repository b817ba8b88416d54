import KvStore.Sql.JsonDoc
import KvStore.Sql.Function

namespace KvStore

namespace Sql

/-- A function argument, with whether it is JSON text a JSON function produced. -/
structure JsonArg where
  value : Value
  isJson : Bool := false

def jsonFunctionNames : List String :=
  ["json", "json_valid", "json_extract", "->", "->>", "json_type", "json_array_length",
    "json_error_position", "json_quote", "json_array", "json_object", "json_insert",
    "json_replace", "json_set", "json_remove", "json_patch"]

def jsonResultNames : List String :=
  ["json", "json_quote", "json_array", "json_object", "json_insert", "json_replace", "json_set",
    "json_remove", "json_patch", "->", "json_group_array", "json_group_object"]

def isJsonFunction (name : String) : Bool := jsonFunctionNames.contains (nameKey name)

/-- Whether an argument's value is JSON text: the result of a function that gives JSON,
or an array or object `json_extract` gave. -/
def Expr.yieldsJson (e : Expr) (v : Value) : Bool :=
  match e with
  | .call name _ _ _ =>
    jsonResultNames.contains (nameKey name) ||
      (nameKey name == "json_extract" &&
        match v with
        | .text s => s.startsWith "[" || s.startsWith "\x7b"
        | _ => false)
  | _ => false

def malformedJson : SqlError := { message := "malformed JSON" }

def badJsonPath (path : String) : SqlError :=
  { message := "bad JSON path: '" ++ path.replace "'" "''" ++ "'" }

def argDocument (v : Value) : Except SqlError (Option JsonNode) :=
  match v with
  | .null => .ok none
  | .blob _ => .error malformedJson
  | v =>
    match readJson (v.asText?.getD "") with
    | .ok (n, _) => .ok (some n)
    | .error _ => .error malformedJson

def argNode (a : JsonArg) : Except SqlError JsonNode :=
  match a.value with
  | .null => .ok .null
  | .int i => .ok (.number (toString i) true)
  | .real x =>
    if x.isNaN then .ok .null
    else if !x.isFinite then .ok (.number (if x.negative then "-9e999" else "9e999") false)
    else .ok (.number (Value.realText x) false)
  | .text s =>
    if a.isJson then
      match readJson s with
      | .ok (n, _) => .ok n
      | .error _ => .error malformedJson
    else .ok (.string (escapeJson s))
  | .blob _ => .error { message := "JSON cannot hold BLOB values" }

/-- The path text a `->` or `->>` operator reads: a full path as it is, a number as an
index, a name as a label. -/
def abbreviatedPath (v : Value) : Option String :=
  match v with
  | .null => none
  | .int i => some (if i < 0 then "$[#" ++ toString i ++ "]" else "$[" ++ toString i ++ "]")
  | v =>
    let p := v.asText?.getD ""
    match p.toList with
    | '$' :: rest =>
      match rest with
      | [] | '.' :: _ | '[' :: _ => some p
      | _ => some ("$.\"" ++ p ++ "\"")
    | cs =>
      if !cs.isEmpty && cs.all (fun c => c.isAlphanum || c == '_') then some ("$." ++ p)
      else if cs.head? == some '[' && cs.length ≥ 3 && cs.getLast? == some ']' then some ("$" ++ p)
      else some ("$.\"" ++ p ++ "\"")

def findPath (doc : JsonNode) (path : String) : Except SqlError Found :=
  match path.toList with
  | '$' :: rest =>
    match lookupPath (rest.length + 1) doc rest with
    | .badPath => .error (badJsonPath path)
    | found => .ok found
  | _ => .error (badJsonPath path)

def editWith (name : String) (mode : Option EditMode) (doc : JsonNode) (path : String) (new : JsonNode) :
    Except SqlError (Option JsonNode) :=
  match path.toList with
  | '$' :: rest =>
    let fuel := rest.length + 2
    match mode with
    | some m =>
      match editPath m new fuel doc rest with
      | some d => .ok (some d)
      | none => .error (badJsonPath path)
    | none =>
      if rest.isEmpty then .ok none
      else match removePath fuel doc rest with
        | some d => .ok (some d)
        | none => .error (badJsonPath path)
  | _ => let _ := name; .error (badJsonPath path)

def validFlags (args : List JsonArg) : Except SqlError Int :=
  let failure : SqlError := { message := "FLAGS parameter to json_valid() must be between 1 and 15" }
  match args[1]? with
  | none => .ok 1
  | some a =>
    match a.value.toNumber with
    | .int f => if 1 ≤ f && f ≤ 15 then .ok f else .error failure
    | _ => .error failure

def argText (v : Value) : String := v.asText?.getD ""

def jsonCall (name : String) (args : List JsonArg) : Except SqlError Value := do
  let value (i : Nat) : Value := ((args[i]?).map (·.value)).getD .null
  let key := nameKey name
  match key with
  | "json" =>
    match ← argDocument (value 0) with
    | some d => pure (.text d.render)
    | none => pure .null
  | "json_valid" =>
    let flags ← validFlags args
    match value 0 with
    | .null => pure .null
    | .blob _ => pure (.int 0)
    | v =>
      match readJson (argText v) with
      | .ok (_, extended) =>
        let ok := if extended then flags % 4 / 2 == 1 else flags % 4 != 0
        pure (.int (if ok then 1 else 0))
      | .error _ => pure (.int 0)
  | "json_error_position" =>
    match value 0 with
    | .null => pure .null
    | v =>
      match readJson (argText v) with
      | .ok _ => pure (.int 0)
      | .error at_ => pure (.int (at_ + 1))
  | "json_extract" | "->" | "->>" =>
    let some doc ← argDocument (value 0) | pure .null
    let paths := args.drop 1
    if key != "json_extract" then
      let some path := abbreviatedPath (value 1) | pure .null
      match ← findPath doc path with
      | .value v => pure (if key == "->" then .text v.render else v.toValue)
      | _ => pure .null
    else if paths.length == 1 then
      match value 1 with
      | .null => pure .null
      | p =>
        match ← findPath doc (argText p) with
        | .value v => pure v.toValue
        | _ => pure .null
    else
      let mut found : List JsonNode := []
      for p in paths do
        match p.value with
        | .null => return .null
        | pv =>
          match ← findPath doc (argText pv) with
          | .value v => found := found ++ [v]
          | _ => found := found ++ [.null]
      pure (.text (JsonNode.array found).render)
  | "json_type" | "json_array_length" =>
    let some doc ← argDocument (value 0) | pure .null
    let found ← if args.length ≥ 2 then
        match value 1 with
        | .null => pure Found.missing
        | p => findPath doc (argText p)
      else pure (.value doc)
    match found with
    | .value v =>
      if key == "json_type" then pure (.text v.typeName)
      else match v with
        | .array items => pure (.int items.length)
        | _ => pure (.int 0)
    | _ => pure .null
  | "json_quote" => pure (.text (← argNode ((args.head?).getD {value := .null})).render)
  | "json_array" => pure (.text (JsonNode.array (← args.mapM argNode)).render)
  | "json_object" =>
    if args.length % 2 != 0 then throw { message := "json_object() requires an even number of arguments" }
    let mut members : List (String × JsonNode) := []
    let mut rest := args
    for _ in args do
      match rest with
      | k :: v :: more =>
        match k.value with
        | .text s => members := members ++ [(escapeJson s, ← argNode v)]
        | _ => throw { message := "json_object() labels must be TEXT" }
        rest := more
      | _ => pure ()
    pure (.text (JsonNode.object members).render)
  | "json_insert" | "json_replace" | "json_set" =>
    if args.length % 2 == 0 then
      throw { message := "json_" ++ (key.drop 5).toString ++ "() needs an odd number of arguments" }
    let some doc ← argDocument (value 0) | pure .null
    let mode : EditMode := if key == "json_insert" then .insert else if key == "json_replace" then .replace else .set
    let mut current := doc
    let mut rest := args.drop 1
    for _ in args do
      match rest with
      | p :: v :: more =>
        match p.value with
        | .null => return .null
        | pv =>
          match ← editWith key (some mode) current (argText pv) (← argNode v) with
          | some d => current := d
          | none => pure ()
        rest := more
      | _ => pure ()
    pure (.text current.render)
  | "json_remove" =>
    let some doc ← argDocument (value 0) | pure .null
    let mut current : Option JsonNode := some doc
    for p in args.drop 1 do
      match p.value, current with
      | .null, _ => return .null
      | pv, some d => current ← editWith key none d (argText pv) .null
      | _, none => pure ()
    match current with
    | some d => pure (.text d.render)
    | none => pure .null
  | "json_patch" =>
    let some target ← argDocument (value 0) | pure .null
    let some patch ← argDocument (value 1) | pure .null
    pure (.text (mergePatch (target.render.length + patch.render.length + 2) target patch).render)
  | _ => throw { message := "no such function: " ++ name }

def jsonAggregate (name : String) (rows : List (List JsonArg)) : Except SqlError Value := do
  if nameKey name == "json_group_array" then
    let items ← rows.mapM fun r => argNode ((r.head?).getD {value := .null})
    pure (.text (JsonNode.array items).render)
  else
    let mut members : List (String × JsonNode) := []
    for r in rows do
      match r with
      | k :: v :: _ =>
        match k.value with
        | .null => pure ()
        | kv => members := members ++ [(escapeJson (argText kv), ← argNode v)]
      | _ => pure ()
    pure (.text (JsonNode.object members).render)

end Sql

end KvStore

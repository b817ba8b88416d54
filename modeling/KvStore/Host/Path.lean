namespace KvStore

abbrev Path := List String

namespace PathText

def isAbsolute (p : String) : Bool := p.startsWith "/"

def join (base p : String) : String :=
  if isAbsolute p then p
  else if base.isEmpty then p
  else if base.endsWith "/" then base ++ p
  else base ++ "/" ++ p

def components (p : String) : List String :=
  (((p.toList.splitOn '/').map String.ofList).filter fun c => !c.isEmpty && c != ".")

def resolve (cwd : Path) (p : String) : Path :=
  let start := if isAbsolute p then [] else cwd
  ((components p).foldl (fun acc c => if c == ".." then acc.dropLast else acc ++ [c]) start)

def parent? (p : String) : Option String :=
  let cs := p.toList
  -- trailing separators do not count
  let trimmed := (cs.reverse.dropWhile (· == '/')).reverse
  if trimmed.isEmpty then none
  else
    let rest := (trimmed.reverse.dropWhile (· != '/')).reverse
    if rest.isEmpty then some ""
    else
      let withoutSep := (rest.reverse.dropWhile (· == '/')).reverse
      if withoutSep.isEmpty then some "/" else some (String.ofList withoutSep)

def fileName (p : String) : String :=
  match (components p).getLast? with
  | some c => c
  | none => ""

end PathText

def Path.text (p : Path) : String := "/" ++ "/".intercalate p

end KvStore

import KvStore.Cli.Usage

namespace KvStore

namespace Cli

def termWidth : Nat := 100

def blanks (n : Nat) : String := String.ofList (List.replicate n ' ')

def indentLines (text : String) (n : Nat) : String := text.replace "\n" ("\n" ++ blanks n)

def describesValues (a : ArgSpec) (long : Bool) : Bool :=
  long && a.possibleValues.any (!·.help.isEmpty)

def factsOf (a : ArgSpec) (long : Bool) : String :=
  let env := match a.env with
    | some e => ["[env: " ++ e ++ "]"]
    | none => []
  let dflt := match a.takesValue, a.defaultValue with
    | true, some d => ["[default: " ++ d ++ "]"]
    | _, _ => []
  let values := if describesValues a long || a.possibleValues.isEmpty then []
    else ["[possible values: " ++ ", ".intercalate (a.possibleValues.map (·.name)) ++ "]"]
  (if long then "\n" else " ").intercalate (env ++ dflt ++ values)

def nameWidth (a : ArgSpec) : Nat :=
  if a.isPositional then a.display.length else a.display.length + 4

def widest (args : List ArgSpec) : Nat :=
  args.foldl (fun m a => if a.takesValue || a.long.isSome || a.short.isNone then max m (nameWidth a) else m) 2

def crowded (helpWidth taken : Nat) : Bool :=
  termWidth ≥ taken && taken * 10 > termWidth * 4 && helpWidth + taken > termWidth

def argOnNextLine (a : ArgSpec) (long : Bool) (longest : Nat) : Bool :=
  long || crowded (a.help.length + (factsOf a false).length) (if a.isPositional then longest + 4 else longest + 8)

def valuesBlock (a : ArgSpec) (indent : Nat) (afterText : Bool) : String :=
  let vs := a.possibleValues
  let longestName := vs.foldl (fun m v => max m v.name.length) 0
  (if afterText then "\n\n" ++ blanks indent else "") ++ "Possible values:" ++
    String.join (vs.map fun v =>
      "\n" ++ blanks indent ++ "- " ++ v.name ++
        (if v.help.isEmpty then "" else ": " ++ blanks (longestName - v.name.length) ++ indentLines v.help (indent + 2)))

def describe (arg : Option ArgSpec) (about facts : String) (long nextLine : Bool) (longest : Nat) : String :=
  let indent := if nextLine then 10 else longest + 4
  let text := if facts.isEmpty then about
    else if about.isEmpty then facts
    else about ++ (if long && arg.isSome then "\n\n" else " ") ++ facts
  let values := match arg with
    | some a => if describesValues a long then valuesBlock a indent (!text.isEmpty) else ""
    | none => ""
  (if nextLine then "\n" ++ blanks 10 else "") ++ indentLines text indent ++ values

def argEntry (a : ArgSpec) (long nextLine : Bool) (longest : Nat) : String :=
  let shortPart := match a.short with
    | some s => "-" ++ s.toString
    | none => if a.long.isSome then "    " else ""
  let longPart := match a.long with
    | some l => (if a.short.isSome then ", " else "") ++ "--" ++ l
    | none => ""
  let suffix := if a.isPositional then a.placeholder a.required
    else if a.takesValue then " " ++ a.placeholder true else ""
  let pad := if long || nextLine then 0
    else if a.isPositional then longest + 2 - a.display.length
    else longest + (if a.long.isSome then 2 else 6) - (a.display.length + 4)
  let about := if long then a.longHelp.getD a.help else a.help
  "  " ++ shortPart ++ longPart ++ suffix ++ blanks pad ++ describe (some a) about (factsOf a long) long nextLine longest

def argSection (args : List ArgSpec) (long : Bool) : String :=
  let longest := widest args
  let nextLine := args.any fun a => argOnNextLine a long longest
  (if nextLine && long then "\n\n" else "\n").intercalate (args.map fun a => argEntry a long nextLine longest)

def commandSection (subcommands : List (String × String)) (long : Bool) : String :=
  let longest := subcommands.foldl (fun m s => max m s.1.length) 2
  let nextLine := subcommands.any fun s => long || crowded s.2.length (longest + 4)
  "\n".intercalate (subcommands.map fun (name, about) =>
    "  " ++ name ++ (if nextLine then "" else blanks (longest + 2 - name.length)) ++
      describe none about "" long nextLine longest)

def listingKey (a : ArgSpec) : Nat × String :=
  let name := match a.short, a.long with
    | some s, _ => s.toLower.toString ++ (if s.isLower then "0" else "1")
    | none, some l => l
    | none, none => "\x7b" ++ a.id
  (a.order, name)

def listedBefore (a b : ArgSpec) : Bool :=
  let (x, y) := (listingKey a, listingKey b)
  x.1 < y.1 || (x.1 == y.1 && decide (x.2 ≤ y.2))

def trimEnd (s : String) : String :=
  String.ofList (s.toList.reverse.dropWhile (fun c => c == ' ' || c == '\n')).reverse

def CommandSpec.helpText (c : CommandSpec) (long : Bool) : String :=
  let long := long && c.hasLongHelp
  let positionals := c.positionals.mergeSort fun a b => a.index.getD 0 ≤ b.index.getD 0
  let options := c.options.mergeSort listedBefore
  let sections :=
    (if c.subcommands.isEmpty then [] else ["Commands:\n" ++ commandSection c.subcommands long]) ++
    (if positionals.isEmpty then [] else ["Arguments:\n" ++ argSection positionals long]) ++
    (if options.isEmpty then [] else ["Options:\n" ++ argSection options long])
  trimEnd (c.about ++ "\n\nUsage: " ++ c.usage ++ "\n\n" ++ "\n\n".intercalate sections) ++ "\n"

def CommandSpec.versionText (c : CommandSpec) : String :=
  c.name ++ " " ++ c.version.getD "" ++ "\n"

end Cli

end KvStore

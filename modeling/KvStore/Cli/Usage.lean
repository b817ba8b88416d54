import KvStore.Cli.Spec

namespace KvStore

namespace Cli

def needsOptionsTag (c : CommandSpec) : Bool :=
  c.options.any fun a => a.long != some "help" && a.long != some "version" && !a.required

def spaced (parts : List String) : String := String.join (parts.map (" " ++ ·))

def CommandSpec.usage (c : CommandSpec) : String :=
  let subcommand := if c.subcommands.isEmpty then [] else if c.subcommandRequired then ["<COMMAND>"] else ["[COMMAND]"]
  c.usageName ++ (if needsOptionsTag c then " [OPTIONS]" else "") ++
    spaced ((c.options.filter (·.required)).map (·.displayAs true)) ++
    spaced (c.positionals.map ArgSpec.display) ++ spaced subcommand

def dedupTexts (xs : List String) : List String :=
  xs.foldl (fun acc x => if acc.contains x then acc else acc ++ [x]) []

def CommandSpec.usageGiven (c : CommandSpec) (given : List String) : String :=
  if given.isEmpty then c.usage
  else
    let ids := (c.requiredArgs.map (·.id)) ++ given
    let named := ids.filterMap c.byId
    let opts := dedupTexts ((named.filter (!·.isPositional)).map (·.displayAs true))
    let pos := (c.positionals.filter fun p => ids.contains p.id).map (·.displayAs true)
    c.usageName ++ spaced opts ++ spaced pos ++ (if c.subcommandRequired then " <COMMAND>" else "")

end Cli

end KvStore

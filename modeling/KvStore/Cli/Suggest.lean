namespace KvStore

namespace Cli

def firstFree (c : Char) (lo hi : Nat) (b : List Char) (taken : List Bool) : Option Nat :=
  (List.range hi).find? fun j => lo ≤ j && b.getD j ' ' == c && !taken.getD j true

def jaroMatches (a b : List Char) : List Bool × List Bool :=
  let window := max a.length b.length / 2 - 1
  let step := fun (acc : List Bool × List Bool × Nat) (c : Char) =>
    let (aFlags, bFlags, i) := acc
    match firstFree c (i - window) (min b.length (i + window + 1)) b bFlags with
    | some j => (aFlags ++ [true], bFlags.set j true, i + 1)
    | none => (aFlags ++ [false], bFlags, i + 1)
  let (aFlags, bFlags, _) := a.foldl step ([], List.replicate b.length false, 0)
  (aFlags, bFlags)

def marked (cs : List Char) (flags : List Bool) : List Char :=
  (cs.zip flags).filterMap fun (c, f) => if f then some c else none

def jaro (a b : String) : Float :=
  let a := a.toList
  let b := b.toList
  if a.isEmpty && b.isEmpty then 1.0
  else if a.isEmpty || b.isEmpty then 0.0
  else
    let (aFlags, bFlags) := jaroMatches a b
    let inA := marked a aFlags
    let inB := marked b bFlags
    let m := inA.length
    let t := ((inA.zip inB).filter fun (x, y) => x != y).length / 2
    if m == 0 then 0.0
    else
      let mf := Float.ofNat m
      (mf / Float.ofNat a.length + mf / Float.ofNat b.length + Float.ofNat (m - t) / mf) / 3.0

def insertByScore (x : Float × String) : List (Float × String) → List (Float × String)
  | [] => [x]
  | y :: ys => if x.1 < y.1 then x :: y :: ys else y :: insertByScore x ys

def didYouMean (v : String) (candidates : List String) : List String :=
  let scored := candidates.filterMap fun c =>
    let s := jaro v c
    if s > 0.7 then some (s, c) else none
  (scored.foldl (fun acc x => insertByScore x acc) []).map (·.2)

def bestMatch (v : String) (candidates : List String) : Option String :=
  (didYouMean v candidates).getLast?

end Cli

end KvStore

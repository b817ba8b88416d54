namespace KvStore

structure Metrics where
  enabled : Bool := false
  samples : List (String × Nat) := []
  deriving Inhabited

namespace Metrics

def series (name : String) (labels : List (String × String)) : String :=
  if labels.isEmpty then name
  else name ++ "\x7b" ++ ",".intercalate (labels.map fun (k, v) => k ++ "=\"" ++ v ++ "\"") ++ "\x7d"

def add (m : Metrics) (name : String) (labels : List (String × String)) (n : Nat) : Metrics :=
  if !m.enabled then m
  else
    let key := series name labels
    if m.samples.any (·.1 == key) then
      { m with samples := m.samples.map fun (k, v) => if k == key then (k, v + n) else (k, v) }
    else { m with samples := m.samples ++ [(key, n)] }

def operation (m : Metrics) (backend operation status : String) : Metrics :=
  m.add "storage_operations_total" [("backend", backend), ("operation", operation), ("status", status)] 1

def render (m : Metrics) : List String :=
  (m.samples.map fun (k, v) => k ++ " " ++ toString v).mergeSort (fun a b => decide (a ≤ b))

end Metrics

end KvStore

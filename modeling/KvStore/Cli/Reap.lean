import KvStore.Config.Store
import KvStore.Net.Address

namespace KvStore

structure ReapArgs where
  uri : Option String := none
  table : Option String := none
  namespaceName : Option String := none
  watch : Option Nat := none
  metricsAddr : Option Net.SocketAddress := none
  deriving Repr, Inhabited

namespace ReapArgs

def storeConfig (a : ReapArgs) (base : Option StoreConfig) : Outcome StoreConfig := do
  let c ← match base, a.uri with
    | some b, some u => pure { b with uri := u }
    | some b, none => pure b
    | none, some u => pure (StoreConfig.ofUri u)
    | none, none =>
      throw (.invalidInput "no connection URI: pass --uri, set KVBRIDGE_URI or use a config file")
  let c := match a.table with | some t => { c with table := t } | none => c
  let c := match a.namespaceName with | some n => { c with namespaceName := some n } | none => c
  pure { c with clearExpiredInterval := none }

end ReapArgs

end KvStore

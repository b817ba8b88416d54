import KvStore.Net.Address

namespace KvStore

namespace Net

def SocketAddress.port : SocketAddress → Nat
  | .v4 _ p => p
  | .v6 _ _ p => p

def SocketAddress.isLocal : SocketAddress → Bool
  | .v4 octets _ => octets == [0, 0, 0, 0] || octets.head? == some 127
  | .v6 groups _ _ => groups.all (· == 0) || groups == [0, 0, 0, 0, 0, 0, 0, 1]

def bindFailure (a : SocketAddress) : Option String :=
  if a.port != 0 && a.port < 1024 then some "Permission denied (os error 13)"
  else if a.isLocal then none
  else some "Cannot assign requested address (os error 99)"

end Net

end KvStore

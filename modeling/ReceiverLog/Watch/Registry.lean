import ReceiverLog.Failure

namespace ReceiverLog

/-! Which watches are live. Every registration draws a token of its own,
whether or not the platform accepts the directory. -/

structure WatchToken where
  id : Nat
  deriving DecidableEq

structure Watch where
  token : WatchToken
  directory : String
  deriving DecidableEq

structure WatchRegistry where
  nextToken : Nat
  watches : List Watch

namespace WatchRegistry

def empty : WatchRegistry := { nextToken := 0, watches := [] }

def active (registry : WatchRegistry) : Nat :=
  registry.watches.length

def upcoming (registry : WatchRegistry) : WatchToken :=
  { id := registry.nextToken }

def grant (registry : WatchRegistry) (directory : String) : WatchRegistry where
  nextToken := registry.nextToken + 1
  watches := registry.watches ++ [{ token := registry.upcoming, directory }]

def refuse (registry : WatchRegistry) : WatchRegistry :=
  { registry with nextToken := registry.nextToken + 1 }

def register (registry : WatchRegistry) (directory : String) (refusal : Option Failure) :
    Except Failure WatchToken × WatchRegistry :=
  match refusal with
  | some failure => (.error failure, registry.refuse)
  | none => (.ok registry.upcoming, registry.grant directory)

/-- Withdraw a watch by its token. A token that is not live does nothing. -/
def unregister (registry : WatchRegistry) (token : WatchToken) : WatchRegistry :=
  { registry with watches := registry.watches.filter (·.token != token) }

end WatchRegistry

end ReceiverLog

/-
Changes of a peer table, one peer at a time.

Peers that are not desired any more are removed, unless they are reachable: then
they stay without routes, so that a later route finds the tunnel warm.  Each
change is a request of its own, so that a refused one spoils no other.
-/
import TunnelMesh.Tunnel.Request

namespace TunnelMesh

/-- Peers in order of their keys. -/
abbrev PeerMap := Std.ExtTreeMap PublicKey PeerConfig

/-- Peers by key; of several with one key the last counts. -/
def PeerMap.ofList (ps : List PeerConfig) : PeerMap :=
  ps.foldl (fun m p => m.insert p.publicKey p) ∅

/-- What is done about a peer. -/
inductive PeerChange where
  | set (peer : PeerConfig)
  | remove (key : PublicKey)
deriving DecidableEq

namespace PeerChange

/-- The key of the peer. -/
def key : PeerChange → PublicKey
  | set p => p.publicKey
  | remove k => k

/-- The request for a change, given the peers that the device has. -/
def request (live : PeerMap) : PeerChange → String
  | set p =>
    match live[p.publicKey]? with
    | some previous => (Request.Draft.updatePeer {} previous p).build
    | none => (Request.Draft.peer {} p).build
  | remove k => (Request.Draft.removePeer {} k).build

/-- The peers after a change. -/
def apply (live : PeerMap) : PeerChange → PeerMap
  | set p => live.insert p.publicKey p
  | remove k => live.erase k

end PeerChange

/-- What a node wants of its peers. -/
structure PeerGoal where
  /-- Peers with their routes. -/
  desired : PeerMap
  /-- Further peers that can be reached, without routes. -/
  warm : PeerMap

namespace PeerGoal

/-- The goal of two lists: what is desired is not kept warm. -/
def ofLists (desired reachable : List PeerConfig) : PeerGoal :=
  let desired := PeerMap.ofList desired
  ⟨desired, PeerMap.ofList
    ((reachable.filter fun p => !desired.contains p.publicKey).map PeerConfig.withoutRoutes)⟩

/-- What is done about a peer of the device. -/
def settle (g : PeerGoal) (key : PublicKey) (current : PeerConfig) : Option PeerChange :=
  if g.desired.contains key then none
  else
    match g.warm[key]? with
    | some p => if p = current then none else some (.set p)
    | none => some (.remove key)

/-- What is done about a desired peer. -/
def want (live : PeerMap) (key : PublicKey) (p : PeerConfig) : Option PeerChange :=
  if live[key]? = some p then none else some (.set p)

/-- What is done about a warm peer. -/
def welcome (g : PeerGoal) (live : PeerMap) (key : PublicKey) (p : PeerConfig) :
    Option PeerChange :=
  if g.desired.contains key || live.contains key then none else some (.set p)

/-- The changes from the peers of a device to the goal, in their order. -/
def changes (g : PeerGoal) (live : PeerMap) : List PeerChange :=
  live.toList.filterMap (fun e => g.settle e.1 e.2) ++
    g.desired.toList.filterMap (fun e => want live e.1 e.2) ++
    g.warm.toList.filterMap (fun e => g.welcome live e.1 e.2)

end PeerGoal

/-- What came of changes. -/
structure ChangeSummary where
  added : Nat := 0
  updated : Nat := 0
  removed : Nat := 0
  /-- Changes that the device refused. -/
  failed : Nat := 0
deriving DecidableEq

namespace ChangeSummary

/-- Whether nothing was to be done. -/
def isNoop (s : ChangeSummary) : Bool := s = {}

/-- Counts a change that the device took. -/
def count (s : ChangeSummary) (live : PeerMap) : PeerChange → ChangeSummary
  | .set p =>
    if live.contains p.publicKey then { s with updated := s.updated + 1 }
    else { s with added := s.added + 1 }
  | .remove _ => { s with removed := s.removed + 1 }

end ChangeSummary

end TunnelMesh

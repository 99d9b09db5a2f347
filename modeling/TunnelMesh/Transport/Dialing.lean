/-
Dialing an address at most once at a time.

Sends to one address share a lock.  A send that found no connection takes hold of
the address's lock, waits for it, looks for a connection again, and only then
connects.  The lock is forgotten by the last send that has hold of it.

Getting the lock, giving it back, looking at the table of locks and letting go of the
lock are steps of their own, and so is every look at the connections; other sends may
take steps between any two of them.
-/
import TunnelMesh.Transport.Error
import TunnelMesh.Transport.Registry

namespace TunnelMesh.Transport

/-- How far a send that has to dial has come; locks are known by their numbers. -/
inductive Stage where
  /-- It has hold of a lock and waits for it. -/
  | waiting (lock : Nat)
  /-- It has the lock and has not looked for a connection yet. -/
  | locked (lock : Nat)
  /-- It has the lock and is connecting. -/
  | connecting (lock : Nat)
  /-- It has the lock, and this is what came of it. -/
  | decided (lock : Nat) (result : Except BindError Nat)
  /-- It gave the lock back and has not looked at the table of locks yet. -/
  | releasing (lock : Nat) (result : Except BindError Nat)
  /-- It has looked at the table of locks, or was given up, and still has hold of the lock. -/
  | dropping (lock : Nat) (result : Option (Except BindError Nat))
  /-- It has a connection or has failed. -/
  | finished (result : Except BindError Nat)
  /-- It was given up. -/
  | abandoned

namespace Stage

/-- The lock that a send has hold of. -/
def lock? : Stage → Option Nat
  | waiting l | locked l | connecting l | decided l _ | releasing l _ | dropping l _ => some l
  | finished _ | abandoned => none

/-- Whether a send keeps others from the lock. -/
def owns (l : Nat) : Stage → Bool
  | locked m | connecting m | decided m _ => l == m
  | _ => false

/-- What a send that lets go of its lock has come to. -/
def ofResult : Option (Except BindError Nat) → Stage
  | some result => finished result
  | none => abandoned

end Stage

/-- A send that has to dial. -/
structure Dial where
  url : RelayUrl
  stage : Stage

/-- The dials of an open relay transport and what they share. -/
structure Dialing where
  registry : Registry
  /-- The lock of each address that is being dialed. -/
  locks : Std.ExtTreeMap RelayUrl Nat
  /-- The number of the next lock. -/
  nextLock : Nat
  /-- Every dial that was begun, in order. -/
  dials : List Dial

namespace Dialing

/-- Nothing connected and nothing dialed. -/
def empty : Dialing := ⟨.empty, ∅, 0, []⟩

/-- How many have hold of a lock: the table of locks and dials. -/
def holders (d : Dialing) (lock : Nat) : Nat :=
  (d.locks.toList.filter fun e => e.2 == lock).length +
    (d.dials.filter fun x => x.stage.lock? == some lock).length

/-- Whether some dial keeps others from a lock. -/
def isLocked (d : Dialing) (lock : Nat) : Bool := d.dials.any fun x => x.stage.owns lock

/-- Moves a dial on. -/
def moveOn (d : Dialing) (i : Nat) (stage : Stage) : Dialing :=
  { d with dials := d.dials.modify i fun x => { x with stage := stage } }

/-- The lock of an address is forgotten, if nobody has hold of it but the table and one dial. -/
def forget (d : Dialing) (url : RelayUrl) (lock : Nat) : Dialing :=
  if d.holders lock ≤ 2 then { d with locks := d.locks.erase url } else d

/-- A send to an address begins to dial. -/
def begin (d : Dialing) (url : RelayUrl) : Dialing :=
  match d.locks[url]? with
  | some l => { d with dials := d.dials ++ [⟨url, .waiting l⟩] }
  | none =>
    { d with
      locks := d.locks.insert url d.nextLock, nextLock := d.nextLock + 1
      dials := d.dials ++ [⟨url, .waiting d.nextLock⟩] }

/-- A dial takes its next step, where that does not depend on others: it gets its lock if that is
free, looks for a connection that came up meanwhile, gives its lock back, looks whether it can be
forgotten, and lets go of it.  A dial that is connecting waits. -/
def advance (d : Dialing) (i : Nat) : Dialing :=
  match d.dials[i]? with
  | none => d
  | some ⟨url, stage⟩ =>
    match stage with
    | .waiting l => if d.isLocked l then d else d.moveOn i (.locked l)
    | .locked l =>
      match d.registry.find? (.dialed url) with
      | some id => d.moveOn i (.decided l (.ok id))
      | none => d.moveOn i (.connecting l)
    | .decided l result => d.moveOn i (.releasing l result)
    | .releasing l result => (d.forget url l).moveOn i (.dropping l (some result))
    | .dropping _ result => d.moveOn i (.ofResult result)
    | .connecting _ | .finished _ | .abandoned => d

/-- A dial has connected, or has failed to. -/
def connected (d : Dialing) (i : Nat) (outcome : Except ConnectFault Unit) : Dialing :=
  match d.dials[i]? with
  | some ⟨url, .connecting l⟩ =>
    match outcome with
    | .ok () =>
      let (id, registry) := d.registry.register (.dialed url)
      { d with registry := registry }.moveOn i (.decided l (.ok id))
    | .error fault => d.moveOn i (.decided l (.error (fault.error url)))
  | _ => d

/-- A dial is given up at whatever point it is. -/
def abandon (d : Dialing) (i : Nat) : Dialing :=
  match (d.dials[i]?).bind fun x => x.stage.lock? with
  | some l => d.moveOn i (.dropping l none)
  | none => d

/-- What happens to dials. -/
inductive Event where
  | begin (url : RelayUrl)
  | advance (i : Nat)
  | connected (i : Nat) (outcome : Except ConnectFault Unit)
  | abandon (i : Nat)
  /-- Something happens to connections; those to dialed addresses are registered by dials only. -/
  | connection (event : Registry.Event)

/-- The state after an event; an event that is not possible changes nothing. -/
def step (d : Dialing) : Event → Dialing
  | .begin url => d.begin url
  | .advance i => d.advance i
  | .connected i outcome => d.connected i outcome
  | .abandon i => d.abandon i
  | .connection (.register (.dialed _)) => d
  | .connection event => { d with registry := d.registry.step event }

/-- A dial that nobody interferes with, to its end: `outcome` is what connecting gives. -/
def complete (d : Dialing) (i : Nat) (outcome : Except ConnectFault Unit) : Dialing :=
  let d := ((d.advance i).advance i).connected i outcome
  ((d.advance i).advance i).advance i

end Dialing

end TunnelMesh.Transport

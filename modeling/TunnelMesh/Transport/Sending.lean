/-
Sends over relay connections that run at the same time.

A send looks for a connection to its peer and dials if there is none and the peer has
an address.  It queues its frame at the connection and waits until the writer has
written it, or until the connection closes.  The number of a frame is that of the send
it belongs to.
-/
import TunnelMesh.Transport.Dialing

namespace TunnelMesh.Transport

/-- How far a send has come; connections and dials are known by their numbers. -/
inductive SendStage where
  /-- It has not looked for a connection yet. -/
  | called
  /-- It has found no connection and is to dial. -/
  | unconnected (url : RelayUrl)
  /-- It waits for its dial. -/
  | dialing (dial : Nat)
  /-- It has a connection and has not queued its frame yet. -/
  | queueing (id : Nat)
  /-- It waits for what becomes of its frame. -/
  | queued (id : Nat)
  /-- It has returned; `used` is the connection that it had, if any. -/
  | returned (used : Option Nat) (result : Except BindError Unit)
  /-- It was given up. -/
  | abandoned

/-- A send to a peer. -/
structure Send where
  peer : RelayPeer
  data : List UInt8
  stage : SendStage

/-- The sends over an open relay transport and what they share. -/
structure Sending where
  dialing : Dialing
  /-- Every send, in order. -/
  sends : List Send

namespace Sending

/-- Nothing connected and nothing sent. -/
def empty : Sending := ⟨.empty, []⟩

/-- The connections. -/
def registry (s : Sending) : Registry := s.dialing.registry

/-- Moves a send on. -/
def moveOn (s : Sending) (i : Nat) (stage : SendStage) : Sending :=
  { s with sends := s.sends.modify i fun x => { x with stage } }

/-- A send is made. -/
def call (s : Sending) (peer : RelayPeer) (data : List UInt8) : Sending :=
  { s with sends := s.sends ++ [⟨peer, data, .called⟩] }

/-- A send looks for a connection. -/
def lookUp (s : Sending) (i : Nat) (peer : RelayPeer) : Sending :=
  match s.registry.find? peer, peer with
  | some id, _ => s.moveOn i (.queueing id)
  | none, .dialed url => s.moveOn i (.unconnected url)
  | none, .accepted _ => s.moveOn i (.returned none (.error (.notConnected peer.toText)))

/-- A send begins to dial. -/
def dial (s : Sending) (i : Nat) (url : RelayUrl) : Sending :=
  { s with dialing := s.dialing.begin url }.moveOn i (.dialing s.dialing.dials.length)

/-- A send has what came of its dial, unless that is still on its way. -/
def dialed (s : Sending) (i k : Nat) : Sending :=
  match s.dialing.dials[k]? with
  | some ⟨_, .finished (.ok id)⟩ => s.moveOn i (.queueing id)
  | some ⟨_, .finished (.error e)⟩ => s.moveOn i (.returned none (.error e))
  | _ => s

/-- A send queues its frame. -/
def queue (s : Sending) (i : Nat) (peer : RelayPeer) (data : List UInt8) (id : Nat) : Sending :=
  match s.registry.enqueue? id ⟨i, data⟩ with
  | some registry =>
    { s with dialing := { s.dialing with registry } }.moveOn i (.queued id)
  | none => s.moveOn i (.returned (some id) (.error (.connectionClosed peer.toText)))

/-- A send learns what became of its frame, unless it still waits for the writer. -/
def learn (s : Sending) (i : Nat) (peer : RelayPeer) (id : Nat) : Sending :=
  match (s.registry.connections[id]?).bind fun c => c.fate? i with
  | some .written => s.moveOn i (.returned (some id) (.ok ()))
  | some .lost => s.moveOn i (.returned (some id) (.error (.connectionClosed peer.toText)))
  | none => s

/-- A send takes its next step; one that has to wait, or has returned, stays. -/
def advance (s : Sending) (i : Nat) : Sending :=
  match s.sends[i]? with
  | none => s
  | some ⟨peer, data, stage⟩ =>
    match stage with
    | .called => s.lookUp i peer
    | .unconnected url => s.dial i url
    | .dialing k => s.dialed i k
    | .queueing id => s.queue i peer data id
    | .queued id => s.learn i peer id
    | .returned .. | .abandoned => s

/-- A send is given up at whatever point it is, with its dial. -/
def abandon (s : Sending) (i : Nat) : Sending :=
  match s.sends[i]? with
  | none | some ⟨_, _, .returned ..⟩ => s
  | some ⟨_, _, .dialing k⟩ => { s with dialing := s.dialing.abandon k }.moveOn i .abandoned
  | some _ => s.moveOn i .abandoned

/-- What happens on an open relay transport. -/
inductive Event where
  | call (peer : RelayPeer) (data : List UInt8)
  | advance (i : Nat)
  | abandon (i : Nat)
  /-- Something happens to dials and connections.  Dials are begun and given up by sends only, and
  only sends queue frames. -/
  | below (event : Dialing.Event)

/-- The state after an event; an event that is not possible changes nothing. -/
def step (s : Sending) : Event → Sending
  | .call peer data => s.call peer data
  | .advance i => s.advance i
  | .abandon i => s.abandon i
  | .below (.begin _) | .below (.abandon _) | .below (.connection (.enqueue ..)) => s
  | .below event => { s with dialing := s.dialing.step event }

/-- The state after something happened to connections. -/
def after (s : Sending) (event : Registry.Event) : Sending := s.step (.below (.connection event))

end Sending

end TunnelMesh.Transport

/-
Probing the nodes of a mesh in cycles.

Every target but the local node has a task, and all tasks of a cycle go on at the
same time.  A task waits for one of the places, keeps it while it asks for the
endpoint and then for the tunnel address, and gives it back with its result.  The
cycle takes results in the order in which tasks are done with them and records each
as a whole; a task that broke off gives nothing to record.  Before it takes a result
it looks whether it was cancelled, and then it is over and records nothing more.
-/
import TunnelMesh.Probe.Prober

namespace TunnelMesh

/-- How far the task of a target has come. -/
inductive ProbeStage where
  /-- It has no place yet. -/
  | waiting
  /-- It has a place and has not asked for anything. -/
  | placed
  /-- It has asked for the endpoint. -/
  | halfway (endpoint : Option (Option Duration))
  /-- It has given its place back. -/
  | done (result : Except ProbeFault ProbeOutcome)
  /-- The cycle has taken its result. -/
  | taken (result : Except ProbeFault ProbeOutcome)

/-- The stage after asking for the endpoint; a task that broke off is done. -/
def ProbeStage.ofEndpoint : Except ProbeFault (Option (Option Duration)) → ProbeStage
  | .ok endpoint => halfway endpoint
  | .error e => done (.error e)

/-- Whether a task has a place. -/
def ProbeStage.hasPlace : ProbeStage → Bool
  | placed | halfway _ => true
  | waiting | done _ | taken _ => false

/-- Whether the cycle has taken a task's result. -/
def ProbeStage.isTaken : ProbeStage → Bool
  | taken _ => true
  | waiting | placed | halfway _ | done _ => false

/-- The probing of one target. -/
structure ProbeTask where
  target : ProbeTarget
  stage : ProbeStage

/-- A cycle of probes. -/
structure ProbeCycle (π : Type) where
  settings : ProbeSettings
  nodeId : NodeId
  source : π
  measured : Measurements Float
  tasks : List ProbeTask
  /-- The number of targets recorded. -/
  recorded : Nat
  cancelled : Bool
  ended : Bool

/-- How many probes may run at once, which is never none. -/
def ProbeSettings.places (s : ProbeSettings) : Nat := Nat.max s.concurrency 1

namespace ProbeCycle

/-- The most places that can be handed out: an eighth of what 64 bits count, rounded down. -/
def mostPlaces : Nat := 2305843009213693951

/-- The targets that are probed. -/
def others (nodeId : NodeId) (targets : List ProbeTarget) : List ProbeTarget :=
  targets.filter fun t => t.nodeId != nodeId

/-- A cycle at its start; with more places than can be handed out it breaks off at once. -/
def begin? {π : Type} (s : ProbeSettings) (source : π) (m : Measurements Float) (nodeId : NodeId)
    (targets : List ProbeTarget) (cancelled : Bool) : Option (ProbeCycle π) :=
  if mostPlaces < s.places then none
  else
    some {
      settings := s, nodeId, source, measured := m, cancelled
      tasks := (others nodeId targets).map (⟨·, .waiting⟩), recorded := 0, ended := false }

variable {π : Type} [ProbeSource π]

/-- How many places are taken. -/
def busy (c : ProbeCycle π) : Nat := c.tasks.countP fun t => t.stage.hasPlace

/-- Moves a task on. -/
def moveOn (c : ProbeCycle π) (i : Nat) (stage : ProbeStage) : ProbeCycle π :=
  { c with tasks := c.tasks.modify i fun t => { t with stage } }

/-- A task asks for the endpoint. -/
def askEndpoint (c : ProbeCycle π) (i : Nat) (t : ProbeTarget) : ProbeCycle π :=
  let (r, source) := t.measureEndpoint c.settings c.source
  { c with source }.moveOn i (.ofEndpoint r)

/-- A task asks for the tunnel address. -/
def askInner (c : ProbeCycle π) (i : Nat) (t : ProbeTarget) (endpoint : Option (Option Duration)) :
    ProbeCycle π :=
  let (r, source) := t.measureInner c.settings c.source
  { c with source }.moveOn i (.done (r.map fun inner => ⟨t.nodeId, endpoint, inner⟩))

/-- A task makes its next step; one that has to wait, or is done, stays. -/
def advance (c : ProbeCycle π) (i : Nat) : ProbeCycle π :=
  match c.tasks[i]? with
  | none => c
  | some ⟨t, stage⟩ =>
    match stage with
    | .waiting => if c.busy < c.settings.places then c.moveOn i .placed else c
    | .placed => c.askEndpoint i t
    | .halfway endpoint => c.askInner i t endpoint
    | .done _ | .taken _ => c

/-- Records a result, if there is one. -/
def keep (c : ProbeCycle π) : Except ProbeFault ProbeOutcome → ProbeCycle π
  | .ok o => { c with measured := o.record c.measured c.nodeId, recorded := c.recorded + 1 }
  | .error _ => c

/-- The cycle takes the result of a task that is done. -/
def take (c : ProbeCycle π) (i : Nat) : ProbeCycle π :=
  match c.tasks[i]? with
  | some ⟨_, .done r⟩ => (c.keep r).moveOn i (.taken r)
  | _ => c

/-- The cycle looks around: it is over if it was cancelled or has taken every result. -/
def poll (c : ProbeCycle π) (i : Nat) : ProbeCycle π :=
  if c.cancelled || c.tasks.all fun t => t.stage.isTaken then { c with ended := true }
  else c.take i

/-- What happens in a cycle. -/
inductive Event where
  /-- A task makes a step. -/
  | advance (i : Nat)
  /-- The cycle looks around, and finds a task if that is done. -/
  | poll (i : Nat)
  | cancel
deriving DecidableEq

/-- The cycle after an event; once it is over nothing happens any more. -/
def step (c : ProbeCycle π) (e : Event) : ProbeCycle π :=
  if c.ended then c
  else
    match e with
    | .advance i => c.advance i
    | .poll i => c.poll i
    | .cancel => { c with cancelled := true }

/-- The cycle after events, the first one first. -/
def run (c : ProbeCycle π) (events : List Event) : ProbeCycle π := events.foldl step c

/-- The steps of a task from its start until its result is taken. -/
def wholeTask (i : Nat) : List Event := [.advance i, .advance i, .advance i, .poll i]

/-- A whole cycle in which one task follows the other. -/
def inOrder (tasks : Nat) : List Event :=
  .poll 0 :: (List.range tasks).flatMap wholeTask ++ [.poll 0]

end ProbeCycle

/-- Runs a cycle; the answer is the number of targets recorded. -/
def Prober.cycle {π : Type} [ProbeSource π] (s : ProbeSettings) (source : π) (m : Measurements Float)
    (nodeId : NodeId) (targets : List ProbeTarget) (cancelled : Bool) :
    Option (Nat × π × Measurements Float) :=
  (ProbeCycle.begin? s source m nodeId targets cancelled).map fun c =>
    let c := c.run (ProbeCycle.inOrder c.tasks.length)
    (c.recorded, c.source, c.measured)

end TunnelMesh

/-
What senders are told, whatever the order of steps.

A send has a frame of its own, and queues it once.  The connections say what became of
the frames that were queued with them, and their order; the log of what the sends queued
says whose frames they are.  Put together, a send that returns without an error finds
its frame among those that were written, and one that is told that the connection closed
had a connection that nobody will find again.
-/
import TunnelMesh.Proofs.Transport.Dialing
import TunnelMesh.Transport.Sending

namespace TunnelMesh.Transport

/-! ### What later steps leave as it is -/

namespace Dialing

/-- What others rely on: connections go on or stay gone, and dials keep their addresses. -/
structure Follows (d d' : Dialing) : Prop where
  onward : ∀ (id : Nat) c, d.registry.connections[id]? = some c →
    ∃ c', d'.registry.connections[id]? = some c' ∧ c.Onward c'
  gone : ∀ id, d.registry.Gone id → d'.registry.Gone id
  dials : ∀ (k : Nat) x, d.dials[k]? = some x → ∃ x', d'.dials[k]? = some x' ∧ x'.url = x.url

variable {d : Dialing} {k : Nat} {x : Dial}

theorem exists_dial_moveOn (hk : d.dials[k]? = some x) (i : Nat) (s : Stage) :
    ∃ x', (d.moveOn i s).dials[k]? = some x' ∧ x'.url = x.url := by
  by_cases hi : k = i
  · subst hi
    exact ⟨_, getElem?_moveOn.mpr (.inr ⟨rfl, x, hk, rfl⟩), rfl⟩
  · exact ⟨x, getElem?_moveOn.mpr (.inl ⟨hi, hk⟩), rfl⟩

theorem exists_dial_step (hk : d.dials[k]? = some x) (e : Event) :
    ∃ x', (d.step e).dials[k]? = some x' ∧ x'.url = x.url := by
  cases e with
  | begin url =>
      rw [step, begin]
      split <;> exact ⟨x, getElem?_concat_eq_some.mpr (.inl hk), rfl⟩
  | advance i =>
      rw [step]
      have hmove := advance_advance d i
      generalize d.advance i = d' at hmove
      cases hmove with
      | stay => exact ⟨x, hk, rfl⟩
      | forget =>
          rw [moveOn, dials_forget]
          exact exists_dial_moveOn hk i _
      | _ => exact exists_dial_moveOn hk i _
  | connected i outcome =>
      rw [step]
      rcases connected_cases d i outcome with heq | ⟨url, l, -, ⟨id, registry, -, heq⟩ | ⟨f, heq⟩⟩
      · rw [heq]
        exact ⟨x, hk, rfl⟩
      · rw [heq]
        exact exists_dial_moveOn (d := { d with registry }) hk i _
      · rw [heq]
        exact exists_dial_moveOn hk i _
  | abandon i =>
      rw [step]
      rcases abandon_cases d i with heq | ⟨y, l, -, -, heq⟩
      · rw [heq]
        exact ⟨x, hk, rfl⟩
      · rw [heq]
        exact exists_dial_moveOn hk i _
  | connection event =>
      rcases step_connection d event with heq | ⟨heq, -⟩
      · rw [heq]
        exact ⟨x, hk, rfl⟩
      · rw [heq]
        exact ⟨x, hk, rfl⟩

/-- Whatever happens to connections happens by events of theirs. -/
theorem registry_step_cases (d : Dialing) (e : Event) :
    (d.step e).registry = d.registry ∨
      ∃ event, (d.step e).registry = d.registry.step event ∧
        ((∃ p, event = .register p) ∨ e = .connection event) := by
  rcases registry_step d e with heq | ⟨i, url, l, -, heq⟩ | ⟨event, he, -, heq⟩
  · exact .inl heq
  · exact .inr ⟨_, heq, .inl ⟨_, rfl⟩⟩
  · exact .inr ⟨event, heq, .inr he⟩

theorem follows_step (d : Dialing) (e : Event) : Follows d (d.step e) := by
  refine ⟨fun id c hc => ?_, fun id hgone => ?_, fun k x hk => exists_dial_step hk e⟩
  · rcases registry_step_cases d e with heq | ⟨event, heq, -⟩ <;> rw [heq]
    · exact ⟨c, hc, .refl c⟩
    · exact Registry.exists_onward_step hc event
  · rcases registry_step_cases d e with heq | ⟨event, heq, -⟩ <;> rw [heq]
    · exact hgone
    · exact hgone.step event

/-- Frames are queued by nothing but queueing. -/
theorem framesAt_step (d : Dialing) (e : Event) (he : ∀ id f, e ≠ .connection (.enqueue id f))
    (n : Nat) : (d.step e).registry.framesAt n = d.registry.framesAt n := by
  rcases registry_step_cases d e with heq | ⟨event, heq, hevent⟩ <;> rw [heq]
  refine Registry.framesAt_step d.registry event (fun id f h => ?_) n
  rcases hevent with ⟨p, hp⟩ | hevent
  · cases h.symm.trans hp
  · exact he id f (h ▸ hevent)

end Dialing

/-! ### Sends -/

/-- A send will not queue a frame any more. -/
def SendStage.Past : SendStage → Prop
  | queued _ | returned .. | abandoned => True
  | called | unconnected _ | dialing _ | queueing _ => False

namespace Sending

variable {s s' : Sending} {i j : Nat} {peer : RelayPeer} {data : List UInt8}
  {stage stage' : SendStage} {x y : Send}

/-- The state after events, one after the other. -/
def run (events : List Event) : Sending := events.foldl step empty

theorem run_concat (events : List Event) (e : Event) :
    run (events ++ [e]) = (run events).step e := by
  rw [run, List.foldl_append]
  rfl

theorem getElem?_moveOn :
    (s.moveOn i stage).sends[j]? = some y ↔
      j ≠ i ∧ s.sends[j]? = some y ∨
        j = i ∧ ∃ x, s.sends[i]? = some x ∧ y = { x with stage } := by
  rw [moveOn, List.getElem?_modify]
  by_cases h : j = i
  · subst h
    simp [eq_comm]
  · simp [h, Ne.symm h]

/-! ### The log -/

/-- The frame that a send queues in a step, with the connection it is queued with. -/
def queues (s : Sending) : Event → Option (Nat × Frame)
  | .advance i =>
    match s.sends[i]? with
    | some ⟨_, data, .queueing id⟩ =>
      (s.registry.enqueue? id ⟨i, data⟩).map fun _ => (id, ⟨i, data⟩)
    | _ => none
  | _ => none

/-- The frames that are queued in the course of events. -/
def log (s : Sending) : List Event → List (Nat × Frame)
  | [] => []
  | e :: events => (s.queues e).toList ++ log (s.step e) events

theorem log_concat (s : Sending) (events : List Event) (e : Event) :
    s.log (events ++ [e]) = s.log events ++ ((events.foldl step s).queues e).toList := by
  induction events generalizing s with
  | nil => simp [log]
  | cons e' events ih => simp [log, ih]

/-- The frames of a log that are for one connection. -/
def framesFor (id : Nat) (entries : List (Nat × Frame)) : List Frame :=
  (entries.filter fun e => e.1 == id).map (·.2)

/-- The frames that were queued with a connection, oldest first. -/
def queuedWith (events : List Event) (id : Nat) : List Frame := framesFor id (empty.log events)

theorem mem_framesFor {id : Nat} {entries : List (Nat × Frame)} {f : Frame} :
    f ∈ framesFor id entries ↔ (id, f) ∈ entries := by
  simp [framesFor]

theorem framesFor_concat (n : Nat) (entries : List (Nat × Frame)) (id : Nat) (f : Frame) :
    framesFor n (entries ++ [(id, f)]) = framesFor n entries ++ if id = n then [f] else [] := by
  by_cases h : id = n <;> simp [framesFor, List.filter_append, h]

/-! ### What a send does in one step -/

/-- The steps that a send can take, each with what it queues. -/
inductive Advance (s : Sending) (i : Nat) : Option (Nat × Frame) → Sending → Prop where
  | stay : Advance s i none s
  | find {peer : RelayPeer} {data : List UInt8} {id : Nat}
      (h : s.sends[i]? = some ⟨peer, data, .called⟩) (hfind : s.registry.find? peer = some id) :
      Advance s i none (s.moveOn i (.queueing id))
  | miss {url : RelayUrl} {data : List UInt8}
      (h : s.sends[i]? = some ⟨.dialed url, data, .called⟩) :
      Advance s i none (s.moveOn i (.unconnected url))
  | refuse {addr : Net.SocketAddress} {data : List UInt8}
      (h : s.sends[i]? = some ⟨.accepted addr, data, .called⟩) :
      Advance s i none
        (s.moveOn i (.returned none (.error (.notConnected (RelayPeer.accepted addr).toText))))
  | dial {peer : RelayPeer} {data : List UInt8} {url : RelayUrl}
      (h : s.sends[i]? = some ⟨peer, data, .unconnected url⟩) : Advance s i none (s.dial i url)
  | connected {peer : RelayPeer} {data : List UInt8} {k id : Nat} {url : RelayUrl}
      (h : s.sends[i]? = some ⟨peer, data, .dialing k⟩)
      (hdial : s.dialing.dials[k]? = some ⟨url, .finished (.ok id)⟩) :
      Advance s i none (s.moveOn i (.queueing id))
  | failed {peer : RelayPeer} {data : List UInt8} {k : Nat} {url : RelayUrl} {e : BindError}
      (h : s.sends[i]? = some ⟨peer, data, .dialing k⟩)
      (hdial : s.dialing.dials[k]? = some ⟨url, .finished (.error e)⟩) :
      Advance s i none (s.moveOn i (.returned none (.error e)))
  | queue {peer : RelayPeer} {data : List UInt8} {id : Nat} {registry : Registry}
      (h : s.sends[i]? = some ⟨peer, data, .queueing id⟩)
      (hqueue : s.registry.enqueue? id ⟨i, data⟩ = some registry) :
      Advance s i (some (id, ⟨i, data⟩))
        ({ s with dialing := { s.dialing with registry } }.moveOn i (.queued id))
  | closed {peer : RelayPeer} {data : List UInt8} {id : Nat}
      (h : s.sends[i]? = some ⟨peer, data, .queueing id⟩)
      (hqueue : s.registry.enqueue? id ⟨i, data⟩ = none) :
      Advance s i none (s.moveOn i (.returned (some id) (.error (.connectionClosed peer.toText))))
  | written {peer : RelayPeer} {data : List UInt8} {id : Nat} {c : Connection}
      (h : s.sends[i]? = some ⟨peer, data, .queued id⟩)
      (hc : s.registry.connections[id]? = some c) (hfate : c.fate? i = some .written) :
      Advance s i none (s.moveOn i (.returned (some id) (.ok ())))
  | lost {peer : RelayPeer} {data : List UInt8} {id : Nat} {c : Connection}
      (h : s.sends[i]? = some ⟨peer, data, .queued id⟩)
      (hc : s.registry.connections[id]? = some c) (hfate : c.fate? i = some .lost) :
      Advance s i none (s.moveOn i (.returned (some id) (.error (.connectionClosed peer.toText))))

theorem advance_advance (s : Sending) (i : Nat) :
    Advance s i (s.queues (.advance i)) (s.advance i) := by
  unfold advance queues
  dsimp only
  cases h : s.sends[i]? with
  | none => exact .stay
  | some x =>
      obtain ⟨peer, data, stage⟩ := x
      cases stage with
      | called =>
          dsimp only [lookUp]
          cases hfind : s.registry.find? peer with
          | some id => exact .find h hfind
          | none =>
              cases peer with
              | dialed url => exact .miss h
              | accepted addr => exact .refuse h
      | unconnected url => exact .dial h
      | dialing k =>
          dsimp only [dialed]
          split
          · rename_i hdial
            exact .connected h hdial
          · rename_i hdial
            exact .failed h hdial
          · exact .stay
      | queueing id =>
          dsimp only [Sending.queue]
          cases hqueue : s.registry.enqueue? id ⟨i, data⟩ with
          | some registry => exact .queue h hqueue
          | none => exact .closed h hqueue
      | queued id =>
          dsimp only [learn]
          cases hc : s.registry.connections[id]? with
          | none => exact .stay
          | some c =>
              dsimp only [Option.bind_some]
              cases hfate : c.fate? i with
              | none => exact .stay
              | some fate =>
                  cases fate with
                  | written => exact .written h hc hfate
                  | lost => exact .lost h hc hfate
      | returned | abandoned => exact .stay

/-! ### What holds at any time -/

/-- A connection is one to a peer. -/
def LeadsTo (r : Registry) (id : Nat) (peer : RelayPeer) : Prop :=
  ∃ c, r.connections[id]? = some c ∧ c.peer = peer

/-- How a send and what it shares with others fit together. -/
def Fits (d : Dialing) (i : Nat) (x : Send) : Prop :=
  match x.stage with
  | .called | .abandoned => True
  | .unconnected url => x.peer = .dialed url
  | .dialing k => ∃ y, d.dials[k]? = some y ∧ x.peer = .dialed y.url
  | .queueing id | .queued id => LeadsTo d.registry id x.peer
  | .returned used (.ok ()) => ∃ id c, used = some id ∧ d.registry.connections[id]? = some c ∧
      c.peer = x.peer ∧ ⟨i, x.data⟩ ∈ c.written
  | .returned used (.error e) => (∀ text, e ≠ .connectionClosed text) ∨
      ∃ id, used = some id ∧ e = .connectionClosed x.peer.toText ∧
        LeadsTo d.registry id x.peer ∧ d.registry.Gone id

theorem Fits.follow {d d' : Dialing} (h : Fits d i x) (hd : d.Follows d') : Fits d' i x := by
  have hleads : ∀ id, LeadsTo d.registry id x.peer → LeadsTo d'.registry id x.peer := by
    rintro id ⟨c, hc, hpeer⟩
    obtain ⟨c', hc', hon⟩ := hd.onward id c hc
    exact ⟨c', hc', hon.peer.trans hpeer⟩
  obtain ⟨peer, data, stage⟩ := x
  cases stage with
  | called | abandoned | unconnected => exact h
  | dialing k =>
      obtain ⟨y, hy, hpeer⟩ := h
      obtain ⟨y', hy', hurl⟩ := hd.dials k y hy
      exact ⟨y', hy', hurl ▸ hpeer⟩
  | queueing id | queued id => exact hleads id h
  | returned used result =>
      cases result with
      | ok =>
          obtain ⟨id, c, hused, hc, hpeer, hwritten⟩ := h
          obtain ⟨c', hc', hon⟩ := hd.onward id c hc
          exact ⟨id, c', hused, hc', hon.peer.trans hpeer, hon.written.subset hwritten⟩
      | error e =>
          rcases h with h | ⟨id, hused, he, hto, hgone⟩
          · exact .inl h
          · exact .inr ⟨id, hused, he, hleads id hto, hd.gone id hgone⟩

/-- A frame is that of a send, which has queued it. -/
def Logged (s : Sending) (f : Frame) : Prop :=
  ∃ x, s.sends[f.number]? = some x ∧ f.data = x.data ∧ x.stage.Past

/-- What holds of the sends, what they share and the log of what they queued. -/
structure Sound (s : Sending) (entries : List (Nat × Frame)) : Prop where
  dialing : s.dialing.Sound
  fits : ∀ (i : Nat) x, s.sends[i]? = some x → Fits s.dialing i x
  /-- The log tells which frames were queued with a connection. -/
  frames : ∀ id, s.registry.framesAt id = framesFor id entries
  logged : ∀ e ∈ entries, s.Logged e.2
  distinct : (entries.map fun e => e.2.number).Nodup

variable {entries : List (Nat × Frame)}

/-- Other things happen than to sends. -/
theorem Sound.below (h : Sound s entries) (e : Dialing.Event)
    (he : ∀ id f, e ≠ .connection (.enqueue id f)) :
    Sound { s with dialing := s.dialing.step e } entries where
  dialing := h.dialing.step e
  fits i x hi := (h.fits i x hi).follow (s.dialing.follows_step e)
  frames id := (s.dialing.framesAt_step e he id).trans (h.frames id)
  logged := h.logged
  distinct := h.distinct

theorem Logged.moveOn {f : Frame} (h : s.Logged f) (hi : s.sends[i]? = some ⟨peer, data, stage⟩)
    (hpast : stage.Past → stage'.Past) : (s.moveOn i stage').Logged f := by
  obtain ⟨x, hx, hdata, hx'⟩ := h
  by_cases hne : f.number = i
  · rw [hne] at hx
    cases hi.symm.trans hx
    exact ⟨_, getElem?_moveOn.mpr (.inr ⟨hne, _, hi, rfl⟩), hdata, hpast hx'⟩
  · exact ⟨x, getElem?_moveOn.mpr (.inl ⟨hne, hx⟩), hdata, hx'⟩

/-- A send moves on and queues nothing. -/
theorem Sound.moveOn (h : Sound s entries) (hi : s.sends[i]? = some ⟨peer, data, stage⟩)
    (hfits : Fits s.dialing i ⟨peer, data, stage'⟩) (hpast : stage.Past → stage'.Past) :
    Sound (s.moveOn i stage') entries := by
  refine ⟨h.dialing, fun j y hj => ?_, h.frames, fun e he => (h.logged e he).moveOn hi hpast,
    h.distinct⟩
  rcases getElem?_moveOn.mp hj with ⟨-, hj⟩ | ⟨rfl, x, hx, rfl⟩
  · exact h.fits j y hj
  · cases hi.symm.trans hx
    exact hfits

/-- A send queues its frame, which is the first one of its number. -/
theorem Sound.queue {id : Nat} {registry : Registry} (h : Sound s entries)
    (hi : s.sends[i]? = some ⟨peer, data, .queueing id⟩)
    (hqueue : s.registry.enqueue? id ⟨i, data⟩ = some registry) :
    Sound ({ s with dialing := { s.dialing with registry } }.moveOn i (.queued id))
      (entries ++ [(id, ⟨i, data⟩)]) := by
  have hstep : { s.dialing with registry } = s.dialing.step (.connection (.enqueue id ⟨i, data⟩)) := by
    have hqueue' : s.dialing.registry.enqueue? id ⟨i, data⟩ = some registry := hqueue
    rw [Dialing.step, Registry.step, hqueue', Option.getD_some]
    simp
  have hfollows := s.dialing.follows_step (.connection (.enqueue id ⟨i, data⟩))
  rw [← hstep] at hfollows
  have hpast : SendStage.Past (.queueing id) → SendStage.Past (.queued id) := fun h => h.elim
  refine ⟨?_, fun j y hj => ?_, fun n => ?_, fun e he => ?_, ?_⟩
  · show Dialing.Sound { s.dialing with registry }
    rw [hstep]
    exact h.dialing.step _
  · refine Fits.follow (d := s.dialing) ?_ hfollows
    rcases getElem?_moveOn.mp hj with ⟨-, hj⟩ | ⟨rfl, x, hx, rfl⟩
    · exact h.fits j y hj
    · cases hi.symm.trans hx
      have hto : LeadsTo s.dialing.registry id peer := h.fits j _ hi
      exact hto
  · rw [framesFor_concat, ← h.frames]
    exact Registry.framesAt_enqueue? hqueue n
  · rcases List.mem_append.mp he with he | he
    · exact (h.logged e he).moveOn (s := { s with dialing := { s.dialing with registry } }) hi hpast
    · obtain rfl := List.mem_singleton.mp he
      exact ⟨_, getElem?_moveOn.mpr (.inr ⟨rfl, _, hi, rfl⟩), rfl, trivial⟩
  · -- a frame of this number would be in the log of a send that has not queued yet
    rw [List.map_append, List.nodup_append]
    refine ⟨h.distinct, by simp, fun n hn m hm => ?_⟩
    obtain ⟨e, he, rfl⟩ := List.mem_map.mp hn
    rw [List.map_singleton, List.mem_singleton] at hm
    subst hm
    intro hnumber
    obtain ⟨x, hx, -, hpast⟩ := h.logged e he
    rw [hnumber] at hx
    cases hi.symm.trans hx
    exact hpast

/-- A send begins to dial. -/
theorem Sound.dial {url : RelayUrl} (h : Sound s entries)
    (hi : s.sends[i]? = some ⟨peer, data, .unconnected url⟩) : Sound (s.dial i url) entries := by
  refine (h.below (.begin url) (by simp)).moveOn hi ?_ fun h => h.elim
  have hpeer : peer = .dialed url := h.fits i _ hi
  have hlast : ∃ l, (s.dialing.begin url).dials = s.dialing.dials ++ [⟨url, .waiting l⟩] := by
    unfold Dialing.begin
    split
    · exact ⟨_, rfl⟩
    · exact ⟨_, rfl⟩
  obtain ⟨l, hl⟩ := hlast
  refine ⟨⟨url, .waiting l⟩, ?_, hpeer⟩
  show (s.dialing.begin url).dials[_]? = _
  rw [hl]
  exact List.getElem?_concat_length

/-- The frame of a send that was settled is its own. -/
theorem Sound.mem_settled {id : Nat} {c : Connection} {fate : Fate} (h : Sound s entries)
    (hi : s.sends[i]? = some x) (hc : s.registry.connections[id]? = some c)
    (hfate : c.fate? i = some fate) : (⟨i, x.data⟩, fate) ∈ c.settled := by
  obtain ⟨f, hnumber, hf⟩ := Connection.exists_mem_of_fate? hfate
  have hframes : f ∈ s.registry.framesAt id := by
    rw [Registry.framesAt_eq hc, Connection.frames]
    exact List.mem_append_left _ (List.mem_append_left _ (List.mem_map_of_mem (f := Prod.fst) hf))
  rw [h.frames, mem_framesFor] at hframes
  obtain ⟨y, hy, hdata, -⟩ := h.logged _ hframes
  obtain ⟨number, fdata⟩ := f
  subst hnumber
  cases hi.symm.trans hy
  cases hdata
  exact hf

theorem Sound.advance (h : Sound s entries) (i : Nat) :
    Sound (s.advance i) (entries ++ (s.queues (.advance i)).toList) := by
  have hmove := advance_advance s i
  generalize s.advance i = s' at hmove
  generalize s.queues (.advance i) = queued at hmove
  cases hmove
  case queue hi hqueue => exact h.queue hi hqueue
  all_goals rw [Option.toList_none, List.append_nil]
  case stay => exact h
  case find hi hfind => exact h.moveOn hi (h.dialing.registry.placed _ _ hfind) fun h => h.elim
  case miss hi => exact h.moveOn hi rfl fun h => h.elim
  case refuse hi => exact h.moveOn hi (.inl (by simp)) fun h => h.elim
  case dial hi => exact h.dial hi
  case connected peer data k id url hi hdial =>
    refine h.moveOn hi ?_ fun h => h.elim
    obtain ⟨y, hy, hpeer⟩ := h.fits i _ hi
    cases hdial.symm.trans hy
    obtain ⟨c, hc, hto⟩ := (h.dialing.fits k _ hdial).achieved _ rfl
    exact ⟨c, hc, hto.trans hpeer.symm⟩
  case failed hi hdial =>
    refine h.moveOn hi (.inl ?_) fun h => h.elim
    obtain ⟨fault, hfault⟩ := (h.dialing.fits _ _ hdial).achieved _ rfl
    intro text
    rw [hfault]
    cases fault <;> simp [ConnectFault.error]
  case closed hi hqueue =>
    refine h.moveOn hi (.inr ?_) fun h => h.elim
    obtain ⟨c, hc, hto⟩ := h.fits i _ hi
    have hstopped : c.writer ≠ .taking := by
      rw [Registry.enqueue?_eq_none hc hqueue]
      simp
    have hgone := h.dialing.registry.gone hc (h.dialing.registry.stopped _ c hc hstopped)
    exact ⟨_, rfl, rfl, ⟨c, hc, hto⟩, hgone⟩
  case written peer data id c hi hc hfate =>
    have hsettled := h.mem_settled hi hc hfate
    refine h.moveOn hi ?_ fun _ => trivial
    obtain ⟨c', hc', hto⟩ := h.fits i _ hi
    cases hc.symm.trans hc'
    exact ⟨id, c, rfl, hc, hto, Connection.mem_written.mpr hsettled⟩
  case lost peer data id c hi hc hfate =>
    have hstopped :=
      (h.dialing.registry.ordered id c hc).stopped_of_lost (h.mem_settled hi hc hfate)
    refine h.moveOn hi (.inr ?_) fun _ => trivial
    obtain ⟨c', hc', hto⟩ := h.fits i _ hi
    cases hc.symm.trans hc'
    have hgone := h.dialing.registry.gone hc (h.dialing.registry.stopped id c hc hstopped)
    exact ⟨id, rfl, rfl, ⟨c, hc, hto⟩, hgone⟩

/-! ### Every step -/

theorem Sound.abandon (h : Sound s entries) (i : Nat) : Sound (s.abandon i) entries := by
  unfold Sending.abandon
  cases hi : s.sends[i]? with
  | none => exact h
  | some x =>
      obtain ⟨peer, data, stage⟩ := x
      cases stage with
      | returned => exact h
      | dialing k => exact (h.below (.abandon k) (by simp)).moveOn hi trivial fun h => h.elim
      | _ => exact h.moveOn hi trivial fun _ => trivial

theorem Sound.call (h : Sound s entries) (peer : RelayPeer) (data : List UInt8) :
    Sound (s.call peer data) entries := by
  refine ⟨h.dialing, fun i x hi => ?_, h.frames, fun e he => ?_, h.distinct⟩
  · rcases getElem?_concat_eq_some.mp hi with hi | ⟨-, rfl⟩
    · exact h.fits i x hi
    · exact trivial
  · obtain ⟨x, hx, hdata, hpast⟩ := h.logged e he
    exact ⟨x, getElem?_concat_eq_some.mpr (.inl hx), hdata, hpast⟩

/-- Dials are begun by sends only, and frames are queued by sends only. -/
theorem step_below (s : Sending) (e : Dialing.Event) :
    s.step (.below e) = s ∨
      s.step (.below e) = { s with dialing := s.dialing.step e } ∧
        ∀ id f, e ≠ .connection (.enqueue id f) := by
  cases e with
  | begin | abandon => exact .inl rfl
  | advance | connected => exact .inr ⟨rfl, by simp⟩
  | connection event =>
      cases event with
      | enqueue => exact .inl rfl
      | _ => exact .inr ⟨rfl, by simp⟩

theorem Sound.step (h : Sound s entries) (e : Event) :
    Sound (s.step e) (entries ++ (s.queues e).toList) := by
  cases e with
  | advance i => exact h.advance i
  | call peer data => simpa [queues, Sending.step] using h.call peer data
  | abandon i => simpa [queues, Sending.step] using h.abandon i
  | below e =>
      rcases step_below s e with heq | ⟨heq, he⟩ <;> rw [heq]
      · simpa [queues] using h
      · simpa [queues] using h.below e he

theorem sound_empty : Sound empty [] := by
  have hnone : ∀ i : Nat, empty.sends[i]? = none := fun _ => rfl
  refine ⟨Dialing.sound_empty, fun i x hi => ?_, fun _ => rfl, by simp, List.nodup_nil⟩
  cases (hnone i).symm.trans hi

theorem sound_run (events : List Event) : Sound (run events) (empty.log events) := by
  induction events using List.reverseRecOn with
  | nil => exact sound_empty
  | append_singleton events e ih =>
      rw [run_concat, log_concat]
      exact ih.step e

/-! ### What senders can rely on -/

/-- Whatever happens to connections happens by events of theirs; only the ends of connections
happen by themselves. -/
theorem registry_step (s : Sending) (e : Event) :
    (s.step e).registry = s.registry ∨
      ∃ event, (s.step e).registry = s.registry.step event ∧
        ((∃ p, event = .register p) ∨ (∃ id f, event = .enqueue id f) ∨
          e = .below (.connection event)) := by
  have hdialing : ∀ e', (∀ event, e' ≠ .connection event) →
      (s.dialing.step e').registry = s.registry ∨
        ∃ event, (s.dialing.step e').registry = s.registry.step event ∧
          ((∃ p, event = .register p) ∨ (∃ id f, event = .enqueue id f) ∨
            e = .below (.connection event)) := by
    intro e' he'
    rcases s.dialing.registry_step_cases e' with heq | ⟨event, heq, hevent⟩
    · exact .inl heq
    · exact .inr ⟨event, heq, .inl (hevent.resolve_right (he' event))⟩
  cases e with
  | call => exact .inl rfl
  | advance i =>
      rw [step]
      have hmove := advance_advance s i
      generalize s.advance i = s' at hmove
      generalize s.queues (.advance i) = queued at hmove
      cases hmove with
      | @dial peer data url => exact hdialing (.begin url) (by simp)
      | @queue peer data id registry hi hqueue =>
          refine .inr ⟨.enqueue id ⟨i, data⟩, ?_, .inr (.inl ⟨_, _, rfl⟩)⟩
          rw [Registry.step, hqueue, Option.getD_some]
          rfl
      | _ => exact .inl rfl
  | abandon i =>
      rw [step, Sending.abandon]
      cases s.sends[i]? with
      | none => exact .inl rfl
      | some x =>
          obtain ⟨peer, data, stage⟩ := x
          cases stage with
          | dialing k => exact hdialing (.abandon k) (by simp)
          | _ => exact .inl rfl
  | below e' =>
      rcases step_below s e' with heq | ⟨heq, -⟩ <;> rw [heq]
      · exact .inl rfl
      rcases s.dialing.registry_step_cases e' with heq | ⟨event, heq, hevent⟩
      · exact .inl heq
      · exact .inr ⟨event, heq, hevent.imp_right fun h => .inr (congrArg _ h)⟩

/-- A peer's connection stays current, unless a newer one takes its place or it ends itself. -/
theorem Sound.kept {p : RelayPeer} {id : Nat} (h : Sound s entries) (e : Event)
    (hfind : s.registry.find? p = some id) :
    (s.step e).registry.find? p = some id ∨
      (∃ newer, id < newer ∧ (s.step e).registry.find? p = some newer) ∨
      (s.step e).registry.find? p = none ∧
        ∃ event, e = .below (.connection event) ∧ event.Ends id := by
  rcases registry_step s e with heq | ⟨event, heq, hevent⟩ <;> rw [heq]
  · exact .inl hfind
  rcases h.dialing.registry.find?_step hfind event with hkept | hnewer | ⟨hnone, hends⟩
  · exact .inl hkept
  · exact .inr (.inl hnewer)
  refine .inr (.inr ⟨hnone, event, ?_, hends⟩)
  rcases hevent with ⟨p, rfl⟩ | ⟨id, f, rfl⟩ | he
  · exact hends.elim
  · exact hends.elim
  · exact he

/-- The frames that were sent over a connection are the first of those queued with it. -/
theorem Sound.inOrder {id : Nat} {c : Connection} (h : Sound s entries)
    (hc : s.registry.connections[id]? = some c) : c.written <+: framesFor id entries := by
  rw [← h.frames, Registry.framesAt_eq hc]
  exact (h.dialing.registry.ordered id c hc).written_first

/-- Frames that were sent have numbers of their own, all over the connections. -/
theorem Sound.eq_of_number {id id' : Nat} {c c' : Connection} {f f' : Frame} (h : Sound s entries)
    (hc : s.registry.connections[id]? = some c) (hc' : s.registry.connections[id']? = some c')
    (hf : f ∈ c.written) (hf' : f' ∈ c'.written) (hnumber : f.number = f'.number) :
    id = id' ∧ f = f' := by
  have hmem := mem_framesFor.mp ((h.inOrder hc).subset hf)
  have hmem' := mem_framesFor.mp ((h.inOrder hc').subset hf')
  have heq := List.inj_on_of_nodup_map h.distinct hmem hmem' hnumber
  exact ⟨congrArg Prod.fst heq, congrArg Prod.snd heq⟩

theorem Sound.once {id : Nat} {c : Connection} (h : Sound s entries)
    (hc : s.registry.connections[id]? = some c) : (c.written.map (·.number)).Nodup := by
  have hsublist : ((framesFor id entries).map (·.number)).Sublist
      (entries.map fun e => e.2.number) := by
    rw [framesFor, List.map_map]
    exact List.filter_sublist.map _
  exact (h.distinct.sublist hsublist).sublist ((h.inOrder hc).sublist.map _)

/-- What is promised of connections and sends, whatever the order of their steps. -/
structure Accountable (events : List Event) : Prop where
  /-- The current connection of a peer is one to that peer. -/
  placed : ∀ p id, (run events).registry.find? p = some id →
    LeadsTo (run events).registry id p
  /-- A connection is current, or was told to end. -/
  cancelled : ∀ (id : Nat) c, (run events).registry.connections[id]? = some c →
    (run events).registry.find? c.peer = some id ∨ c.cancelled = true
  /-- A peer's connection stays current, unless a newer one takes its place or it ends itself; the
  end of another one changes nothing. -/
  kept : ∀ (e : Event) p id, (run events).registry.find? p = some id →
    ((run events).step e).registry.find? p = some id ∨
      (∃ newer, id < newer ∧ ((run events).step e).registry.find? p = some newer) ∨
      ((run events).step e).registry.find? p = none ∧
        ∃ event, e = .below (.connection event) ∧ event.Ends id
  /-- The frame of a send that returns without an error was written to a connection to its peer. -/
  written : ∀ (i : Nat) x used, (run events).sends[i]? = some x → x.stage = .returned used (.ok ()) →
    ∃ id c, used = some id ∧ (run events).registry.connections[id]? = some c ∧
      c.peer = x.peer ∧ ⟨i, x.data⟩ ∈ c.written
  /-- A frame is written at most once to a connection. -/
  once : ∀ (id : Nat) c, (run events).registry.connections[id]? = some c →
    (c.written.map (·.number)).Nodup
  /-- A frame is written to one connection at most. -/
  single : ∀ (id id' : Nat) c c' f f', (run events).registry.connections[id]? = some c →
    (run events).registry.connections[id']? = some c' → f ∈ c.written → f' ∈ c'.written →
      f.number = f'.number → id = id' ∧ f = f'
  /-- Frames are written to a connection in the order in which they were queued. -/
  inOrder : ∀ (id : Nat) c, (run events).registry.connections[id]? = some c →
    c.written <+: queuedWith events id
  /-- A send that learns that its connection closed had one to its peer, and that one is not current
  any more. -/
  closed : ∀ (i : Nat) x used text, (run events).sends[i]? = some x →
    x.stage = .returned used (.error (.connectionClosed text)) →
      ∃ id, used = some id ∧ LeadsTo (run events).registry id x.peer ∧
        ∀ p, (run events).registry.find? p ≠ some id

/-- **Senders are told what became of their frames.**  However connections are registered, replaced
and ended, and in whatever order the sends, the dials, the readers and the writers take their
steps. -/
theorem accountable_run (events : List Event) : Accountable events where
  placed p id hfind := (sound_run events).dialing.registry.placed p id hfind
  cancelled id c hc := (sound_run events).dialing.registry.cancelled id c hc
  kept e _ _ hfind := (sound_run events).kept e hfind
  written i x used hi hstage := by
    have hfits := (sound_run events).fits i x hi
    rw [Fits, hstage] at hfits
    exact hfits
  once _ _ hc := (sound_run events).once hc
  single _ _ _ _ _ _ hc hc' hf hf' hnumber := (sound_run events).eq_of_number hc hc' hf hf' hnumber
  inOrder _ _ hc := (sound_run events).inOrder hc
  closed i x used text hi hstage := by
    have hfits := (sound_run events).fits i x hi
    rw [Fits, hstage] at hfits
    rcases hfits with hother | ⟨id, hused, -, hto, hgone⟩
    · exact absurd rfl (hother text)
    · exact ⟨id, hused, hto, hgone.2⟩

end Sending

end TunnelMesh.Transport

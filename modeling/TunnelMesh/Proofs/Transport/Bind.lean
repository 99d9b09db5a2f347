/-
A bind is open as a whole or not at all, where its queues can be made.

A transport that is open refuses to be opened, and a closed one that cannot be opened
stays as it is.  So opening the transports of a closed bind one after the other opens
them all, or fails and closes again those that it opened; and opening an open bind fails
at its first transport, before there is anything to close again.

Which sockets can be set up is up to the host, and any host will do.  The queues are not:
one with too many places cannot be made, and then opening breaks off and leaves open what
it had opened.  `HasRoom` is what keeps a bind from this.
-/
import Mathlib.Data.List.Induction
import TunnelMesh.Transport.Traffic

namespace TunnelMesh.Transport

variable {σ : Type} [Sockets σ]

/-! ### Single transports -/

namespace Member

variable {t : Member}

/-- Whether the queue of a transport can be made, if it needs one. -/
def hasRoom : Member → Bool
  | .udp _ => true
  | .webSocket t => t.settings.listen.isNone || isCapacity t.settings.places

/-- What a transport is, open or not: its kind, and whether its queue can be made. -/
def make (t : Member) : Kind × Bool := (t.kind, t.hasRoom)

/-- What is seen of a transport from outside: what it is, and whether it is open. -/
def shape (t : Member) : (Kind × Bool) × Bool := (t.make, t.isOpen)

@[simp] theorem make_close (t : Member) : t.close.make = t.make := by
  cases t <;> rfl

@[simp] theorem isOpen_close (t : Member) : t.close.isOpen = false := by
  cases t <;> rfl

theorem close_eq_self (h : t.isOpen = false) : t.close = t := by
  cases t with
  | udp t =>
      have hsocket : t.socket = none := Option.isSome_eq_false_iff.mp h |> Option.isNone_iff_eq_none.mp
      rw [close, UdpTransport.close, ← hsocket]
  | webSocket t =>
      have hstate : t.state = none := Option.isSome_eq_false_iff.mp h |> Option.isNone_iff_eq_none.mp
      rw [close, RelayTransport.close, ← hstate]

/-- An open transport is not opened again. -/
theorem openOn_of_isOpen (h : t.isOpen = true) (host : σ) (port : UInt16) :
    t.openOn host port = (.error (.failed (.alreadyOpen t.kind)), t, host) := by
  cases t with
  | udp t =>
      have hopen : t.openOn host port = (.error (.alreadyOpen .udp), t, host) := if_pos h
      rw [openOn, hopen]
      rfl
  | webSocket t =>
      have hopen : t.openOn host = (.error (.failed (.alreadyOpen .webSocket)), t, host) := if_pos h
      rw [openOn, hopen]
      rfl

/-- What may come of opening a transport: it was closed, is open and has sent nothing, and closing it
takes it back; or it is as it was. -/
inductive Opening (t : Member) :
    Except (Fault BindError) (Option UInt16) × Member × σ → Prop where
  | opened {p : Option UInt16} {t' : Member} {host : σ} (hclosed : t.isOpen = false)
      (hopen : t'.isOpen = true) (hclose : t'.close = t)
      (hsending : ∀ s, t'.sending? = some s → s = .empty) :
      Opening t (.ok p, t', host)
  | failed (e : BindError) (host : σ) : Opening t (.error (.failed e), t, host)
  | broken (hroom : t.hasRoom = false) (host : σ) : Opening t (.error .broken, t, host)

theorem opening_udp {t : UdpTransport} (h : t.socket = none) (host : σ) (port : UInt16) :
    Opening (.udp t) ((Member.udp t).openOn host port) := by
  unfold openOn UdpTransport.openOn
  dsimp only
  rw [h, if_neg (by simp)]
  rcases Sockets.bindDatagram host t.ip port with ⟨e | socket, host⟩
  · exact .failed (.io e) host
  dsimp only
  rcases UdpTransport.applyMark host socket t.mark with ⟨e | _, host⟩
  · exact .failed e host
  · refine .opened (by simp [isOpen, h]) rfl ?_ fun s hs => by cases hs
    rw [close, UdpTransport.close, ← h]

theorem opening_webSocket {t : RelayTransport} (h : t.state = none) (host : σ) (port : UInt16) :
    Opening (.webSocket t) ((Member.webSocket t).openOn host port) := by
  -- an open transport without sends is closed to what it was
  have hopened : ∀ (local? : Option Net.SocketAddress) (host : σ),
      Opening (.webSocket t)
        (.ok none, .webSocket { t with state := some ⟨.empty, local?⟩ }, host) := by
    intro local? host
    refine .opened (by simp [isOpen, h]) rfl ?_ fun s hs => (Option.some.inj hs).symm
    rw [close, RelayTransport.close, ← h]
  unfold openOn RelayTransport.openOn
  dsimp only
  rw [h, if_neg (by simp)]
  cases hlisten : t.settings.listen with
  | none => exact hopened none host
  | some addr =>
      dsimp only
      rcases Sockets.listen host addr with ⟨e | bound, host⟩
      · exact .failed (.io e) host
      dsimp only
      cases hplaces : isCapacity t.settings.places with
      | true => exact hopened (some bound) host
      | false =>
          refine .broken ?_ host
          rw [hasRoom, hlisten, hplaces]
          rfl

/-- **A transport is opened, or stays as it is.** -/
theorem opening_openOn (t : Member) (host : σ) (port : UInt16) :
    Opening t (t.openOn host port) := by
  cases hopen : t.isOpen with
  | true =>
      rw [openOn_of_isOpen hopen]
      exact .failed _ host
  | false =>
      cases t with
      | udp t => exact opening_udp (by simpa [isOpen] using hopen) host port
      | webSocket t => exact opening_webSocket (by simpa [isOpen] using hopen) host port

theorem shape_send (t : Member) (host : σ) (data : List UInt8) (dest : Endpoint) :
    (t.send host data dest).2.1.shape = t.shape := by
  cases t with
  | udp t => cases dest <;> rfl
  | webSocket t =>
      cases dest with
      | udp addr => rfl
      | relay peer =>
          unfold send RelayTransport.send
          dsimp only
          cases hstate : t.state with
          | none => simp [shape, make, isOpen, hstate, kind, hasRoom]
          | some s => simp [shape, make, isOpen, hstate, kind, hasRoom]

theorem shape_setMark (t : Member) (host : σ) (mark : UInt32) :
    (t.setMark host mark).2.1.shape = t.shape := by
  cases t with
  | udp t =>
      unfold setMark UdpTransport.setMark
      dsimp only
      cases hsocket : t.socket with
      | none => simp [shape, make, isOpen, kind, hasRoom, hsocket]
      | some socket => simp [shape, make, isOpen, kind, hasRoom, hsocket]
  | webSocket t => rfl

theorem shape_step (t : Member) (e : Sending.Event) : (t.step e).shape = t.shape := by
  cases t with
  | udp t => rfl
  | webSocket t => simp [step, RelayTransport.step, shape, make, isOpen, kind, hasRoom]

end Member

/-! ### All transports of a bind -/

namespace MultiBind

variable {b b' : MultiBind} {ts : List Member}

/-- Transports that were closed, are open and have sent nothing; closing them takes them back. -/
structure Opens (ts ts' : List Member) : Prop where
  closed : ∀ t ∈ ts, t.isOpen = false
  isOpen : ∀ t ∈ ts', t.isOpen = true
  close : ts'.map Member.close = ts
  sending : ∀ t ∈ ts', ∀ s, t.sending? = some s → s = .empty

theorem Opens.map_make {ts' : List Member} (h : Opens ts ts') :
    ts'.map Member.make = ts.map Member.make := by
  rw [← h.close, List.map_map]
  exact List.map_congr_left fun t _ => t.make_close.symm

theorem Opens.nil : Opens [] [] := ⟨by simp, by simp, rfl, by simp⟩

theorem Opens.cons {t t' : Member} {ts ts' : List Member} (h : Opens ts ts')
    (hclosed : t.isOpen = false) (hopen : t'.isOpen = true) (hclose : t'.close = t)
    (hsending : ∀ s, t'.sending? = some s → s = .empty) : Opens (t :: ts) (t' :: ts') where
  closed := List.forall_mem_cons.mpr ⟨hclosed, h.closed⟩
  isOpen := List.forall_mem_cons.mpr ⟨hopen, h.isOpen⟩
  close := by rw [List.map_cons, hclose, h.close]
  sending := List.forall_mem_cons.mpr ⟨hsending, h.sending⟩

/-- Opening transports one after the other opens them all, or leaves them as they were; or it breaks
off at one whose queue cannot be made, and leaves those before it open. -/
inductive OpeningAll (ts : List Member) :
    Except (Fault BindError) (Option UInt16) × List Member × σ → Prop where
  | opened {p : Option UInt16} {ts' : List Member} {host : σ} (h : Opens ts ts') :
      OpeningAll ts (.ok p, ts', host)
  | failed (e : BindError) (host : σ) : OpeningAll ts (.error (.failed e), ts, host)
  | broken {front front' back : List Member} {t : Member} (hts : ts = front ++ t :: back)
      (h : Opens front front') (hroom : t.hasRoom = false) (host : σ) :
      OpeningAll ts (.error .broken, front' ++ t :: back, host)

theorem openingAll_openAll (ts : List Member) (host : σ) (port : UInt16) :
    OpeningAll ts (openAll host port ts) := by
  induction ts generalizing host with
  | nil => exact .opened .nil
  | cons t ts ih =>
      have ht := Member.opening_openOn t host port
      unfold openAll
      generalize t.openOn host port = x at ht
      cases ht with
      | failed e host => exact .failed e host
      | broken hroom host => exact .broken (by rfl) .nil hroom host
      | @opened p t' host hclosed hopen hclose hsending =>
          have hts := ih host
          dsimp only
          generalize openAll host port ts = y at hts
          cases hts with
          | failed e host =>
              dsimp only
              rw [hclose]
              exact .failed e host
          | broken hts h hroom host =>
              subst hts
              exact .broken (by rfl) (h.cons hclosed hopen hclose hsending) hroom host
          | opened h => exact .opened (h.cons hclosed hopen hclose hsending)

/-- Opening ends as the opening of a transport does. -/
theorem exists_openOn_error {host : σ} {port : UInt16} {f : Fault BindError}
    (h : (openAll host port ts).1 = .error f) :
    ∃ t ∈ ts, ∃ host : σ, (t.openOn host port).1 = .error f := by
  induction ts generalizing host with
  | nil => cases h
  | cons t ts ih =>
      rw [openAll] at h
      rcases ht : t.openOn host port with ⟨f' | p, t', host'⟩
      · rw [ht] at h
        cases h
        exact ⟨t, by simp, host, by rw [ht]⟩
      · rw [ht] at h
        dsimp only at h
        have hrest : (openAll host' port ts).1 = .error f := by
          generalize openAll host' port ts = y at h
          obtain ⟨(e | _) | q, ts', host''⟩ := y <;> cases h <;> rfl
        obtain ⟨u, hu, host, herror⟩ := ih hrest
        exact ⟨u, by simp [hu], host, herror⟩

theorem openAll_of_isOpen {t : Member} (h : t.isOpen = true) (host : σ) (port : UInt16) :
    openAll host port (t :: ts) = (.error (.failed (.alreadyOpen t.kind)), t :: ts, host) := by
  rw [openAll, Member.openOn_of_isOpen h]

theorem shape_markAll (host : σ) (mark : UInt32) (ts : List Member) :
    (markAll host mark ts).2.1.map Member.shape = ts.map Member.shape := by
  induction ts generalizing host with
  | nil => rfl
  | cons t ts ih =>
      have ht := Member.shape_setMark t host mark
      simp only [markAll, List.map_cons, ih, ht]

/-! ### Open and closed binds -/

/-- Every transport is open, and there is a queue. -/
structure Opened (b : MultiBind) : Prop where
  members : ∀ t ∈ b.members, t.isOpen = true
  inbox : b.inbox.isSome = true

/-- No transport is open, and there is no queue. -/
structure Closed (b : MultiBind) : Prop where
  members : ∀ t ∈ b.members, t.isOpen = false
  inbox : b.inbox = none

/-- Every queue of a bind can be made. -/
structure HasRoom (b : MultiBind) : Prop where
  queue : isCapacity b.queueSize = true
  members : ∀ t ∈ b.members, t.hasRoom = true

/-- A bind has the transports of another, whether they are open or not, and the size of its queue. -/
structure Keeps (b b' : MultiBind) : Prop where
  make : b'.members.map Member.make = b.members.map Member.make
  queueSize : b'.queueSize = b.queueSize

theorem Keeps.refl (b : MultiBind) : Keeps b b := ⟨rfl, rfl⟩

theorem Keeps.map_kind (h : Keeps b b') : b'.members.map Member.kind = b.members.map Member.kind := by
  have hmake := congrArg (List.map Prod.fst) h.make
  rwa [List.map_map, List.map_map] at hmake

theorem Keeps.hasRoom (h : Keeps b b') (hb : b.HasRoom) : b'.HasRoom := by
  refine ⟨by rw [h.queueSize]; exact hb.queue, fun t ht => ?_⟩
  have hmake : t.make ∈ b.members.map Member.make := by
    rw [← h.make]
    exact List.mem_map_of_mem ht
  obtain ⟨u, hu, heq⟩ := List.mem_map.mp hmake
  rw [← hb.members u hu]
  exact (congrArg Prod.snd heq).symm

/-- A bind that differs from another only within its transports and its queue is open or closed as
the other is. -/
structure Alike (b b' : MultiBind) : Prop where
  shape : b'.members.map Member.shape = b.members.map Member.shape
  inbox : b'.inbox.isSome = b.inbox.isSome
  queueSize : b'.queueSize = b.queueSize

theorem Alike.refl (b : MultiBind) : Alike b b := ⟨rfl, rfl, rfl⟩

theorem Alike.keeps (h : Alike b b') : Keeps b b' := by
  refine ⟨?_, h.queueSize⟩
  have hshape := congrArg (List.map Prod.fst) h.shape
  rwa [List.map_map, List.map_map] at hshape

theorem Alike.isOpen {o : Bool} (h : Alike b b') (hb : ∀ t ∈ b.members, t.isOpen = o) :
    ∀ t ∈ b'.members, t.isOpen = o := by
  intro t ht
  have hshape : t.shape ∈ b.members.map Member.shape := by
    rw [← h.shape]
    exact List.mem_map_of_mem ht
  obtain ⟨u, hu, heq⟩ := List.mem_map.mp hshape
  rw [← hb u hu]
  exact (congrArg Prod.snd heq).symm

theorem Alike.opened (h : Alike b b') (hb : b.Opened) : b'.Opened :=
  ⟨h.isOpen hb.members, h.inbox.trans hb.inbox⟩

theorem Alike.closed (h : Alike b b') (hb : b.Closed) : b'.Closed := by
  refine ⟨h.isOpen hb.members, ?_⟩
  have hinbox := h.inbox
  rw [hb.inbox] at hinbox
  simpa using hinbox

/-- What may come of opening a bind: its transports were closed and are open, and it has an empty
queue; or it is as it was; or opening broke off, where it has no room, with the first of its transports
open. -/
inductive Opening (b : MultiBind) : Except (Fault BindError) UInt16 × MultiBind × σ → Prop where
  | opened {p : UInt16} {ts' : List Member} {host : σ} (h : Opens b.members ts') :
      Opening b (.ok p, { b with members := ts', inbox := some (.ofCapacity b.queueSize) }, host)
  | failed (e : BindError) (host : σ) : Opening b (.error (.failed e), b, host)
  | broken {front front' back : List Member} (hmembers : b.members = front ++ back)
      (h : Opens front front') (hroom : ¬b.HasRoom) (host : σ) :
      Opening b (.error .broken, { b with members := front' ++ back }, host)

/-- **A bind is opened as a whole, or stays as it is**, unless it has no room. -/
theorem opening_openOn (b : MultiBind) (host : σ) (port : UInt16) :
    Opening b (b.openOn host port) := by
  unfold openOn
  by_cases hqueue : isCapacity b.queueSize = true
  · rw [if_pos hqueue]
    have hall := openingAll_openAll b.members host port
    generalize openAll host port b.members = x at hall
    cases hall with
    | opened h => exact .opened h
    | failed e host => exact .failed e host
    | @broken _ _ _ t hmembers h hroom host =>
        refine .broken hmembers h (fun hb => ?_) host
        have htrue := hb.members t (by simp [hmembers])
        rw [hroom] at htrue
        cases htrue
  · rw [if_neg hqueue]
    exact .broken (by rfl) .nil (fun hb => hqueue hb.queue) host

/-- **An open bind is not opened again**, and stays as it is. -/
theorem Opened.openOn_eq {t : Member} (h : b.Opened) (hqueue : isCapacity b.queueSize = true)
    (ht : b.members.head? = some t) (host : σ) (port : UInt16) :
    b.openOn host port = (.error (.failed (.alreadyOpen t.kind)), b, host) := by
  obtain ⟨rest, hmembers⟩ := List.head?_eq_some_iff.mp ht
  rw [openOn, if_pos hqueue, hmembers, openAll_of_isOpen (h.members t (by simp [hmembers]))]
  simp [← hmembers]

theorem closed_close (b : MultiBind) : b.close.Closed := by
  refine ⟨fun t ht => ?_, rfl⟩
  obtain ⟨u, -, rfl⟩ := List.mem_map.mp ht
  exact u.isOpen_close

/-- Closing a closed bind changes nothing. -/
theorem Closed.close_eq (h : b.Closed) : b.close = b := by
  have hmembers : b.members.map Member.close = b.members.map id :=
    List.map_congr_left fun t ht => Member.close_eq_self (h.members t ht)
  rw [close, hmembers, List.map_id, ← h.inbox]

theorem Closed.not_opened (h : b.Closed) : ¬b.Opened := by
  intro hopened
  have hinbox := hopened.inbox
  rw [h.inbox] at hinbox
  cases hinbox

/-- Nothing is received from a closed bind. -/
theorem Closed.receive_eq (h : b.Closed) : b.receive = (.error .closed, b) := by
  rw [receive, h.inbox]

/-! ### Other calls -/

theorem alike_setMark (b : MultiBind) (host : σ) (mark : UInt32) :
    Alike b (b.setMark host mark).2.1 :=
  ⟨shape_markAll host mark b.members, rfl, rfl⟩

theorem alike_send (b : MultiBind) (host : σ) (data : List UInt8) (dest : BindEndpoint) :
    Alike b (b.send host data dest).2.1 := by
  unfold send
  cases ht : b.members[dest.transport]? with
  | none => exact .refl b
  | some t =>
      refine ⟨List.ext_getElem? fun i => ?_, rfl, rfl⟩
      rw [List.getElem?_map, List.getElem?_map, List.getElem?_set]
      split
      · rename_i hi
        subst hi
        have hlt := (List.getElem?_eq_some_iff.mp ht).1
        rw [if_pos hlt, ht, Option.map_some, Option.map_some, t.shape_send]
      · rfl

theorem alike_goOn (b : MultiBind) (transport : Nat) (e : Sending.Event) :
    Alike b (b.goOn transport e) := by
  refine ⟨List.ext_getElem? fun i => ?_, rfl, rfl⟩
  rw [goOn, List.getElem?_map, List.getElem?_map, List.getElem?_modify]
  cases b.members[i]? with
  | none => rfl
  | some t =>
      rw [Option.map_eq_map, Option.map_some, Option.map_some, Option.map_some]
      split
      · rw [t.shape_step]
      · rfl

theorem members_receive (b : MultiBind) : b.receive.2.members = b.members := by
  unfold receive
  split
  · rfl
  · dsimp only
    split <;> rfl

theorem alike_receive (b : MultiBind) : Alike b b.receive.2 := by
  unfold receive
  cases hq : b.inbox with
  | none => exact .refl b
  | some q =>
      dsimp only
      split
      · exact .refl b
      · exact ⟨rfl, by simp [hq], rfl⟩

theorem alike_arrive (b : MultiBind) (transport : Nat) (arrival : Arrival) (data : List UInt8) :
    Alike b (b.arrive transport arrival data) := by
  unfold arrive
  split
  · exact ⟨rfl, by simp [deliver], rfl⟩
  · exact .refl b

/-! ### Any sequence of calls -/

/-- The bind and its host after events, one after the other. -/
def run (x : MultiBind × σ) (events : List Event) : MultiBind × σ := events.foldl step x

theorem run_concat (x : MultiBind × σ) (events : List Event) (e : Event) :
    run x (events ++ [e]) = step (run x events) e := by
  rw [run, List.foldl_append]
  rfl

/-- A bind is opened or closed, or what happens leaves its shape alone. -/
theorem step_cases (x : MultiBind × σ) (e : Event) :
    (∃ port, e = .openOn port) ∨ e = .close ∨ Alike x.1 (step x e).1 := by
  cases e with
  | openOn port => exact .inl ⟨port, rfl⟩
  | close => exact .inr (.inl rfl)
  | setMark mark => exact .inr (.inr (alike_setMark x.1 x.2 mark))
  | send data dest => exact .inr (.inr (alike_send x.1 x.2 data dest))
  | receive => exact .inr (.inr (alike_receive x.1))
  | arrive transport arrival data => exact .inr (.inr (alike_arrive x.1 transport arrival data))
  | goOn transport event => exact .inr (.inr (alike_goOn x.1 transport event))

/-- A bind keeps its transports. -/
theorem keeps_step (x : MultiBind × σ) (e : Event) : Keeps x.1 (step x e).1 := by
  rcases step_cases x e with ⟨port, rfl⟩ | rfl | halike
  · have hopening := opening_openOn x.1 x.2 port
    rw [step]
    generalize x.1.openOn x.2 port = y at hopening
    cases hopening with
    | opened h => exact ⟨h.map_make, rfl⟩
    | failed => exact .refl x.1
    | broken hmembers h =>
        refine ⟨?_, rfl⟩
        rw [hmembers, List.map_append, List.map_append, h.map_make]
  · refine ⟨?_, rfl⟩
    rw [step, close, List.map_map]
    exact List.map_congr_left fun t _ => t.make_close
  · exact halike.keeps

theorem keeps_run (x : MultiBind × σ) (events : List Event) : Keeps x.1 (run x events).1 := by
  induction events using List.reverseRecOn with
  | nil => exact .refl x.1
  | append_singleton events e ih =>
      have hstep := keeps_step (run x events) e
      rw [run_concat]
      exact ⟨hstep.make.trans ih.make, hstep.queueSize.trans ih.queueSize⟩

/-- A bind with room that is open as a whole or not at all stays so. -/
theorem whole_step {x : MultiBind × σ} (hroom : x.1.HasRoom) (h : x.1.Opened ∨ x.1.Closed)
    (e : Event) : (step x e).1.Opened ∨ (step x e).1.Closed := by
  rcases step_cases x e with ⟨port, rfl⟩ | rfl | halike
  · have hopening := opening_openOn x.1 x.2 port
    rw [step]
    generalize x.1.openOn x.2 port = y at hopening
    cases hopening with
    | opened hopens => exact .inl ⟨hopens.isOpen, rfl⟩
    | failed => exact h
    | broken _ _ hno => exact absurd hroom hno
  · exact .inr x.1.closed_close
  · exact h.imp halike.opened halike.closed

theorem whole_run {x : MultiBind × σ} (hroom : x.1.HasRoom) (h : x.1.Opened ∨ x.1.Closed)
    (events : List Event) : (run x events).1.Opened ∨ (run x events).1.Closed := by
  induction events using List.reverseRecOn with
  | nil => exact h
  | append_singleton events e ih =>
      rw [run_concat]
      exact whole_step ((keeps_run x events).hasRoom hroom) ih e

/-! ### What callers can rely on -/

/-- What is promised of a bind at any time. -/
structure AllOrNothing (b : MultiBind) (host : σ) : Prop where
  /-- Every transport is open and there is a queue, or none is open and nothing is received. -/
  whole : b.Opened ∨ b.Closed ∧ b.receive = (.error .closed, b)
  /-- While it is open, receiving does not answer that it is closed. -/
  receive_of_opened : b.Opened → b.receive.1 ≠ .error .closed
  /-- Opening succeeds exactly where it takes a closed bind to an open one. -/
  openOn_ok_iff : ∀ port, (∃ p, (b.openOn host port).1 = .ok p) ↔
    b.Closed ∧ (b.openOn host port).2.1.Opened
  /-- Opening an open bind is an error and changes nothing. -/
  openOn_of_opened : b.Opened → ∃ t, b.members.head? = some t ∧
    ∀ port, b.openOn host port = (.error (.failed (.alreadyOpen t.kind)), b, host)
  /-- Opening does not break off, and fails only with the fault of a transport. -/
  openOn_error : ∀ port f, (b.openOn host port).1 = .error f → ∃ e, f = .failed e ∧
    ∃ t ∈ b.members, ∃ host : σ, (t.openOn host port).1 = .error (.failed e)
  /-- A closed bind that could not be opened is as it was. -/
  openOn_of_closed : b.Closed → ∀ port f, (b.openOn host port).1 = .error f →
    (b.openOn host port).2.1 = b
  /-- Closing ends closed. -/
  close_closed : b.close.Closed
  /-- Closing a closed bind changes nothing. -/
  close_of_closed : b.Closed → b.close = b

theorem openOn_ok_iff (h : b.Opened ∨ b.Closed) (hne : b.members ≠ []) (host : σ) (port : UInt16) :
    (∃ p, (b.openOn host port).1 = .ok p) ↔ b.Closed ∧ (b.openOn host port).2.1.Opened := by
  have hopening := opening_openOn b host port
  generalize b.openOn host port = y at hopening
  cases hopening with
  | opened hopens =>
      refine ⟨fun _ => ⟨h.resolve_left fun hopened => ?_, hopens.isOpen, rfl⟩, fun _ => ⟨_, rfl⟩⟩
      obtain ⟨t, ht⟩ := List.exists_mem_of_ne_nil b.members hne
      exact absurd (hopens.closed t ht) (by simp [hopened.members t ht])
  | failed => exact ⟨nofun, fun hx => absurd hx.2 hx.1.not_opened⟩
  | broken =>
      refine ⟨nofun, fun hx => ?_⟩
      have hinbox := hx.2.inbox
      rw [hx.1.inbox] at hinbox
      cases hinbox

theorem allOrNothing {b : MultiBind} (hne : b.members ≠ []) (hroom : b.HasRoom)
    (h : b.Opened ∨ b.Closed) (host : σ) : AllOrNothing b host := by
  obtain ⟨t, ht⟩ : ∃ t, b.members.head? = some t :=
    Option.isSome_iff_exists.mp (by simpa using hne)
  refine ⟨h.imp_right fun hclosed => ⟨hclosed, hclosed.receive_eq⟩, fun hopened => ?_,
    openOn_ok_iff h hne host, fun hopened => ⟨t, ht, hopened.openOn_eq hroom.queue ht host⟩,
    fun port f hf => ?_, fun hclosed port f hf => ?_, b.closed_close, Closed.close_eq⟩
  · obtain ⟨q, hq⟩ := Option.isSome_iff_exists.mp hopened.inbox
    rw [receive, hq]
    simp [hne]
  · have hall : (openAll host port b.members).1 = .error f := by
      rw [openOn, if_pos hroom.queue] at hf
      split at hf
      · rename_i heq
        cases hf
        rw [heq]
      · cases hf
    have hopening := opening_openOn b host port
    generalize b.openOn host port = y at hf hopening
    cases hopening with
    | opened => cases hf
    | failed e =>
        cases hf
        exact ⟨e, rfl, exists_openOn_error hall⟩
    | broken _ _ hno => exact absurd hroom hno
  · have hopening := opening_openOn b host port
    generalize b.openOn host port = y at hf hopening
    cases hopening with
    | opened => cases hf
    | failed => rfl
    | broken _ _ hno => exact absurd hroom hno

/-- **A bind with room is open as a whole or not at all**, after any sequence of calls and on any
host. -/
theorem allOrNothing_run {x : MultiBind × σ} (hne : x.1.members ≠ []) (hroom : x.1.HasRoom)
    (h : x.1.Closed) (events : List Event) : AllOrNothing (run x events).1 (run x events).2 := by
  have hkeeps := keeps_run x events
  refine allOrNothing (fun hnil => hne ?_) (hkeeps.hasRoom hroom) (whole_run hroom (.inr h) events) _
  have hmake := hkeeps.make
  rw [hnil, List.map_nil] at hmake
  exact List.map_eq_nil_iff.mp hmake.symm

/-- A bind of a socket that is to be marked, which this host does not permit, and a relay transport
that listens. -/
def markedPair : MultiBind where
  members := [.webSocket { settings := { listen := some (.ofAddress IsolatedHost.loopback 0) } },
    .udp { ip := IsolatedHost.loopback, mark := some 7 }]

/-- The relay transport is opened, the socket cannot be marked, and all is closed again. -/
theorem allOrNothing_run_markedPair :
    markedPair.members ≠ [] ∧ markedPair.HasRoom ∧ markedPair.Closed ∧
      (markedPair.openOn (⟨20000⟩ : IsolatedHost) 0).1 = .error (.failed (.io "not permitted")) ∧
      AllOrNothing (run (markedPair, (⟨20000⟩ : IsolatedHost)) [.openOn 0]).1
        (run (markedPair, (⟨20000⟩ : IsolatedHost)) [.openOn 0]).2 := by
  have hne : markedPair.members ≠ [] := by simp [markedPair]
  have hroom : markedPair.HasRoom := ⟨rfl, by simp [markedPair]; decide⟩
  have hclosed : markedPair.Closed := ⟨by simp [markedPair, Member.isOpen], rfl⟩
  exact ⟨hne, hroom, hclosed, rfl, allOrNothing_run hne hroom hclosed [.openOn 0]⟩

/-! ### Binds without room -/

/-- A host on which everything can be set up, and which reaches nobody. -/
inductive ObligingHost where
  | mk

instance : Sockets ObligingHost where
  bindDatagram h ip port := (.ok (.ofAddress ip port), h)
  mark h _ _ := (.ok (), h)
  sendDatagram h _ _ _ := (.error "unreachable", h)
  listen h addr := (.ok addr, h)
  connect h _ _ := (.error (.broken "unreachable"), h)
  writeFrame h _ _ := (false, h)

/-- What keeps an obliging host from opening a closed transport is its queue. -/
theorem openOn_obliging {t : Member} (h : t.isOpen = false) (port : UInt16) :
    t.hasRoom = true ∧ (∃ p, (t.openOn ObligingHost.mk port).1 = .ok p) ∨
      t.hasRoom = false ∧ (t.openOn ObligingHost.mk port).1 = .error .broken := by
  cases t with
  | udp t =>
      obtain ⟨ip, socket, mark⟩ := t
      cases (show socket = none by simpa [Member.isOpen] using h)
      cases mark <;> exact .inl ⟨rfl, _, rfl⟩
  | webSocket t =>
      obtain ⟨⟨listen, queue, timeout⟩, state⟩ := t
      cases (show state = none by simpa [Member.isOpen] using h)
      cases listen with
      | none => exact .inl ⟨rfl, _, rfl⟩
      | some addr =>
          rw [Member.openOn, RelayTransport.openOn, Member.hasRoom]
          dsimp only [Sockets.listen]
          cases isCapacity (RelaySettings.mk (some addr) queue timeout).places with
          | true => exact .inl ⟨rfl, _, rfl⟩
          | false => exact .inr ⟨rfl, rfl⟩

theorem openAll_obliging (h : ∀ t ∈ ts, t.isOpen = false) {t : Member} (ht : t ∈ ts)
    (hroom : t.hasRoom = false) (port : UInt16) :
    (openAll ObligingHost.mk port ts).1 = .error .broken := by
  induction ts with
  | nil => cases ht
  | cons u ts ih =>
      have hu := openOn_obliging (h u (by simp)) port
      unfold openAll
      generalize u.openOn ObligingHost.mk port = x at hu
      obtain ⟨r, u', ⟨⟩⟩ := x
      rcases hu with ⟨huroom, p, rfl⟩ | ⟨-, rfl⟩
      · have hmem : t ∈ ts := by
          rcases List.mem_cons.mp ht with rfl | hmem
          · rw [hroom] at huroom
            cases huroom
          · exact hmem
        have hrest := ih (fun v hv => h v (by simp [hv])) hmem
        dsimp only
        generalize openAll ObligingHost.mk port ts = y at hrest
        obtain ⟨r, ts', host⟩ := y
        cases hrest
        rfl
      · rfl

/-- **Room is what opening needs**: where the sockets can be set up, opening a closed bind breaks off
exactly if a queue cannot be made. -/
theorem Closed.openOn_broken_iff (h : b.Closed) (port : UInt16) :
    (b.openOn ObligingHost.mk port).1 = .error .broken ↔ ¬b.HasRoom := by
  constructor
  · intro hbroken
    have hopening := opening_openOn b ObligingHost.mk port
    generalize b.openOn ObligingHost.mk port = y at hbroken hopening
    cases hopening with
    | opened | failed => cases hbroken
    | broken _ _ hroom => exact hroom
  · intro hroom
    unfold openOn
    by_cases hqueue : isCapacity b.queueSize = true
    · obtain ⟨t, ht, htroom⟩ : ∃ t ∈ b.members, t.hasRoom = false := by
        by_contra hall
        exact hroom ⟨hqueue, fun t ht => by simpa using fun hfalse => hall ⟨t, ht, hfalse⟩⟩
      have hbroken := openAll_obliging h.members ht htroom port
      rw [if_pos hqueue]
      generalize openAll ObligingHost.mk port b.members = y at hbroken
      obtain ⟨r, ts', host⟩ := y
      cases hbroken
      rfl
    · rw [if_neg hqueue]

/-- A bind of a socket whose own queue is one place too long. -/
def crowdedSocket : MultiBind :=
  ({ members := [.udp { ip := IsolatedHost.loopback }] } : MultiBind).withQueueSize (mostPlaces + 1)

/-- A bind of a socket and a relay transport that listens, with a queue for accepted connections that
is one place too long. -/
def crowdedPair : MultiBind where
  members := [.udp { ip := IsolatedHost.loopback },
    .webSocket { settings := {
      listen := some (.ofAddress IsolatedHost.loopback 0), registrationQueue := mostPlaces + 1 } }]

/-- Opening breaks off although every socket can be set up, and where it does so in the middle it
leaves a bind that is neither open nor closed. -/
theorem openOn_crowded :
    crowdedSocket.Closed ∧
      (crowdedSocket.openOn (⟨20000⟩ : IsolatedHost) 0).1 = .error .broken ∧
      crowdedPair.Closed ∧
      ¬(run (crowdedPair, (⟨20000⟩ : IsolatedHost)) [.openOn 0]).1.Opened ∧
      ¬(run (crowdedPair, (⟨20000⟩ : IsolatedHost)) [.openOn 0]).1.Closed := by
  refine ⟨⟨by simp [crowdedSocket, withQueueSize, Member.isOpen], rfl⟩, rfl,
    ⟨by simp [crowdedPair, Member.isOpen], rfl⟩, fun h => ?_, fun h => ?_⟩
  · cases h.inbox
  · exact absurd (h.members _ List.mem_cons_self) (by decide)

end MultiBind

end TunnelMesh.Transport

/-
Replies leave the way packets came.

The readers of all transports deliver into one queue, and a datagram carries the place of
the transport whose reader delivered it.  `delivered?`, `kept?` and `received?` say what an
event delivers, what of that the queue takes, and what is received.  As long as the bind is
not closed, what the queue held and what it took is what was received, followed by what it
still holds; what waits when the bind is closed is lost with the queue.

Transports keep their places and kinds, whatever happens.  So the origin of a datagram and
what a text was read as go on naming a transport of their kind, and a send to either is one
that the transport understands.
-/
import TunnelMesh.Proofs.Transport.Answer
import TunnelMesh.Proofs.Transport.Bind

namespace TunnelMesh.Transport

variable {σ : Type} [Sockets σ]

/-! ### Single transports -/

namespace Member

variable {t : Member}

/-- What a transport has sent came about step by step. -/
def Reached (t : Member) : Prop := ∀ s, t.sending? = some s → s.Reached

theorem reached_close (t : Member) : t.close.Reached := by
  intro s hs
  cases t <;> cases hs

theorem Reached.setMark (h : t.Reached) (host : σ) (mark : UInt32) :
    (t.setMark host mark).2.1.Reached := by
  cases t with
  | udp t => exact fun s hs => by cases hs
  | webSocket t => exact h

theorem Reached.step (h : t.Reached) (e : Sending.Event) : (t.step e).Reached := by
  cases t with
  | udp t => exact h
  | webSocket t =>
      intro s hs
      obtain ⟨u, hu, rfl⟩ := Option.map_eq_some_iff.mp hs
      obtain ⟨v, hv, rfl⟩ := Option.map_eq_some_iff.mp hu
      exact (h v.sending (by rw [sending?, hv]; rfl)).leads ((Sending.Leads.refl _).step e)

theorem Reached.send (h : t.Reached) (host : σ) (data : List UInt8) (dest : Endpoint) :
    (t.send host data dest).2.1.Reached := by
  cases t with
  | udp t => cases dest <;> exact fun s hs => by cases hs
  | webSocket t =>
      cases dest with
      | udp addr => exact h
      | relay peer =>
          unfold Member.send RelayTransport.send
          dsimp only
          cases hstate : t.state with
          | none => exact h
          | some s =>
              intro s' hs'
              cases hs'
              dsimp only
              rw [RelayState.sending_send]
              exact RelayState.reached_sent (h s.sending (by rw [sending?, hstate]; rfl)) _ _ _ _

/-- A transport does not refuse endpoints of its own kind. -/
theorem Reached.send_ne_unsupported (h : t.Reached) (host : σ) (data : List UInt8) {dest : Endpoint}
    (hkind : dest.kind = t.kind) (text : String) :
    (t.send host data dest).1 ≠ .error (.unsupported text) := by
  cases t with
  | udp t =>
      cases dest with
      | relay peer => cases hkind
      | udp addr =>
          unfold Member.send UdpTransport.send
          dsimp only
          cases t.socket with
          | none => simp
          | some socket =>
              dsimp only
              generalize (Sockets.sendDatagram host socket data addr).1 = r
              cases r <;> simp [Except.mapError]
  | webSocket t =>
      cases dest with
      | udp addr => cases hkind
      | relay peer =>
          unfold Member.send RelayTransport.send
          dsimp only
          cases hstate : t.state with
          | none => simp
          | some s =>
              have hreached := h s.sending (by rw [sending?, hstate]; rfl)
              exact (RelayState.answers_send hreached host t.settings data peer).ne_unsupported text

end Member

namespace MultiBind

variable {b : MultiBind} {x : MultiBind × σ} {dest : BindEndpoint}
  {read : String → Option RelayUrl}

/-! ### Endpoints and the transports that own them -/

/-- An endpoint names a transport of its kind. -/
def Owns (b : MultiBind) (dest : BindEndpoint) : Prop :=
  (b.members.map Member.kind)[dest.transport]? = some dest.inner.kind

theorem owns_iff : b.Owns dest ↔ ∃ t, b.members[dest.transport]? = some t ∧
    dest.inner.kind = t.kind := by
  rw [Owns, List.getElem?_map, Option.map_eq_some_iff]
  exact exists_congr fun t => and_congr_right fun _ => eq_comm

/-- The endpoint that a text is read as belongs to the first transport that takes the text. -/
theorem findEndpoint?_eq_some {text : String} {ts : List Member} {i : Nat} {e : BindEndpoint} :
    findEndpoint? read text i ts = some e ↔ ∃ j t, e.transport = i + j ∧ ts[j]? = some t ∧
      t.endpoint? read text = some e.inner ∧ ∀ k < j, ∀ u, ts[k]? = some u → u.endpoint? read text = none := by
  induction ts generalizing i with
  | nil => simp [findEndpoint?]
  | cons t ts ih =>
      unfold findEndpoint?
      cases ht : t.endpoint? read text with
      | some inner =>
          constructor
          · intro he
            cases he
            exact ⟨0, t, rfl, rfl, ht, by omega⟩
          · intro hx
            obtain ⟨j, u, hj, hu, hinner, hfirst⟩ := hx
            -- an earlier transport than the first one there is none
            cases j with
            | succ j => exact absurd (ht.symm.trans (hfirst 0 (by omega) t rfl)) (by simp)
            | zero =>
                cases hu
                obtain ⟨transport, inner'⟩ := e
                cases hj
                cases ht.symm.trans hinner
                rfl
      | none =>
          dsimp only
          rw [ih]
          constructor
          · intro hx
            obtain ⟨j, u, hj, hu, hinner, hfirst⟩ := hx
            refine ⟨j + 1, u, by omega, hu, hinner, fun k hk v hv => ?_⟩
            cases k with
            | zero =>
                cases hv
                exact ht
            | succ k => exact hfirst k (by omega) v hv
          · intro hx
            obtain ⟨j, u, hj, hu, hinner, hfirst⟩ := hx
            cases j with
            | zero =>
                cases hu
                cases ht.symm.trans hinner
            | succ j => exact ⟨j, u, by omega, hu, hinner, fun k hk v hv => hfirst (k + 1) (by omega) v hv⟩

/-- **A text is read by the first transport that takes it.** -/
theorem endpoint_eq_ok {text : String} : b.endpoint read text = .ok dest ↔
    ∃ t, b.members[dest.transport]? = some t ∧ t.endpoint? read text = some dest.inner ∧
      ∀ k < dest.transport, ∀ u, b.members[k]? = some u → u.endpoint? read text = none := by
  have hfind : b.endpoint read text = .ok dest ↔ findEndpoint? read text 0 b.members = some dest := by
    unfold endpoint
    cases findEndpoint? read text 0 b.members <;> simp
  rw [hfind, findEndpoint?_eq_some]
  constructor
  · intro hx
    obtain ⟨j, t, hj, ht⟩ := hx
    rw [Nat.zero_add] at hj
    rw [hj]
    exact ⟨t, ht⟩
  · intro hx
    obtain ⟨t, ht⟩ := hx
    exact ⟨dest.transport, t, (Nat.zero_add _).symm, ht⟩

/-- What every transport has sent came about step by step. -/
def Reached (b : MultiBind) : Prop := ∀ t ∈ b.members, t.Reached

theorem reached_markAll (host : σ) (mark : UInt32) (ts : List Member) (h : ∀ t ∈ ts, t.Reached) :
    ∀ t ∈ (markAll host mark ts).2.1, t.Reached := by
  induction ts generalizing host with
  | nil => simp [markAll]
  | cons t ts ih =>
      exact List.forall_mem_cons.mpr
        ⟨(h t (by simp)).setMark host mark, ih _ fun u hu => h u (by simp [hu])⟩

theorem reached_opens {ts ts' : List Member} (h : Opens ts ts') : ∀ t ∈ ts', t.Reached := by
  intro t ht s hs
  rw [h.sending t ht s hs]
  exact ⟨[], rfl⟩

theorem Reached.step (h : x.1.Reached) (e : Event) : (step x e).1.Reached := by
  cases e with
  | openOn port =>
      rw [MultiBind.step]
      have hopening := opening_openOn x.1 x.2 port
      generalize x.1.openOn x.2 port = y at hopening
      cases hopening with
      | opened hopens => exact reached_opens hopens
      | failed => exact h
      | broken hmembers hopens =>
          refine List.forall_mem_append.mpr ⟨reached_opens hopens, fun t ht => h t ?_⟩
          rw [hmembers]
          exact List.mem_append_right _ ht
  | close =>
      intro t ht
      obtain ⟨u, -, rfl⟩ := List.mem_map.mp ht
      exact u.reached_close
  | setMark mark => exact reached_markAll x.2 mark x.1.members h
  | send data dest =>
      rw [MultiBind.step, MultiBind.send]
      cases ht : x.1.members[dest.transport]? with
      | none => exact h
      | some t =>
          intro u hu
          rcases List.mem_or_eq_of_mem_set hu with hu | rfl
          · exact h u hu
          · exact (h t (List.mem_of_getElem? ht)).send x.2 data dest.inner
  | receive =>
      rw [MultiBind.step, MultiBind.receive]
      cases x.1.inbox with
      | none => exact h
      | some q =>
          dsimp only
          split <;> exact h
  | arrive transport arrival data =>
      rw [MultiBind.step, MultiBind.arrive]
      split <;> exact h
  | goOn transport event =>
      intro u hu
      obtain ⟨i, hi⟩ := List.mem_iff_getElem?.mp hu
      rw [MultiBind.step, goOn, List.getElem?_modify, Option.map_eq_map] at hi
      obtain ⟨t, ht, rfl⟩ := Option.map_eq_some_iff.mp hi
      have htr := h t (List.mem_of_getElem? ht)
      split
      · exact htr.step event
      · exact htr

/-- **A send to an endpoint goes to the transport that owns it**, which does not refuse it. -/
theorem Owns.send (h : b.Owns dest) (hb : b.Reached) (host : σ) (data : List UInt8) :
    ∃ t, b.members[dest.transport]? = some t ∧
      (b.send host data dest).1 = (t.send host data dest.inner).1 ∧
      ∀ text, (b.send host data dest).1 ≠ .error (.unsupported text) := by
  obtain ⟨t, ht, hkind⟩ := owns_iff.mp h
  have hsend : (b.send host data dest).1 = (t.send host data dest.inner).1 := by
    rw [MultiBind.send, ht]
  refine ⟨t, ht, hsend, fun text => ?_⟩
  rw [hsend]
  exact (hb t (List.mem_of_getElem? ht)).send_ne_unsupported host data hkind text

/-! ### What goes through the queue -/

/-- What waits to be received, oldest first. -/
def waiting (b : MultiBind) : List Datagram := b.inbox.elim [] Inbox.waiting

/-- The datagram that a reader delivers: its data, with the place of the reader's transport. -/
def delivered? (b : MultiBind) : Event → Option Datagram
  | .arrive transport arrival data =>
    ((b.members[transport]?).bind fun t => t.origin? arrival).map fun origin =>
      ⟨data, ⟨transport, origin⟩⟩
  | _ => none

/-- The datagram that the queue takes. -/
def kept? (b : MultiBind) (e : Event) : Option Datagram :=
  if b.inbox.any Inbox.accepts then b.delivered? e else none

/-- The datagram that is received. -/
def received? (b : MultiBind) : Event → Option Datagram
  | .receive => b.receive.1.toOption.join
  | _ => none

/-- What events give, one after the other. -/
def log (f : MultiBind → Event → Option Datagram) (x : MultiBind × σ) : List Event → List Datagram
  | [] => []
  | e :: events => (f x.1 e).toList ++ log f (step x e) events

/-- A reader that delivers into a queue with a place left appends to it. -/
theorem waiting_arrive (b : MultiBind) (transport : Nat) (arrival : Arrival) (data : List UInt8) :
    (b.arrive transport arrival data).waiting =
      b.waiting ++ (b.kept? (.arrive transport arrival data)).toList := by
  unfold arrive kept?
  dsimp only [delivered?]
  generalize (b.members[transport]?).bind (fun t => t.origin? arrival) = o
  cases o with
  | none => simp
  | some origin =>
      unfold deliver waiting Inbox.deliver
      cases b.inbox with
      | none => simp
      | some q =>
          by_cases hq : q.accepts = true
          · simp [hq]
          · simp [hq]

/-- Receiving takes the oldest datagram that waits, if one does, and leaves the others. -/
theorem receive_cases (b : MultiBind) :
    (b.waiting = [] ∧ b.received? .receive = none ∧ b.receive.2.waiting = []) ∨
      ∃ d, b.waiting = d :: b.receive.2.waiting ∧ b.received? .receive = some d := by
  unfold received? receive
  cases hq : b.inbox with
  | none => exact .inl ⟨by simp [waiting, hq], rfl, by simp [waiting, hq]⟩
  | some q =>
      have hwaiting : b.waiting = q.waiting := by
        rw [waiting, hq]
        rfl
      dsimp only [Inbox.receive]
      cases hw : q.waiting with
      | nil =>
          refine .inl ⟨hwaiting.trans hw, ?_⟩
          by_cases hnil : b.members = []
          · simp [hnil, hwaiting, hw, Except.toOption]
          · simp [hnil, waiting, hw, Except.toOption]
      | cons d rest => exact .inr ⟨d, hwaiting.trans hw, rfl⟩

theorem waiting_receive (b : MultiBind) :
    b.waiting = (b.received? .receive).toList ++ b.receive.2.waiting := by
  rcases receive_cases b with ⟨hw, hd, hrest⟩ | ⟨d, hw, hd⟩
  · rw [hw, hd, hrest]
    rfl
  · rw [hd]
    exact hw

/-- What holds of a bind and its queue at any time, also after opening broke off. -/
structure Orderly (b : MultiBind) : Prop where
  /-- Where there is a queue, every transport is open. -/
  queued : b.inbox.isSome = true → ∀ t ∈ b.members, t.isOpen = true
  /-- Without transports nothing is delivered. -/
  idle : b.members = [] → b.waiting = []

theorem Closed.waiting_eq (h : b.Closed) : b.waiting = [] := by
  rw [waiting, h.inbox]
  rfl

/-- Nothing waits where a transport is closed, nor where there is none. -/
theorem Orderly.waiting_eq (h : b.Orderly) (hclosed : ∀ t ∈ b.members, t.isOpen = false) :
    b.waiting = [] := by
  cases hmembers : b.members with
  | nil => exact h.idle hmembers
  | cons t ts =>
      have ht : t ∈ b.members := by simp [hmembers]
      cases hinbox : b.inbox with
      | none => rw [waiting, hinbox, Option.elim_none]
      | some q => exact absurd (h.queued (by simp [hinbox]) t ht) (by simp [hclosed t ht])

/-- What an event takes out of the queue and leaves in it is what was in it and what it puts there,
in this order, unless the queue goes with it. -/
theorem Orderly.waiting_step (h : x.1.Orderly) {e : Event} (he : e ≠ .close) :
    x.1.waiting ++ (x.1.kept? e).toList = (x.1.received? e).toList ++ (step x e).1.waiting := by
  have hsame : x.1.delivered? e = none → x.1.received? e = none →
      (step x e).1.inbox = x.1.inbox →
      x.1.waiting ++ (x.1.kept? e).toList = (x.1.received? e).toList ++ (step x e).1.waiting := by
    intro hd hr hinbox
    rw [kept?, hd, hr, waiting, waiting, hinbox]
    simp
  cases e with
  | openOn port =>
      have hkept : x.1.kept? (.openOn port) = none := by simp [kept?, delivered?]
      have hreceived : x.1.received? (.openOn port) = none := rfl
      rw [hkept, hreceived, MultiBind.step]
      simp only [Option.toList_none, List.append_nil, List.nil_append]
      have hopening := opening_openOn x.1 x.2 port
      generalize x.1.openOn x.2 port = y at hopening
      cases hopening with
      | opened hopens =>
          rw [h.waiting_eq hopens.closed]
          rfl
      | failed | broken => rfl
  | close => exact absurd rfl he
  | setMark mark => exact hsame rfl rfl rfl
  | send data dest =>
      refine hsame rfl rfl ?_
      rw [step, MultiBind.send]
      split <;> rfl
  | receive =>
      have hkept : x.1.kept? .receive = none := by simp [kept?, delivered?]
      rw [hkept, Option.toList_none, List.append_nil]
      exact waiting_receive x.1
  | arrive transport arrival data => exact (waiting_arrive x.1 transport arrival data).symm
  | goOn transport event => exact hsame rfl rfl rfl

/-- A queue goes with transports that are open. -/
theorem Orderly.queued_step (h : x.1.Orderly) (e : Event)
    (hinbox : (MultiBind.step x e).1.inbox.isSome = true) :
    ∀ t ∈ (MultiBind.step x e).1.members, t.isOpen = true := by
  rcases step_cases x e with ⟨port, rfl⟩ | rfl | halike
  · have hopening := opening_openOn x.1 x.2 port
    rw [MultiBind.step] at hinbox ⊢
    generalize x.1.openOn x.2 port = y at hinbox hopening
    cases hopening with
    | opened hopens => exact hopens.isOpen
    | failed => exact h.queued hinbox
    | broken hmembers hopens =>
        -- there was a queue before, so there was no closed transport to open
        have hall := h.queued hinbox
        rw [hmembers] at hall
        exact List.forall_mem_append.mpr ⟨hopens.isOpen, (List.forall_mem_append.mp hall).2⟩
  · cases hinbox
  · exact halike.isOpen (h.queued (halike.inbox.symm.trans hinbox))

theorem Orderly.step (h : x.1.Orderly) (e : Event) : (step x e).1.Orderly := by
  refine ⟨h.queued_step e, fun hnil => ?_⟩
  by_cases he : e = .close
  · subst he
    rfl
  · have hkinds := (keeps_step x e).map_kind
    rw [hnil, List.map_nil] at hkinds
    have hmembers : x.1.members = [] := List.map_eq_nil_iff.mp hkinds.symm
    have hdelivered : x.1.delivered? e = none := by
      cases e <;> simp [delivered?, hmembers]
    have hstep := h.waiting_step he
    rw [h.idle hmembers, kept?, hdelivered, ite_self] at hstep
    exact (List.append_eq_nil_iff.mp hstep.symm).2

theorem Orderly.run (h : x.1.Orderly) (events : List Event) : (run x events).1.Orderly := by
  induction events using List.reverseRecOn with
  | nil => exact h
  | append_singleton events e ih =>
      rw [run_concat]
      exact ih.step e

end MultiBind

end TunnelMesh.Transport

/-
Legs of dialed peers are not cancelled.

While a bridge is open, only a forwarder cancels a leg that was not dropped, and only
where a send found that its peer is not connected.  A send to a dialed peer never answers that:
it dials.  What makes this an invariant of the bridge is that a forwarder knows its send
by number, and that the send under this number keeps the peer of the leg.
-/
import TunnelMesh.Proofs.Relay.Legs
import TunnelMesh.Proofs.Transport.Delivery

namespace TunnelMesh

open Net Transport

/-! ### The bind of a bridge -/

namespace Transport.MultiBind

variable {m m' : MultiBind} {s : Sending} {remote : BindEndpoint} {read : String → Option RelayUrl}

/-- A bind of one relay transport, which is open, and over which peers sent what waits. -/
structure Relays (m : MultiBind) (s : Sending) : Prop where
  members : ∃ settings local?, m.members = [.webSocket ⟨settings, some ⟨s, local?⟩⟩]
  origins : ∀ d ∈ m.waiting, ∃ peer, d.origin = ⟨0, .relay peer⟩

theorem Relays.sending?_eq (h : m.Relays s) : m.sending? 0 = some s := by
  obtain ⟨settings, local?, hmembers⟩ := h.members
  rw [sending?, hmembers]
  rfl

/-- Addresses of relays are endpoints of peers that are dialed. -/
theorem Relays.endpoint_eq_ok (h : m.Relays s) {text : String} :
    m.endpoint read text = .ok remote ↔ ∃ url, read text = some url ∧ remote = ⟨0, .relay (.dialed url)⟩ := by
  obtain ⟨settings, local?, hmembers⟩ := h.members
  rw [endpoint, hmembers]
  simp only [findEndpoint?, Member.endpoint?, RelayTransport.endpoint?]
  cases read text with
  | none => simp
  | some url => simp [eq_comm]

theorem Relays.goOn (h : m.Relays s) (e : Sending.Event) : (m.goOn 0 e).Relays (s.step e) := by
  obtain ⟨settings, local?, hmembers⟩ := h.members
  refine ⟨⟨settings, local?, ?_⟩, h.origins⟩
  rw [MultiBind.goOn, hmembers]
  rfl

theorem Relays.arrive (h : m.Relays s) (peer : RelayPeer) (data : List UInt8) :
    (m.arrive 0 (.message peer) data).Relays s := by
  obtain ⟨settings, local?, hmembers⟩ := h.members
  have harrive : m.arrive 0 (.message peer) data = m.deliver 0 data (.relay peer) := by
    rw [MultiBind.arrive, hmembers]
    rfl
  refine ⟨⟨settings, local?, by rw [harrive]; exact hmembers⟩, fun d hd => ?_⟩
  rw [waiting_arrive, List.mem_append] at hd
  rcases hd with hd | hd
  · exact h.origins d hd
  · have hdelivered : m.delivered? (.arrive 0 (.message peer) data) = some d := by
      rw [Option.mem_toList, kept?] at hd
      split at hd
      · exact hd
      · cases hd
    rw [delivered?, hmembers] at hdelivered
    cases hdelivered
    exact ⟨peer, rfl⟩

/-- What is received came from a peer. -/
theorem Relays.receive (h : m.Relays s) {d : Datagram} (hd : m.receive = (.ok (some d), m')) :
    m'.Relays s ∧ ∃ peer, d.origin = ⟨0, .relay peer⟩ := by
  have hwaiting := waiting_receive m
  rw [received?, hd] at hwaiting
  have hmem : m.waiting = d :: m'.waiting := hwaiting
  have hmembers : m'.members = m.members := by
    rw [← members_receive m, hd]
  refine ⟨⟨by rw [hmembers]; exact h.members, fun d' hd' => h.origins d' ?_⟩, h.origins d ?_⟩
  · rw [hmem]
    exact List.mem_cons_of_mem d hd'
  · rw [hmem]
    exact List.mem_cons_self

/-- A relay transport that could be opened has sent and received nothing. -/
theorem relays_openOn {σ : Type} [Sockets σ] {settings : RelaySettings} {host host' : σ}
    {port p : UInt16}
    (h : ({ members := [.webSocket { settings }] } : MultiBind).openOn host port = (.ok p, m, host')) :
    m.Relays .empty := by
  have hopening := opening_openOn { members := [.webSocket { settings }] } host port
  rw [h] at hopening
  cases hopening with
  | opened hopens =>
      rename_i ts
      obtain ⟨t, rfl, hkind⟩ := List.map_eq_singleton_iff.mp hopens.close
      refine ⟨?_, fun d hd => by cases hd⟩
      cases t with
      | udp t => cases hkind
      | webSocket t =>
          obtain ⟨state, hstate⟩ := Option.isSome_iff_exists.mp (hopens.isOpen _ List.mem_cons_self)
          have hempty := hopens.sending _ List.mem_cons_self state.sending
            (by rw [Member.sending?, hstate]; rfl)
          exact ⟨t.settings, state.local?, by rw [← hempty, ← hstate]⟩

end Transport.MultiBind

/-! ### Forwarders and their sends -/

/-- A leg whose forwarder waits for a send to its peer, if for any, and that was not cancelled if its
peer was dialed. -/
structure Leg.Serves (s : Sending) (l : Leg) : Prop where
  peer : ∃ peer, l.remote = ⟨0, .relay peer⟩
  sending : ∀ i, l.forwarder = .sending i →
    ∃ send, s.sends[i]? = some send ∧ l.remote = ⟨0, .relay send.peer⟩
  dialed : RelayBridge.isDialed l.remote = true → l.cancelled = false

theorem Leg.Serves.leads {s s' : Sending} {l : Leg} (h : l.Serves s) (hs : s.Leads s') :
    l.Serves s' where
  peer := h.peer
  sending i hi := by
    obtain ⟨send, hsend, hremote⟩ := h.sending i hi
    obtain ⟨send', hsend', hpeer⟩ := hs.exists_send hsend
    exact ⟨send', hsend', by rw [hremote, hpeer]⟩
  dialed := h.dialed

theorem Leg.Serves.moveOn {s : Sending} {l : Leg} (h : l.Serves s) {forwarder : Forwarder}
    (hf : ∀ i, forwarder ≠ .sending i) : (l.moveOn forwarder).Serves s :=
  ⟨h.peer, fun i hi => absurd hi (hf i), h.dialed⟩

namespace RelayBridge

variable {σ : Type} [Sockets σ] {b b' : RelayBridge} {s s' : Sending} {x : RelayBridge × σ}
  {e : Event} {read : String → Option RelayUrl} {remote : BindEndpoint}

/-- Every leg of an open bridge serves a peer. -/
structure Serving (b : RelayBridge) (s : Sending) : Prop where
  running : b.cancelled = false
  reached : s.Reached
  relays : b.bind.Relays s
  legs : ∀ l ∈ b.opened, l.Serves s

theorem Serving.of_opened (h : b.Serving s) (hcancelled : b'.cancelled = b.cancelled)
    (hbind : b'.bind = b.bind) (hlegs : ∀ l ∈ b'.opened, l.Serves s) : b'.Serving s :=
  ⟨hcancelled.trans h.running, h.reached, by rw [hbind]; exact h.relays, hlegs⟩

theorem Serving.modify (h : b.Serving s) {n : Nat} {f : Leg → Leg}
    (hf : ∀ l, b.opened[n]? = some l → l.Serves s → (f l).Serves s) : (b.modify n f).Serving s := by
  refine h.of_opened rfl rfl fun l' hl' => ?_
  obtain ⟨i, hi⟩ := List.mem_iff_getElem?.mp hl'
  obtain ⟨l, hl, ⟨-, rfl⟩ | ⟨rfl, rfl⟩⟩ := exists_opened_modify hi
  · exact h.legs _ (List.mem_of_getElem? hl)
  · exact hf l hl (h.legs l (List.mem_of_getElem? hl))

theorem Serving.goOn (h : b.Serving s) (e : Sending.Event) :
    ({ b with bind := b.bind.goOn 0 e } : RelayBridge).Serving (s.step e) where
  running := h.running
  reached := h.reached.leads ((Sending.Leads.refl s).step e)
  relays := h.relays.goOn e
  legs l hl := (h.legs l hl).leads ((Sending.Leads.refl s).step e)

/-- A leg of a dialed peer stays when legs are dropped. -/
theorem Serving.isLive (h : b.Serving s) {n : Nat} {l : Leg} (hl : b.opened[n]? = some l)
    (hdialed : isDialed l.remote = true) : b.isLive l.remote n = true := by
  have hcancelled := (h.legs l (List.mem_of_getElem? hl)).dialed hdialed
  rw [RelayBridge.isLive, hl, Option.any_some, hcancelled, hdialed]
  rfl

theorem Serving.prune (h : b.Serving s) : b.prune.2.Serving s := by
  refine h.of_opened rfl rfl fun l' hl' => ?_
  obtain ⟨n, hn⟩ := List.mem_iff_getElem?.mp hl'
  obtain ⟨l, hl, ⟨rfl, -⟩ | ⟨rfl, hstale⟩⟩ := exists_opened_prune hn
  · exact h.legs _ (List.mem_of_getElem? hl)
  · have hserves := h.legs l (List.mem_of_getElem? hl)
    refine ⟨hserves.peer, hserves.sending, fun hdialed => ?_⟩
    rw [isStale, h.isLive hl hdialed] at hstale
    simp at hstale

theorem Serving.leg (h : b.Serving s) (host : σ) {peer : RelayPeer}
    (hremote : remote = ⟨0, .relay peer⟩) : (b.leg host remote).2.1.Serving s := by
  unfold RelayBridge.leg
  split
  · exact h
  · split
    · exact h.prune
    · refine h.prune.of_opened rfl rfl fun l hl => ?_
      rcases List.mem_append.mp hl with hl | hl
      · exact h.prune.legs l hl
      · cases List.mem_singleton.mp hl
        exact ⟨⟨peer, hremote⟩, fun i hi => (by cases hi), fun _ => h.running⟩

theorem Serving.receive (h : b.Serving s) (host : σ) : (b.receive host).1.Serving s := by
  unfold RelayBridge.receive
  split
  · split
    · rename_i d bind hreceive
      obtain ⟨hrelays, peer, horigin⟩ := h.relays.receive hreceive
      have hb : ({ b with bind } : RelayBridge).Serving s := ⟨h.running, h.reached, hrelays, h.legs⟩
      rw [snd_arrive]
      exact hb.leg host horigin
    · exact h
  · exact h

theorem Serving.hear (h : b.Serving s) (n : Nat) (data : List UInt8) :
    ∃ s', (b.hear n data).Serving s' := by
  unfold RelayBridge.hear
  split
  · rename_i remote address hl
    split
    · rename_i s₀ peer hs hpeer
      obtain ⟨peer₀, hremote⟩ := (h.legs _ (List.mem_of_getElem? hl)).peer
      cases hremote
      cases h.relays.sending?_eq.symm.trans hs
      cases hpeer
      refine ⟨_, (h.goOn (.call peer data)).modify fun l hl' hserves => ?_⟩
      cases hl.symm.trans hl'
      refine ⟨hserves.peer, fun i hi => ?_, hserves.dialed⟩
      -- the send that was just made has the next number
      cases hi
      exact ⟨_, getElem?_concat_eq_some.mpr (.inr ⟨rfl, rfl⟩), rfl⟩
    · exact ⟨s, h⟩
  · exact ⟨s, h⟩

/-- **A forwarder does not cancel a leg of a dialed peer.** -/
theorem Serving.learn (h : b.Serving s) (n : Nat) : (b.learn n).Serving s := by
  unfold RelayBridge.learn
  split
  · rename_i remote address cancelled i hl
    split
    · rename_i peer data used text hsend
      refine h.modify fun l hl' hserves => ?_
      cases hl.symm.trans hl'
      obtain ⟨send, hi, hremote⟩ := hserves.sending i rfl
      cases hremote
      rw [h.relays.sending?_eq, Option.bind_some, hi] at hsend
      cases hsend
      obtain ⟨addr, rfl⟩ := (h.reached.answering i _ used _ hi rfl).accepted
      exact ⟨hserves.peer, nofun, nofun⟩
    · exact h.modify fun l _ hserves => hserves.moveOn nofun
    · exact h
  · exact h

theorem Serving.retire (h : b.Serving s) (n : Nat) : (b.retire n).Serving s := by
  refine h.modify fun l _ hserves => ?_
  unfold Leg.retire
  split
  · exact hserves.moveOn nofun
  · exact hserves

theorem Serving.step (h : x.1.Serving s) (he : e ≠ .cancel) :
    ∃ s', (step read x e).1.Serving s' := by
  cases e with
  | endpointFor text =>
      refine ⟨s, ?_⟩
      rw [RelayBridge.step, endpointFor]
      cases hremote : x.1.bind.endpoint read text with
      | error => exact h
      | ok remote =>
          obtain ⟨url, -, hurl⟩ := h.relays.endpoint_eq_ok.mp hremote
          exact h.leg x.2 hurl
  | deliver peer data => exact ⟨s, h.running, h.reached, h.relays.arrive peer data, h.legs⟩
  | receive => exact ⟨s, h.receive x.2⟩
  | hear n data => exact h.hear n data
  | learn n => exact ⟨s, h.learn n⟩
  | retire n => exact ⟨s, h.retire n⟩
  | goOn event =>
      cases event with
      | call | abandon => exact ⟨s, h⟩
      | advance i => exact ⟨_, h.goOn (.advance i)⟩
      | below event => exact ⟨_, h.goOn (.below event)⟩
  | prune => exact ⟨s, h.prune⟩
  | cancel => exact absurd rfl he
  | stopReceiving => exact ⟨s, h.of_opened rfl rfl h.legs⟩
  | clear =>
      have hquiet : x.1.isQuiet = false := by simp [isQuiet, h.running]
      rw [RelayBridge.step, clear, hquiet]
      exact ⟨s, h⟩

/-- **Legs of dialed peers are not cancelled** while the bridge is not closed. -/
theorem Serving.run (h : x.1.Serving s) {events : List Event} (hcancel : .cancel ∉ events) :
    ∃ s', (run read x events).1.Serving s' := by
  induction events using List.reverseRecOn with
  | nil => exact ⟨s, h⟩
  | append_singleton events e ih =>
      simp only [List.mem_append, List.mem_singleton, not_or] at hcancel
      obtain ⟨s', hs'⟩ := ih hcancel.1
      rw [run_concat]
      exact hs'.step (Ne.symm hcancel.2)

/-- A bridge that could be opened has no legs. -/
theorem openOn_eq_ok {settings : RelaySettings} {device : SocketAddress} {host host' : σ}
    (h : (toDevice settings device).openOn host = (.ok (), b, host')) :
    b.Serving .empty ∧ b.opened = [] ∧ b.legs = ∅ := by
  unfold openOn at h
  split at h
  · cases h
  · rename_i p bind host₁ hbind
    cases h
    refine ⟨⟨rfl, ⟨[], rfl⟩, MultiBind.relays_openOn hbind, fun l hl => ?_⟩, rfl, rfl⟩
    cases hl

end RelayBridge

end TunnelMesh

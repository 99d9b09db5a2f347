/-
Legs can be relied on.

The address that the node was given for a peer at a relay's address stays that of the peer's
leg until the bridge is closed: legs of dialed peers are not cancelled, so they keep their places,
and a leg that has its place is found again.  Dropping legs drops those that were cancelled
and those of accepted peers that are gone, and tells how many these were.
-/
import Mathlib
import TunnelMesh.Proofs.Relay.Closing
import TunnelMesh.Proofs.Relay.Forwarding
import TunnelMesh.Proofs.Tunnel.Value

namespace TunnelMesh.RelayBridge

open Net Transport

variable {σ : Type} [Sockets σ] {b b' : RelayBridge} {s : Sending} {x : RelayBridge × σ}
  {events : List Event} {read : String → Option RelayUrl} {remote : BindEndpoint}
  {address : SocketAddress} {text : String} {url : RelayUrl}

/-- What holds of a bridge and its legs while it is not closed. -/
structure Sound (b : RelayBridge) : Prop where
  tidy : b.Tidy
  serving : ∃ s, b.Serving s

theorem Sound.run (h : x.1.Sound) (read : String → Option RelayUrl) (hcancel : .cancel ∉ events) :
    (run read x events).1.Sound := by
  obtain ⟨s, hs⟩ := h.serving
  exact ⟨h.tidy.run hcancel, hs.run hcancel⟩

/-! ### Dialed peers keep their addresses -/

/-- A leg that was not cancelled keeps its place. -/
theorem Onward.address?_eq (h : Onward b b') (htidy : b.Tidy)
    (hkept : ∀ l ∈ b'.opened, isDialed l.remote = true → l.cancelled = false)
    (hdialed : isDialed remote = true) (ha : b.address? remote = some address) :
    b'.address? remote = some address := by
  obtain ⟨n, l, hn, hl, haddress⟩ := address?_eq_some.mp ha
  obtain rfl := htidy.remote_eq hn hl
  obtain ⟨l', hl', honward⟩ := h.exists_leg hl
  rw [← honward.remote] at hn hdialed ⊢
  have hcancelled := hkept l' (List.mem_of_getElem? hl') hdialed
  exact address?_eq_some.mpr
    ⟨n, l', h.kept hl' hcancelled hn, hl', honward.address.trans haddress⟩

theorem Change.address?_eq (h : Change x b') (htidy : x.1.Tidy) (hb' : b'.Serving s)
    (hdialed : isDialed remote = true) (ha : x.1.address? remote = some address) :
    b'.address? remote = some address := by
  have hkept : ∀ l ∈ b'.opened, isDialed l.remote = true → l.cancelled = false :=
    fun l hl => (hb'.legs l hl).dialed
  cases h with
  | onward h => exact h.address?_eq htidy hkept hdialed ha
  | opened bind remote' hnone =>
      have honward := (onward_prune x.1).withBind bind
      have hold := honward.address?_eq htidy
        (fun l hl => hkept l (List.mem_append_left _ hl)) hdialed ha
      rw [(htidy.onward honward).address?_addLeg, if_neg, hold]
      -- the peer has its place, and the new leg is for a peer that has none
      intro heq
      subst heq
      obtain ⟨n, l, hn, -⟩ := address?_eq_some.mp hold
      cases (legs_prune_of_leg? hnone).symm.trans hn

theorem Sound.address?_run (h : x.1.Sound) (read : String → Option RelayUrl)
    (hcancel : .cancel ∉ events) (hdialed : isDialed remote = true)
    (ha : x.1.address? remote = some address) :
    (RelayBridge.run read x events).1.address? remote = some address := by
  induction events using List.reverseRecOn with
  | nil => exact ha
  | append_singleton events e ih =>
      have hend := h.run read hcancel
      simp only [List.mem_append, List.mem_singleton, not_or] at hcancel
      have hmid := h.run read hcancel.1
      rw [run_concat] at hend ⊢
      obtain ⟨s, hs⟩ := hend.serving
      exact (change_step hmid.tidy.running (Ne.symm hcancel.2)).address?_eq hmid.tidy hs hdialed
        (ih hcancel.1)

/-! ### Asking for an address -/

/-- What the bridge answers to a text. -/
def answer (read : String → Option RelayUrl) (x : RelayBridge × σ) (text : String) :
    Except AgentError SocketAddress :=
  (x.1.endpointFor read x.2 text).1

/-- Asking for the address of a relay's address asks for the leg of the peer that is dialed there. -/
theorem Sound.endpointFor_eq (h : x.1.Sound) (hurl : read text = some url) :
    x.1.endpointFor read x.2 text =
      ((x.1.leg x.2 ⟨0, .relay (.dialed url)⟩).1.mapError .io,
        (x.1.leg x.2 ⟨0, .relay (.dialed url)⟩).2) := by
  obtain ⟨s, hs⟩ := h.serving
  rw [endpointFor, hs.relays.endpoint_eq_ok.mpr ⟨url, hurl, rfl⟩]

theorem address?_of_leg? (h : b.leg? remote = some address) : b.address? remote = some address := by
  unfold leg? at h
  obtain ⟨l, hl, haddress⟩ := Option.map_eq_some_iff.mp h
  obtain ⟨n, hn, hl⟩ := Option.bind_eq_some_iff.mp (Option.filter_eq_some_iff.mp hl).1
  exact address?_eq_some.mpr ⟨n, l, hn, hl, haddress⟩

/-- Whoever is given an address is given that of the peer's leg. -/
theorem Tidy.address?_leg (h : b.Tidy) {host : σ} (hok : (b.leg host remote).1 = .ok address) :
    (b.leg host remote).2.1.address? remote = some address := by
  unfold leg at hok ⊢
  cases hleg : b.leg? remote with
  | some a =>
      rw [hleg] at hok
      cases hok
      exact address?_of_leg? hleg
  | none =>
      rw [hleg] at hok
      dsimp only at hok ⊢
      generalize Sockets.bindDatagram host loopback 0 = y at hok
      obtain ⟨e | a, host'⟩ := y
      · cases hok
      · cases hok
        dsimp only
        rw [(h.onward (onward_prune b)).address?_addLeg, if_pos rfl]

/-- The leg of a dialed peer is found. -/
theorem Sound.leg_eq (h : b.Sound) (host : σ) (hdialed : isDialed remote = true)
    (ha : b.address? remote = some address) : b.leg host remote = (.ok address, b, host) := by
  obtain ⟨s, hs⟩ := h.serving
  obtain ⟨n, l, hn, hl, haddress⟩ := address?_eq_some.mp ha
  obtain rfl := h.tidy.remote_eq hn hl
  have hcancelled := (hs.legs l (List.mem_of_getElem? hl)).dialed hdialed
  have hleg : b.leg? l.remote = some address := by
    rw [leg?, hn, Option.bind_some, hl]
    simp [hcancelled, haddress]
  rw [leg, hleg]

/-- An address is given, unless the host cannot open a socket. -/
theorem Sound.answer_cases (h : x.1.Sound) (hurl : read text = some url) :
    (∃ address, answer read x text = .ok address) ∨
      ∃ message host, Sockets.bindDatagram x.2 loopback 0 = (.error message, host) ∧
        answer read x text = .error (.io message) := by
  rw [answer, h.endpointFor_eq hurl, leg]
  cases x.1.leg? ⟨0, .relay (.dialed url)⟩ with
  | some address => exact .inl ⟨address, rfl⟩
  | none =>
      dsimp only
      rcases hbind : Sockets.bindDatagram x.2 loopback 0 with ⟨message | address, host⟩
      · exact .inr ⟨message, host, rfl, rfl⟩
      · exact .inl ⟨address, rfl⟩

/-- **An answer stays the same**, and goes on being given, until the bridge is closed. -/
theorem Sound.answer_run (h : x.1.Sound) {text' : String} (hcancel : .cancel ∉ events)
    (hurl : read text = some url) (hurl' : read text' = some url)
    (hok : answer read x text = .ok address) :
    answer read (RelayBridge.run read (step read x (.endpointFor text)) events) text' =
      .ok address := by
  have hfirst := h.endpointFor_eq hurl
  rw [answer, hfirst] at hok
  have hplace := h.tidy.address?_leg (mapError_eq_ok_iff.mp hok)
  have hstep := h.run read (show .cancel ∉ [Event.endpointFor text] by simp)
  change (step read x (.endpointFor text)).1.Sound at hstep
  have hstepped : (step read x (.endpointFor text)).1 =
      (x.1.leg x.2 ⟨0, .relay (.dialed url)⟩).2.1 := by
    rw [step, hfirst]
  rw [← hstepped] at hplace
  have hlast := hstep.address?_run read hcancel rfl hplace
  have hend := hstep.run read hcancel
  rw [answer, hend.endpointFor_eq hurl', hend.leg_eq _ rfl hlast]
  rfl

/-! ### Dropping legs -/

/-- A peer whose leg was cancelled, or that was accepted and is not connected any more. -/
def Stale (b : RelayBridge) (remote : BindEndpoint) : Prop :=
  ∃ (n : Nat) (l : Leg), b.legs[remote]? = some n ∧ b.opened[n]? = some l ∧
    (l.cancelled = true ∨
      ∃ addr, remote.inner = .relay (.accepted addr) ∧ b.bind.isConnected remote = false)

theorem Sound.stale_iff (h : b.Sound) :
    b.Stale remote ↔ ∃ n, b.legs[remote]? = some n ∧ b.isLive remote n = false := by
  obtain ⟨s, hs⟩ := h.serving
  have hlive : ∀ (n : Nat) (l : Leg), b.legs[remote]? = some n → b.opened[n]? = some l →
      (b.isLive remote n = false ↔ l.cancelled = true ∨
        ∃ addr, remote.inner = .relay (.accepted addr) ∧ b.bind.isConnected remote = false) := by
    intro n l hn hl
    obtain rfl := h.tidy.remote_eq hn hl
    obtain ⟨peer, hpeer⟩ := (hs.legs l (List.mem_of_getElem? hl)).peer
    rw [isLive, hl, hpeer, Option.any_some]
    cases peer with
    | dialed url => simp [isDialed]
    | accepted addr => cases l.cancelled <;> simp [isDialed]
  constructor
  · intro hx
    obtain ⟨n, l, hn, hl, hstale⟩ := hx
    exact ⟨n, hn, (hlive n l hn hl).mpr hstale⟩
  · intro hx
    obtain ⟨n, hn, hn'⟩ := hx
    obtain ⟨l, hl, -⟩ := h.tidy.placed hn
    exact ⟨n, l, hn, hl, (hlive n l hn hl).mp hn'⟩

/-- What is promised of dropping legs. -/
structure DropsStale (b : RelayBridge) : Prop where
  /-- The other peers keep their legs. -/
  kept : ∀ remote n, b.prune.2.legs[remote]? = some n ↔ b.legs[remote]? = some n ∧ ¬b.Stale remote
  /-- The answer is the number of those that were dropped. -/
  count : ∃ dropped : List BindEndpoint, dropped.Nodup ∧
    (∀ remote, remote ∈ dropped ↔ b.Stale remote) ∧ b.prune.1 = dropped.length
  /-- Dialed peers are not among them. -/
  dialed : ∀ remote, isDialed remote = true → ¬b.Stale remote

theorem Sound.dropsStale (h : b.Sound) : b.DropsStale where
  kept remote n := by
    rw [legs_prune, h.stale_iff]
    refine and_congr_right fun hn => ?_
    rw [hn]
    simp
  count := by
    obtain ⟨dropped, hnodup, hmem, hlength⟩ := Map.exists_dropped b.legs b.isLive
    exact ⟨dropped, hnodup, fun remote => (hmem remote).trans h.stale_iff.symm, hlength⟩
  dialed remote hdialed hstale := by
    obtain ⟨s, hs⟩ := h.serving
    obtain ⟨n, hn, hlive⟩ := h.stale_iff.mp hstale
    obtain ⟨l, hl, rfl⟩ := h.tidy.placed hn
    rw [hs.isLive hl hdialed] at hlive
    cases hlive

/-! ### What the node and the device can rely on -/

/-- What is promised of the legs of a bridge, whatever happens to it and however addresses of relays
are read. -/
structure Dependable (read : String → Option RelayUrl) (x : RelayBridge × σ) : Prop where
  /-- An address is given for every relay's address, unless the host cannot open a socket. -/
  given : ∀ events text url, .cancel ∉ events → read text = some url →
    (∃ address, answer read (run read x events) text = .ok address) ∨
      ∃ message host, Sockets.bindDatagram (run read x events).2 loopback 0 = (.error message, host) ∧
        answer read (run read x events) text = .error (.io message)
  /-- An address that was given for a peer at a relay's address is given again for every text that
  stands for the same address, until the bridge is closed. -/
  stable : ∀ front back text text' url address, .cancel ∉ front ++ back →
    read text = some url → read text' = some url →
    answer read (run read x front) text = .ok address →
    answer read (run read x (front ++ .endpointFor text :: back)) text' = .ok address
  /-- A place belongs to a leg of its peer. -/
  placed : ∀ events remote n, .cancel ∉ events → (run read x events).1.legs[remote]? = some n →
    ∃ l : Leg, (run read x events).1.opened[n]? = some l ∧ l.remote = remote
  /-- A leg that does not have its place was cancelled. -/
  kept : ∀ events (n : Nat) (l : Leg), .cancel ∉ events →
    (run read x events).1.opened[n]? = some l → l.cancelled = false →
    (run read x events).1.legs[l.remote]? = some n
  /-- A peer has one leg at most that was not cancelled. -/
  single : ∀ events (n n' : Nat) (l l' : Leg), .cancel ∉ events →
    (run read x events).1.opened[n]? = some l → (run read x events).1.opened[n']? = some l' →
    l.cancelled = false → l'.cancelled = false → l.remote = l'.remote → n = n'
  /-- Different peers have legs at different addresses, if the host gives addresses that are not in
  use. -/
  apart : ∀ events, .cancel ∉ events → Exclusive read x events → (run read x events).1.Apart
  /-- Dropping legs drops those that were cancelled and those of accepted peers that are gone. -/
  drops : ∀ events, .cancel ∉ events → (run read x events).1.DropsStale
  /-- Closing is a run of the bridge's own events. -/
  closes : ∀ events, ((run read x events).1.close, (run read x events).2) =
    run read x (events ++ closing (run read x events).1.opened.length)
  /-- Closing leaves no legs, unless a forwarder waits for a send that has not returned. -/
  closed : ∀ events, (∀ l ∈ (run read x events).1.opened, ¬(run read x events).1.Pending l) →
    (run read x events).1.close.legs = ∅
  /-- However it comes to its end, and whatever follows, it leaves no legs, unless the node asks for
  more. -/
  cleared : ∀ front back, (run read x front).1.isQuiet = true → (∀ text, .endpointFor text ∉ back) →
    (run read x (front ++ .clear :: back)).1.legs = ∅

theorem Sound.dependable (h : x.1.Sound) (hempty : x.1.legs = ∅) (read : String → Option RelayUrl) :
    Dependable read x where
  given events text url hcancel hurl := (h.run read hcancel).answer_cases hurl
  stable front back text text' url address hcancel hurl hurl' hok := by
    rw [List.mem_append, not_or] at hcancel
    rw [run_append]
    exact (h.run read hcancel.1).answer_run hcancel.2 hurl hurl' hok
  placed events remote n hcancel hn := (h.run read hcancel).tidy.placed hn
  kept events n l hcancel hl hl' := (h.run read hcancel).tidy.kept hl hl'
  single events n n' l l' hcancel hl hl' hc hc' hremote := by
    have hn := (h.run read hcancel).tidy.kept hl hc
    rw [hremote, (h.run read hcancel).tidy.kept hl' hc'] at hn
    exact (Option.some.inj hn).symm
  apart events hcancel hexclusive := by
    refine Apart.run (fun remote remote' a ha => ?_) h.tidy hcancel hexclusive
    simp [address?, hempty] at ha
  drops events hcancel := (h.run read hcancel).dropsStale
  closes events := by
    rw [run_append]
    exact (run_closing _).symm
  closed events hfree := (cleared_close hfree).legs
  cleared front back hquiet hback := by
    rw [run_append]
    exact (Cleared.run (x := step read (RelayBridge.run read x front) .clear)
      (cleared_clear hquiet) hback).legs

/-- **Legs can be relied on** from the moment that the bridge was opened. -/
theorem dependable_openOn {settings : RelaySettings} {device : SocketAddress} {host host' : σ}
    (h : (toDevice settings device).openOn host = (.ok (), b, host'))
    (read : String → Option RelayUrl) : Dependable read (b, host') := by
  obtain ⟨hserving, hopened, hlegs⟩ := openOn_eq_ok h
  refine Sound.dependable (x := (b, host'))
    ⟨⟨hserving.running, fun hn => ?_, fun hl => ?_⟩, _, hserving⟩ hlegs read
  · simp [hlegs] at hn
  · simp [hopened] at hl

/-- A bridge on a host that reaches nobody, just opened. -/
def isolated : RelayBridge × IsolatedHost :=
  ((toDevice {} (.ofAddress loopback 51820)).openOn (⟨20000⟩ : IsolatedHost)).2

/-- Two peers connect and send something. -/
def twoPeers : List Event :=
  [.deliver (.accepted (.ofAddress loopback 7)) [1], .receive,
    .deliver (.accepted (.ofAddress loopback 8)) [2], .receive]

set_option maxRecDepth 20000 in
/-- The bridge opens, answers, and gives each of the peers a leg, at an address that is free. -/
theorem dependable_openOn_isolated :
    (toDevice {} (.ofAddress loopback 51820)).openOn (⟨20000⟩ : IsolatedHost) =
        (.ok (), isolated.1, isolated.2) ∧
      (answer RelayUrl.ofText? isolated "ws://a").toOption = some (.ofAddress loopback 20000) ∧
      Exclusive RelayUrl.ofText? isolated twoPeers ∧
      (run RelayUrl.ofText? isolated twoPeers).1.opened.length = 2 ∧
      Dependable RelayUrl.ofText? isolated := by
  have hopen : (toDevice {} (.ofAddress loopback 51820)).openOn (⟨20000⟩ : IsolatedHost) =
      (.ok (), isolated.1, isolated.2) := rfl
  have hports : ∀ front ∈ twoPeers.inits, ∀ l ∈ (run RelayUrl.ofText? isolated front).1.opened,
      l.address ≠
        .ofAddress loopback (UInt16.ofNat (run RelayUrl.ofText? isolated front).2.nextPort) := by
    decide +kernel
  refine ⟨hopen, by cbv, fun front hfront => ?_, by decide +kernel, dependable_openOn hopen _⟩
  refine fresh_of_forall_ne fun address host hbind l hl => ?_
  cases hbind
  exact hports front ((List.mem_inits front twoPeers).mpr hfront) l hl

end TunnelMesh.RelayBridge

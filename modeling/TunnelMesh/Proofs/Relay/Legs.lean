/-
Legs and their places.

Legs are opened from two sides, by the node and by what comes in, and cancelled from a third,
by their forwarders.  A leg that was cancelled keeps its place until legs are dropped, and legs
are dropped before another one is opened.  So a leg that was not cancelled has the place of its
peer, and no peer has two.

`Change` says once what an event does to legs while the bridge is not closed, and what holds
of legs is read off that.  That two peers do not share an address is up to the host, which does
not give out the address of a socket that is still open.
-/
import TunnelMesh.Proofs.Map
import TunnelMesh.Proofs.Transport.Bind
import TunnelMesh.Proofs.Transport.Registry
import TunnelMesh.Relay.Event

namespace TunnelMesh

open Net Transport

/-- What stays of a leg whatever happens to it. -/
structure Leg.Onward (l l' : Leg) : Prop where
  remote : l'.remote = l.remote
  address : l'.address = l.address
  cancelled : l.cancelled = true → l'.cancelled = true

theorem Leg.Onward.refl (l : Leg) : l.Onward l := ⟨rfl, rfl, id⟩

namespace RelayBridge

variable {σ : Type} [Sockets σ] {b b' : RelayBridge} {x : RelayBridge × σ} {e : Event}
  {read : String → Option RelayUrl} {remote : BindEndpoint} {address : SocketAddress} {n : Nat}
  {l : Leg}

/-! ### What stays of legs and places -/

/-- Legs stay what they are; places may be lost, but only by legs that were cancelled. -/
structure Onward (b b' : RelayBridge) : Prop where
  cancelled : b'.cancelled = b.cancelled
  length : b'.opened.length = b.opened.length
  opened : ∀ {n : Nat} {l' : Leg}, b'.opened[n]? = some l' →
    ∃ l, b.opened[n]? = some l ∧ Leg.Onward l l'
  legs : ∀ {remote : BindEndpoint} {n : Nat}, b'.legs[remote]? = some n → b.legs[remote]? = some n
  kept : ∀ {n : Nat} {l' : Leg}, b'.opened[n]? = some l' → l'.cancelled = false →
    b.legs[l'.remote]? = some n → b'.legs[l'.remote]? = some n

theorem onward_of_eq (hcancelled : b'.cancelled = b.cancelled) (hopened : b'.opened = b.opened)
    (hlegs : b'.legs = b.legs) : Onward b b' where
  cancelled := hcancelled
  length := by rw [hopened]
  opened hl := ⟨_, by rw [← hopened]; exact hl, .refl _⟩
  legs hn := by rwa [hlegs] at hn
  kept _ _ hn := by rwa [hlegs]

theorem exists_opened_modify {f : Leg → Leg} {i : Nat} {l' : Leg}
    (h : (b.modify n f).opened[i]? = some l') :
    ∃ l, b.opened[i]? = some l ∧ (n ≠ i ∧ l' = l ∨ n = i ∧ l' = f l) := by
  rw [modify, List.getElem?_modify, Option.map_eq_map] at h
  obtain ⟨l, hl, rfl⟩ := Option.map_eq_some_iff.mp h
  refine ⟨l, hl, ?_⟩
  by_cases hi : n = i
  · exact .inr ⟨hi, if_pos hi⟩
  · exact .inl ⟨hi, if_neg hi⟩

theorem onward_modify {f : Leg → Leg} (hf : ∀ l, Leg.Onward l (f l)) :
    Onward b (b.modify n f) where
  cancelled := rfl
  length := List.length_modify f b.opened n
  opened {i l'} hl' := by
    obtain ⟨l, hl, ⟨-, rfl⟩ | ⟨rfl, rfl⟩⟩ := exists_opened_modify hl'
    · exact ⟨_, hl, .refl _⟩
    · exact ⟨l, hl, hf l⟩
  legs hn := hn
  kept _ _ hn := hn

theorem Onward.withBind (h : Onward b b') (bind : MultiBind) : Onward b { b' with bind } :=
  ⟨h.cancelled, h.length, h.opened, h.legs, h.kept⟩

/-! ### Dropping legs -/

theorem legs_prune : b.prune.2.legs[remote]? = some n ↔
    b.legs[remote]? = some n ∧ b.isLive remote n = true := by
  rw [prune, Std.ExtTreeMap.getElem?_filter', Option.filter_eq_some_iff]

/-- Legs are dropped by cancelling those that have their place and do not stay. -/
theorem exists_opened_prune {l' : Leg} (h : b.prune.2.opened[n]? = some l') :
    ∃ l, b.opened[n]? = some l ∧
      (l' = l ∧ b.isStale n l = false ∨ l' = l.cancel ∧ b.isStale n l = true) := by
  rw [prune, List.getElem?_mapIdx] at h
  obtain ⟨l, hl, rfl⟩ := Option.map_eq_some_iff.mp h
  refine ⟨l, hl, ?_⟩
  by_cases hstale : b.isStale n l = true
  · exact .inr ⟨if_pos hstale, hstale⟩
  · exact .inl ⟨if_neg hstale, Bool.eq_false_of_not_eq_true hstale⟩

theorem onward_prune (b : RelayBridge) : Onward b b.prune.2 where
  cancelled := rfl
  length := List.length_mapIdx
  opened {n l'} hl' := by
    obtain ⟨l, hl, ⟨rfl, -⟩ | ⟨rfl, -⟩⟩ := exists_opened_prune hl'
    · exact ⟨_, hl, .refl _⟩
    · exact ⟨l, hl, rfl, rfl, fun _ => rfl⟩
  legs hn := (legs_prune.mp hn).1
  kept {n l'} hl' hcancelled hn := by
    obtain ⟨l, hl, ⟨rfl, hstale⟩ | ⟨rfl, -⟩⟩ := exists_opened_prune hl'
    · refine legs_prune.mpr ⟨hn, ?_⟩
      simpa [isStale, hn] using hstale
    · cases hcancelled

/-- After stale legs were dropped, a peer without a leg has a free place. -/
theorem legs_prune_of_leg? (h : b.leg? remote = none) : b.prune.2.legs[remote]? = none := by
  rw [Option.eq_none_iff_forall_ne_some]
  intro n hn
  obtain ⟨hplace, hlive⟩ := legs_prune.mp hn
  obtain ⟨l, hl, hl'⟩ := (Option.any_eq_true ..).mp hlive
  simp [leg?, hplace, hl] at h
  simp [h] at hl'

/-! ### What an event does to legs -/

/-- While the bridge is not closed, legs go on as they are, or stale legs are dropped and a leg is
opened at an address that the host gives. -/
inductive Change (x : RelayBridge × σ) : RelayBridge → Prop where
  | onward {b' : RelayBridge} (h : Onward x.1 b') : Change x b'
  | opened (bind : MultiBind) (remote : BindEndpoint) {address : SocketAddress} {host : σ}
      (hnone : x.1.leg? remote = none)
      (hbind : Sockets.bindDatagram x.2 loopback 0 = (.ok address, host)) :
      Change x ({ x.1.prune.2 with bind }.addLeg remote address)

theorem change_leg (b : RelayBridge) (host : σ) (remote : BindEndpoint) :
    Change (b, host) (b.leg host remote).2.1 := by
  unfold leg
  cases hleg : b.leg? remote with
  | some address => exact .onward (onward_of_eq rfl rfl rfl)
  | none =>
      dsimp only
      rcases hbind : Sockets.bindDatagram host loopback 0 with ⟨e | address, host'⟩
      · exact .onward (onward_prune b)
      · exact .opened b.bind remote hleg hbind

/-- Receiving does not matter for which legs stay. -/
theorem prune_received {bind : MultiBind} (h : bind.members = b.bind.members) :
    ({ b with bind } : RelayBridge).prune.2 = { b.prune.2 with bind } := by
  have hlive : ({ b with bind } : RelayBridge).isLive = b.isLive := by
    funext remote n
    simp only [isLive, MultiBind.isConnected, h]
  have hstale : ({ b with bind } : RelayBridge).isStale = b.isStale := by
    funext n l
    simp only [isStale, hlive]
  simp only [prune, hlive, hstale]

theorem Change.received {b' : RelayBridge} {host : σ} {bind : MultiBind}
    (hmembers : bind.members = b.bind.members) (h : Change ({ b with bind }, host) b') :
    Change (b, host) b' := by
  cases h with
  | onward h => exact .onward ⟨h.cancelled, h.length, h.opened, h.legs, h.kept⟩
  | opened bind' remote hnone hbind =>
      dsimp only
      rw [prune_received hmembers]
      exact .opened bind' remote hnone hbind

theorem snd_arrive (b : RelayBridge) (host : σ) (d : Datagram) :
    (b.arrive host d).2.1 = (b.leg host d.origin).2.1 := by
  unfold arrive
  rcases b.leg host d.origin with ⟨e | address, b', host'⟩ <;> rfl

theorem change_receive (b : RelayBridge) (host : σ) : Change (b, host) (b.receive host).1 := by
  unfold receive
  split
  · split
    · rename_i d bind hreceive
      have hmembers : bind.members = b.bind.members := by
        rw [← MultiBind.members_receive b.bind, hreceive]
      rw [snd_arrive]
      exact .received hmembers (change_leg _ host d.origin)
    · exact .onward (onward_of_eq rfl rfl rfl)
  · exact .onward (onward_of_eq rfl rfl rfl)

theorem onward_hear (b : RelayBridge) (n : Nat) (data : List UInt8) : Onward b (b.hear n data) := by
  unfold hear
  split
  · split
    · refine (onward_modify fun l => ?_).withBind _
      exact ⟨rfl, rfl, id⟩
    · exact onward_of_eq rfl rfl rfl
  · exact onward_of_eq rfl rfl rfl

theorem onward_learn (b : RelayBridge) (n : Nat) : Onward b (b.learn n) := by
  unfold learn
  split
  · split
    · exact onward_modify fun l => ⟨rfl, rfl, fun _ => rfl⟩
    · exact onward_modify fun l => ⟨rfl, rfl, id⟩
    · exact onward_of_eq rfl rfl rfl
  · exact onward_of_eq rfl rfl rfl

theorem onward_retire (b : RelayBridge) (n : Nat) : Onward b (b.retire n) := by
  refine onward_modify fun l => ?_
  unfold Leg.retire
  split
  · exact ⟨rfl, rfl, id⟩
  · exact .refl l

/-- **What an event does to legs** of a bridge that is not closed. -/
theorem change_step (hrunning : x.1.cancelled = false) (he : e ≠ .cancel) :
    Change x (step read x e).1 := by
  cases e with
  | endpointFor text =>
      rw [step, endpointFor]
      cases x.1.bind.endpoint read text with
      | error => exact .onward (onward_of_eq rfl rfl rfl)
      | ok remote => exact change_leg x.1 x.2 remote
  | receive => exact change_receive x.1 x.2
  | hear n data => exact .onward (onward_hear x.1 n data)
  | learn n => exact .onward (onward_learn x.1 n)
  | retire n => exact .onward (onward_retire x.1 n)
  | goOn event => cases event <;> exact .onward (onward_of_eq rfl rfl rfl)
  | prune => exact .onward (onward_prune x.1)
  | cancel => exact absurd rfl he
  | clear =>
      have hquiet : x.1.isQuiet = false := by simp [isQuiet, hrunning]
      rw [step, clear, hquiet]
      exact .onward (onward_of_eq rfl rfl rfl)
  | deliver | stopReceiving => exact .onward (onward_of_eq rfl rfl rfl)

/-! ### One leg for each peer -/

/-- Places and legs fit together while the bridge is not closed. -/
structure Tidy (b : RelayBridge) : Prop where
  running : b.cancelled = false
  /-- A place belongs to a leg of its peer. -/
  placed : ∀ {remote : BindEndpoint} {n : Nat}, b.legs[remote]? = some n →
    ∃ l, b.opened[n]? = some l ∧ l.remote = remote
  /-- A leg that was not cancelled has its place. -/
  kept : ∀ {n : Nat} {l : Leg}, b.opened[n]? = some l → l.cancelled = false → b.legs[l.remote]? = some n

theorem Onward.exists_leg {l : Leg} (h : Onward b b') (hl : b.opened[n]? = some l) :
    ∃ l', b'.opened[n]? = some l' ∧ l.Onward l' := by
  have hn : n < b'.opened.length := by
    rw [h.length]
    exact (List.getElem?_eq_some_iff.mp hl).1
  obtain ⟨l₀, hl₀, honward⟩ := h.opened (List.getElem?_eq_getElem hn)
  cases hl.symm.trans hl₀
  exact ⟨_, List.getElem?_eq_getElem hn, honward⟩

theorem Tidy.remote_eq (h : Tidy b) (hn : b.legs[remote]? = some n) (hl : b.opened[n]? = some l) :
    l.remote = remote := by
  obtain ⟨l₀, hl₀, hremote⟩ := h.placed hn
  cases hl.symm.trans hl₀
  exact hremote

theorem Tidy.onward (h : Tidy b) (hb : Onward b b') : Tidy b' where
  running := hb.cancelled.trans h.running
  placed {remote n} hn := by
    obtain ⟨l, hl, hremote⟩ := h.placed (hb.legs hn)
    obtain ⟨l', hl', honward⟩ := hb.exists_leg hl
    exact ⟨l', hl', honward.remote.trans hremote⟩
  kept {n l'} hl' hcancelled := by
    obtain ⟨l, hl, honward⟩ := hb.opened hl'
    have hl₀ : l.cancelled = false := by
      cases hc : l.cancelled with
      | false => rfl
      | true => exact absurd (honward.cancelled hc) (by simp [hcancelled])
    refine hb.kept hl' hcancelled ?_
    rw [honward.remote]
    exact h.kept hl hl₀

theorem legs_addLeg {r : BindEndpoint} : (b.addLeg remote address).legs[r]? =
    if remote = r then some b.opened.length else b.legs[r]? := by
  rw [addLeg, Map.getElem?_insert]

/-- A leg may be added where the place of its peer is free. -/
theorem Tidy.addLeg (h : Tidy b) (hfree : b.legs[remote]? = none) (address : SocketAddress) :
    Tidy (b.addLeg remote address) where
  running := h.running
  placed {r n} hn := by
    rw [legs_addLeg] at hn
    split at hn
    · rename_i hr
      cases hn
      exact ⟨_, getElem?_concat_eq_some.mpr (.inr ⟨rfl, rfl⟩), hr⟩
    · obtain ⟨l, hl, hremote⟩ := h.placed hn
      exact ⟨l, getElem?_concat_eq_some.mpr (.inl hl), hremote⟩
  kept {n l} hl hcancelled := by
    rw [legs_addLeg]
    rcases getElem?_concat_eq_some.mp hl with hl | ⟨rfl, rfl⟩
    · have hn := h.kept hl hcancelled
      rw [if_neg, hn]
      intro hremote
      rw [← hremote, hfree] at hn
      cases hn
    · rw [if_pos rfl]

theorem Tidy.change (h : Tidy x.1) (hb : Change x b') : Tidy b' := by
  cases hb with
  | onward hb => exact h.onward hb
  | opened bind remote hnone =>
      have hpruned := h.onward ((onward_prune x.1).withBind bind)
      exact hpruned.addLeg (legs_prune_of_leg? hnone) _

/-! ### Addresses -/

/-- Where the leg is that has the place of a peer. -/
def address? (b : RelayBridge) (remote : BindEndpoint) : Option SocketAddress :=
  (b.legs[remote]?).bind fun n => (b.opened[n]?).map (·.address)

theorem address?_eq_some : b.address? remote = some address ↔
    ∃ (n : Nat) (l : Leg), b.legs[remote]? = some n ∧ b.opened[n]? = some l ∧ l.address = address := by
  simp [address?, Option.bind_eq_some_iff]

/-- Different peers have legs at different addresses. -/
def Apart (b : RelayBridge) : Prop :=
  ∀ ⦃remote remote' address⦄, b.address? remote = some address →
    b.address? remote' = some address → remote = remote'

theorem Onward.address? (h : Onward b b') (ha : b'.address? remote = some address) :
    b.address? remote = some address := by
  obtain ⟨n, l', hn, hl', rfl⟩ := address?_eq_some.mp ha
  obtain ⟨l, hl, honward⟩ := h.opened hl'
  exact address?_eq_some.mpr ⟨n, l, h.legs hn, hl, honward.address.symm⟩

theorem Tidy.address?_addLeg (h : Tidy b) {r : BindEndpoint} :
    (b.addLeg remote address).address? r = if remote = r then some address else b.address? r := by
  rw [RelayBridge.address?, legs_addLeg]
  split
  · simp [RelayBridge.addLeg]
  · cases hn : b.legs[r]? with
    | none => simp [RelayBridge.address?, hn]
    | some n =>
        obtain ⟨l, hl, -⟩ := h.placed hn
        have hl' : (b.addLeg remote address).opened[n]? = some l :=
          getElem?_concat_eq_some.mpr (.inl hl)
        rw [Option.bind_some, hl', RelayBridge.address?, hn, Option.bind_some, hl]

/-- A leg that has its place keeps its socket open.  Other sockets may be closed at any time. -/
def InUse (b : RelayBridge) (address : SocketAddress) : Prop :=
  ∃ remote, b.address? remote = some address

/-- A leg at an address that is not in use keeps legs apart. -/
theorem Apart.addLeg (h : Apart b) (hb : Tidy b) (hfresh : ¬b.InUse address) :
    Apart (b.addLeg remote address) := by
  intro r r' a ha ha'
  rw [hb.address?_addLeg] at ha ha'
  split at ha
  · rename_i hr
    cases ha
    split at ha'
    · rename_i hr'
      exact hr.symm.trans hr'
    · exact absurd ⟨r', ha'⟩ hfresh
  · split at ha'
    · cases ha'
      exact absurd ⟨r, ha⟩ hfresh
    · exact h ha ha'

/-- The address that the host would give to a leg, once stale legs were dropped, is not in use. -/
def Fresh (x : RelayBridge × σ) : Prop :=
  ∀ address host, Sockets.bindDatagram x.2 loopback 0 = (.ok address, host) →
    ¬x.1.prune.2.InUse address

/-- An address that no leg ever had is not in use. -/
theorem fresh_of_forall_ne (h : ∀ address host,
    Sockets.bindDatagram x.2 loopback 0 = (.ok address, host) →
      ∀ l ∈ x.1.opened, l.address ≠ address) : Fresh x := by
  intro address host hbind huse
  obtain ⟨remote, ha⟩ := huse
  obtain ⟨n, l, -, hl, haddress⟩ := address?_eq_some.mp ((onward_prune x.1).address? ha)
  exact h address host hbind l (List.mem_of_getElem? hl) haddress

theorem Apart.change (h : Apart x.1) (htidy : Tidy x.1) (hfresh : Fresh x) (hb : Change x b') :
    Apart b' := by
  cases hb with
  | onward hb => exact fun r r' a ha ha' => h (hb.address? ha) (hb.address? ha')
  | opened bind remote hnone hbind =>
      have honward := (onward_prune x.1).withBind bind
      refine Apart.addLeg (fun r r' a ha ha' => ?_) (htidy.onward honward) (hfresh _ _ hbind)
      exact h (honward.address? ha) (honward.address? ha')

/-! ### Any events before the end -/

/-- The bridge and its host after events, one after the other. -/
def run (read : String → Option RelayUrl) (x : RelayBridge × σ) (events : List Event) :
    RelayBridge × σ :=
  events.foldl (step read) x

theorem run_append (read : String → Option RelayUrl) (x : RelayBridge × σ)
    (events events' : List Event) :
    run read x (events ++ events') = run read (run read x events) events' :=
  List.foldl_append

theorem run_concat (read : String → Option RelayUrl) (x : RelayBridge × σ) (events : List Event)
    (e : Event) : run read x (events ++ [e]) = step read (run read x events) e :=
  run_append read x events [e]

/-- At every moment the host would give an address that is not in use. -/
def Exclusive (read : String → Option RelayUrl) (x : RelayBridge × σ) (events : List Event) : Prop :=
  ∀ front, front <+: events → Fresh (run read x front)

theorem Tidy.run (h : Tidy x.1) {events : List Event} (hcancel : .cancel ∉ events) :
    Tidy (run read x events).1 := by
  induction events using List.reverseRecOn with
  | nil => exact h
  | append_singleton events e ih =>
      simp only [List.mem_append, List.mem_singleton, not_or] at hcancel
      have hmid := ih hcancel.1
      rw [run_concat]
      exact hmid.change (change_step hmid.running (Ne.symm hcancel.2))

theorem Apart.run (h : Apart x.1) (htidy : Tidy x.1) {events : List Event}
    (hcancel : .cancel ∉ events) (hexclusive : Exclusive read x events) :
    Apart (run read x events).1 := by
  induction events using List.reverseRecOn with
  | nil => exact h
  | append_singleton events e ih =>
      simp only [List.mem_append, List.mem_singleton, not_or] at hcancel
      have hprefix : events <+: events ++ [e] := List.prefix_append _ _
      have hmid : Tidy (RelayBridge.run read x events).1 := htidy.run hcancel.1
      rw [run_concat]
      exact (ih hcancel.1 fun front hfront => hexclusive front (hfront.trans hprefix)).change hmid
        (hexclusive events hprefix) (change_step hmid.running (Ne.symm hcancel.2))

end RelayBridge

end TunnelMesh

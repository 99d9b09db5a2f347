/-
Sessions survive updates.

What a tunnel has going with a peer, its last handshake and the bytes that went through
it, is lost when the peer is taken away.  An update takes a peer away that is not wanted
any more, or whose endpoint or preshared key is gone, since a request cannot unset
these; all other peers are changed in place.  A refused change leaves its peer alone, and
a failure with one peer is none for the others.

What an update does is worked out for one device, whose table shows the peers that its
manager takes it to have.  That all devices are like that is kept by whatever happens to
them: they are started and updated, they refuse keys, and their peers shake hands.
-/
import TunnelMesh.Proofs.Device.Sent

namespace TunnelMesh

open Request (Names)

/-! ### Peers that are changed in place -/

/-- The tunnel to a peer is as it was. -/
structure PeerStatus.SameSession (s s' : PeerStatus) : Prop where
  lastHandshake : s'.lastHandshake = s.lastHandshake
  rxBytes : s'.rxBytes = s.rxBytes
  txBytes : s'.txBytes = s.txBytes

theorem PeerStatus.SameSession.refl (s : PeerStatus) : s.SameSession s := ⟨rfl, rfl, rfl⟩

/-- **Setting a known peer keeps it, and its session if nothing is gone that cannot be unset.** -/
theorem PeerTable.exists_foldl_blocks {t : PeerTable} {live : PeerMap} {p previous : PeerConfig}
    {s : PeerStatus} (hs : t[p.publicKey]? = some s) (hprev : live[p.publicKey]? = some previous) :
    ∃ s', (((PeerChange.set p).blocks live).foldl applyBlock t)[p.publicKey]? = some s' ∧
      (¬(Gone previous.endpoint p.endpoint ∨ Gone previous.presharedKey p.presharedKey) →
        s.SameSession s') := by
  rw [PeerChange.blocks, hprev]
  dsimp only
  split
  · rename_i hdrops
    obtain ⟨s', hs', -⟩ := Shows.set_again t p
    refine ⟨s', hs', ?_⟩
    intro hkeeps
    exact absurd ((Request.Draft.dropsUnsettable_iff previous p).mp hdrops) hkeeps
  · rw [List.foldl_cons, List.foldl_nil, getElem?_applyBlock_block, hs]
    exact ⟨_, rfl, fun _ => ⟨rfl, rfl, rfl⟩⟩

theorem exists_wantedPeer {desired reachable : List PeerConfig} {k : PublicKey}
    (h : k ∈ (desired ++ reachable).map PeerConfig.publicKey) :
    ∃ next, wantedPeer desired reachable k = some next := by
  rw [← Option.isSome_iff_exists, wantedPeer, Option.isSome_or, Option.isSome_map,
    Bool.or_eq_true, Map.lastWith_isSome, Map.lastWith_isSome]
  rwa [List.map_append, List.mem_append] at h

/-! ### Updates of a device -/

/-- What an update does to the sessions with a device's peers. The requests that it sends come with
whether they were taken. -/
structure KeepsSessions (d d' : ManagedDevice MemoryDevice) (sent : List (String × Bool))
    (desired reachable : List PeerConfig) : Prop where
  /-- A peer of the device that is desired or reachable stays, and so does its session, unless its
  new configuration lacks the endpoint or the preshared key of the one that it has. -/
  kept : ∀ (k : PublicKey) s, d.device.peers[k]? = some s →
    k ∈ (desired ++ reachable).map PeerConfig.publicKey →
      ∃ previous next s', d.live[k]? = some previous ∧ wantedPeer desired reachable k = some next ∧
        d'.device.peers[k]? = some s' ∧
        (¬(Gone previous.endpoint next.endpoint ∨ Gone previous.presharedKey next.presharedKey) →
          s.SameSession s')
  /-- A peer is as it was if the request that names it was refused. -/
  refused : ∀ (text : String) (k : PublicKey), (text, false) ∈ sent → Names text k →
    d'.device.peers[k]? = d.device.peers[k]?
  /-- No two requests name the same peer. -/
  single : sent.Pairwise fun e e' => ∀ k, Names e.1 k → ¬Names e'.1 k
  /-- A request is about one peer and nothing else. -/
  about : ∀ e ∈ sent, ∃ k bs, Request.ofText e.1 = .ok { peers := bs } ∧
    ∀ k', Names e.1 k' ↔ k' = k
  /-- No line of a request is about the interface. -/
  bare : ∀ e ∈ sent, ∀ line ∈ Text.lines e.1, ∀ key value,
    splitLine line = .ok (key, value) → key ∉ interfaceKeys

namespace ManagedDevice

variable {d : ManagedDevice MemoryDevice} {g : PeerGoal}

theorem getElem?_peers_reach (d : ManagedDevice MemoryDevice) (g : PeerGoal) (k : PublicKey) :
    (d.reach g).2.device.peers[k]? = ((g.changes d.live).foldl send d).device.peers[k]? := by
  rw [reach_snd]

/-- The entry of a peer whose change is sent is what this change leaves of it. -/
theorem exists_sent_reach (hg : g.Keyed) {c : PeerChange} (hc : c ∈ g.changes d.live) :
    ∃ d₁, SameAt c.key d d₁ ∧
      (d.reach g).2.device.peers[c.key]? = (d₁.send c).device.peers[c.key]? := by
  obtain ⟨d₁, hbefore, hafter⟩ := exists_sent hc (PeerGoal.nodup_changes hg d.live)
  refine ⟨d₁, hbefore, ?_⟩
  rw [getElem?_peers_reach]
  exact hafter.peers

/-- **A change that is refused leaves its peer alone.** -/
theorem getElem?_peers_of_refused (hg : g.Keyed) {c : PeerChange} (hc : c ∈ g.changes d.live)
    (hrefused : d.takes c = false) :
    (d.reach g).2.device.peers[c.key]? = d.device.peers[c.key]? := by
  obtain ⟨d₁, hbefore, hafter⟩ := exists_sent_reach hg hc
  rw [hafter, ← hbefore.peers]
  rcases send_cases d₁ c with ⟨-, -, hsend⟩ | ⟨htakes, -⟩
  · rw [hsend]
  · rw [hbefore.takes_eq, hrefused] at htakes
    cases htakes

/-- A peer of a tracked device is live. -/
theorem Tracked.exists_live (h : d.Tracked) {k : PublicKey} {s : PeerStatus}
    (hs : d.device.peers[k]? = some s) : ∃ previous, d.live[k]? = some previous := by
  cases hlive : d.live[k]? with
  | some previous => exact ⟨previous, rfl⟩
  | none =>
      rw [h.shows.getElem?_eq_none hlive] at hs
      cases hs

/-- **A peer that the goal has stays, with its session if nothing is gone that cannot be unset.** -/
theorem exists_peers_reach (hg : g.Keyed) {k : PublicKey} {s : PeerStatus}
    {previous next : PeerConfig} (hs : d.device.peers[k]? = some s)
    (hprev : d.live[k]? = some previous) (hnext : g.peer? k = some next) :
    ∃ s', (d.reach g).2.device.peers[k]? = some s' ∧
      (¬(Gone previous.endpoint next.endpoint ∨ Gone previous.presharedKey next.presharedKey) →
        s.SameSession s') := by
  by_cases hmem : ∃ c ∈ g.changes d.live, c.key = k
  · obtain ⟨c, hc, rfl⟩ := hmem
    have houtcome := PeerGoal.outcome_of_mem_changes hg hc
    rw [hnext] at houtcome
    cases c with
    | remove k => cases houtcome
    | set p =>
        obtain rfl := Option.some.inj houtcome
        obtain ⟨d₁, hbefore, hafter⟩ := exists_sent_reach hg hc
        have hs₁ := hbefore.peers.trans hs
        have hprev₁ := hbefore.live.trans hprev
        rw [hafter]
        rcases send_cases d₁ (.set p) with ⟨-, -, hsend⟩ | ⟨-, hsend⟩
        · rw [hsend]
          exact ⟨s, hs₁, fun _ => .refl s⟩
        · rw [hsend]
          exact PeerTable.exists_foldl_blocks hs₁ hprev₁
  · push Not at hmem
    refine ⟨s, ?_, fun _ => .refl s⟩
    rw [getElem?_peers_reach, (SameAt.foldl_send hmem).peers, hs]

/-- **An update of a tracked device keeps its sessions.** -/
theorem Tracked.keepsSessions (h : d.Tracked) (desired reachable : List PeerConfig) :
    KeepsSessions d (d.reach (.ofLists desired reachable)).2
      (d.requests ((PeerGoal.ofLists desired reachable).changes d.live)) desired reachable := by
  have hg := PeerGoal.keyed_ofLists desired reachable
  have hnodup := PeerGoal.nodup_changes hg d.live
  have hsent : ∀ e ∈ d.requests ((PeerGoal.ofLists desired reachable).changes d.live),
      ∃ c ∈ (PeerGoal.ofLists desired reachable).changes d.live,
        (c.request d.live, d.takes c) = e := by
    intro e he
    rw [requests_eq hnodup] at he
    exact List.mem_map.mp he
  constructor
  case kept =>
    intro k s hs hk
    obtain ⟨previous, hprev⟩ := h.exists_live hs
    obtain ⟨next, hnext⟩ := exists_wantedPeer hk
    obtain ⟨s', hs', hsame⟩ :=
      exists_peers_reach hg hs hprev ((PeerGoal.peer?_ofLists desired reachable k).trans hnext)
    exact ⟨previous, next, s', hprev, hnext, hs', hsame⟩
  case refused =>
    intro text k htext hk
    obtain ⟨c, hc, heq⟩ := hsent _ htext
    obtain ⟨rfl, hrefused⟩ := Prod.mk.inj heq
    rw [c.names_request] at hk
    rw [hk]
    exact getElem?_peers_of_refused hg hc hrefused
  case single =>
    rw [requests_eq hnodup, List.pairwise_map]
    refine (List.pairwise_map.mp hnodup).imp ?_
    intro c c' hne k hk hk'
    rw [PeerChange.names_request] at hk hk'
    exact hne (hk.symm.trans hk')
  case about =>
    intro e he
    obtain ⟨c, -, rfl⟩ := hsent e he
    exact ⟨c.key, c.blocks d.live, c.ofText_request d.live, c.names_request d.live⟩
  case bare =>
    intro e he line hline key value
    obtain ⟨c, -, rfl⟩ := hsent e he
    exact PeerChange.key_of_mem_lines_request hline

/-- The device after one of its peers shook hands. -/
def shaken (d : ManagedDevice MemoryDevice) (key : PublicKey) (secs : UInt64) :
    ManagedDevice MemoryDevice :=
  { d with device := (d.device.handshake key secs).2 }

theorem Tracked.shaken (h : d.Tracked) (key : PublicKey) (secs : UInt64) :
    (d.shaken key secs).Tracked := by
  unfold ManagedDevice.shaken MemoryDevice.handshake
  split
  · exact ⟨h.running, h.created, h.keyed, h.shows⟩
  · rename_i s hs
    refine ⟨h.running, h.created, h.keyed, ?_⟩
    intro k
    dsimp only
    rw [Map.getElem?_insert]
    split
    · rename_i hk
      obtain ⟨previous, hprev⟩ := h.exists_live hs
      obtain ⟨s', hs', hshows⟩ := h.shows.exists_getElem?_eq_some hprev
      obtain rfl := Option.some.inj (hs.symm.trans hs')
      rw [← hk, hprev]
      exact .some ⟨hshows.publicKey, hshows.endpoint, hshows.allowedIps, hshows.keepalive⟩
    · exact h.shows k

theorem getElem?_peers_shaken {k : PublicKey} {s : PeerStatus} (hs : d.device.peers[k]? = some s)
    (secs : UInt64) :
    (d.shaken k secs).device.peers[k]? = some { s with lastHandshake := some secs } := by
  unfold ManagedDevice.shaken MemoryDevice.handshake
  rw [hs]
  exact Std.ExtTreeMap.getElem?_insert_self

end ManagedDevice

/-! ### Histories of devices -/

/-- What happens to a node's devices from the start of the node. -/
inductive SessionEvent where
  | start (device : MemoryDevice) (config : InterfaceConfig)
  | device (e : DeviceEvent)
  /-- A peer of a device completes a handshake. -/
  | handshake (name : String) (key : PublicKey) (secs : UInt64)

namespace DeviceManager

/-- The devices after an event. -/
def proceed (m : DeviceManager MemoryDevice) : SessionEvent → DeviceManager MemoryDevice
  | .start device config =>
    match m.start device config with
    | .ok m' => m'
    | .error _ => m
  | .device e => m.after e
  | .handshake name key secs => m.modifyDevice name fun device => (device.handshake key secs).2

/-- The devices of a node after events, one after the other. -/
def afterEvents (events : List SessionEvent) : DeviceManager MemoryDevice :=
  events.foldl proceed empty

/-- Every device runs, with the peers that its manager takes it to have. -/
def TracksAll (m : DeviceManager MemoryDevice) : Prop := ∀ name d, m.find name = .ok d → d.Tracked

variable {m : DeviceManager MemoryDevice} {name : String} {d : ManagedDevice MemoryDevice}

theorem tracksAll_empty : TracksAll empty := by
  intro name d h
  rw [find_eq_ok] at h
  have hnone : (empty : DeviceManager MemoryDevice).devices[name]? = none :=
    Std.ExtTreeMap.getElem?_empty
  rw [hnone] at h
  cases h

theorem TracksAll.insert (h : m.TracksAll) (hd : d.Tracked) (name : String) :
    TracksAll ⟨m.devices.insert name d⟩ := by
  intro name' d' hfind
  rw [find_insert] at hfind
  split at hfind
  · cases hfind
    exact hd
  · exact h name' d' hfind

theorem TracksAll.modifyDevice (h : m.TracksAll) (name : String) {f : MemoryDevice → MemoryDevice}
    (hf : ∀ {d : ManagedDevice MemoryDevice}, d.Tracked → { d with device := f d.device }.Tracked) :
    (m.modifyDevice name f).TracksAll := by
  unfold DeviceManager.modifyDevice
  split
  · rename_i d hd
    exact h.insert (hf (h name d (find_eq_ok.mpr hd))) name
  · exact h

theorem TracksAll.proceed (h : m.TracksAll) (e : SessionEvent) : (m.proceed e).TracksAll := by
  cases e with
  | start device config =>
      rw [DeviceManager.proceed]
      cases hstart : m.start device config with
      | error _ => exact h
      | ok m' =>
          obtain ⟨d, hvalid, hd, rfl⟩ := start_eq_insert hstart
          exact h.insert (ManagedDevice.tracked_start hvalid hd) _
  | device e =>
      cases e with
      | update name desired reachable =>
          show (m.update name desired reachable).2.TracksAll
          cases hfind : m.find name with
          | error e =>
              rw [update, hfind]
              exact h
          | ok d =>
              have hd := h name d hfind
              rw [update_of_running hfind hd.running]
              exact h.insert (hd.reach _) name
      | refuse name keys => exact h.modifyDevice name fun hd => hd.refusing keys
  | handshake name key secs => exact h.modifyDevice name fun hd => hd.shaken key secs

/-- **Whatever happens to devices, their manager knows their peers.** -/
theorem tracksAll_afterEvents (events : List SessionEvent) : (afterEvents events).TracksAll := by
  unfold afterEvents
  suffices hrun : ∀ m : DeviceManager MemoryDevice, m.TracksAll → (events.foldl proceed m).TracksAll
    from hrun empty tracksAll_empty
  induction events with
  | nil => exact fun _ h => h
  | cons e events ih => exact fun m h => ih (m.proceed e) (h.proceed e)

/--
**Sessions survive an update.**  Whatever happened to the devices of a node, an update of
one of them succeeds.  With a recorder around the device it goes the same way, and by the
record a peer that is desired or reachable stays, with its session unless its endpoint or
its preshared key is gone; a refused peer is left as it was; and no request names a peer
that another one names, or anything of the interface.
-/
theorem keepsSessions_update {events : List SessionEvent} {name : String}
    {d : ManagedDevice MemoryDevice} (h : (afterEvents events).find name = .ok d)
    (desired reachable : List PeerConfig) :
    ∃ summary d' sent,
      ((afterEvents events).update name desired reachable).1 = .ok summary ∧
      ((afterEvents events).update name desired reachable).2.find name = .ok d' ∧
      (d.recorded []).update desired reachable = (.ok summary, d'.recorded sent) ∧
      KeepsSessions d d' sent desired reachable := by
  have hd := tracksAll_afterEvents events name d h
  rw [update_of_running h hd.running, ManagedDevice.update_recorded hd.running, List.nil_append]
  exact ⟨_, _, _, rfl, (find_insert _ _ _ _).trans (if_pos rfl), rfl,
    hd.keepsSessions desired reachable⟩

namespace Sample

/-- A peer completes a handshake, and then changes of another one are refused. -/
def sessions : List SessionEvent :=
  [.start (.named "wg0") config, .handshake "wg0" (key 2) 1700000000,
    .device (.refuse "wg0" [key 3])]

/-- The peer with the handshake, as it is wanted now. -/
def alive : PeerConfig := { peer 2 with keepalive := some 25 }

/-- The peer that is refused, as it is wanted now. -/
def refused : PeerConfig := { peer 3 with keepalive := some 25 }

end Sample

/-- The handshake of a peer outlasts an update that changes the peer. -/
theorem keepsSessions_update_alive :
    ∃ d summary d' s', (afterEvents Sample.sessions).find "wg0" = .ok d ∧
      ((afterEvents Sample.sessions).update "wg0" [Sample.alive] [Sample.refused]).1 =
        .ok summary ∧
      ((afterEvents Sample.sessions).update "wg0" [Sample.alive] [Sample.refused]).2.find "wg0" =
        .ok d' ∧
      d'.device.peers[Sample.key 2]? = some s' ∧ s'.lastHandshake = some 1700000000 := by
  have hvalid : Sample.config.validate = .ok () := by decide
  obtain ⟨m₀, hstart⟩ := exists_start empty "wg0" Std.ExtTreeMap.not_mem_empty hvalid
  obtain ⟨d, -, hd, hfind⟩ := start_eq_ok hstart
  have htracked := ManagedDevice.tracked_start hvalid hd
  have hlive : d.live[Sample.key 2]? = some (Sample.peer 2) := by
    rw [(ManagedDevice.start_eq_ok hd).2]
    dsimp only
    rw [PeerMap.getElem?_ofList]
    decide
  obtain ⟨s, hs, -⟩ := htracked.shows.exists_getElem?_eq_some hlive
  have hshaken := ManagedDevice.getElem?_peers_shaken hs 1700000000
  have hnow : (afterEvents Sample.sessions).find "wg0" =
      .ok ((d.shaken (Sample.key 2) 1700000000).refusing [Sample.key 3]) := by
    have hstarted : empty.proceed (.start (.named "wg0") Sample.config) = m₀ := by
      rw [proceed, hstart]
    rw [afterEvents, Sample.sessions, List.foldl_cons, List.foldl_cons, List.foldl_cons,
      List.foldl_nil, hstarted]
    exact find_after_refuse (find_modifyDevice hfind _) _
  obtain ⟨summary, d', sent, hanswer, hafter, -, hkeeps⟩ :=
    keepsSessions_update hnow [Sample.alive] [Sample.refused]
  obtain ⟨previous, next, s', hprev, -, hs', hsame⟩ := hkeeps.kept _ _ hshaken (by decide)
  obtain rfl := Option.some.inj (hlive.symm.trans hprev)
  have hkept := hsame (by simp [Gone, Sample.peer, PeerConfig.ofKey])
  exact ⟨_, summary, d', s', hnow, hanswer, hafter, hs', hkept.lastHandshake⟩

end DeviceManager

end TunnelMesh

/-
Peers kept warm without routes.

An update keeps the peers warm that can be reached and are not desired, and takes
their routes away.  The device may refuse that, and then the peer counts as kept warm
with the routes that it has.  There is no other way: a peer kept warm is live, and it
carries routes only if the device refused to take these very routes away and has kept
it warm with them since.

A change is followed through the whole list of changes of an update: in the end a key
has what the changes about it leave, or it has what it had and all of them were refused.
-/
import TunnelMesh.Proofs.Device.Manager
import Mathlib.Data.List.Induction

namespace TunnelMesh

/-! ### Changes about peers that are not desired -/

namespace PeerGoal

variable {g : PeerGoal} {live : PeerMap} {k : PublicKey}

/-- Every change about a peer that is not desired leaves what is kept warm of it. -/
theorem outcome_of_undesired (hg : g.Keyed) (hk : g.desired[k]? = none) {c : PeerChange}
    (hc : c ∈ g.changes live) (hkey : c.key = k) : c.outcome = g.warm[k]? := by
  rw [outcome_of_mem_changes hg hc, hkey, peer?, hk, Option.none_or]

/-- A live peer that differs from what is kept warm of it is changed to that. -/
theorem set_mem_changes {p q : PeerConfig} (hk : g.desired[k]? = none) (hp : live[k]? = some p)
    (hq : g.warm[k]? = some q) (hpq : q ≠ p) : .set q ∈ g.changes live := by
  have hsettle : g.settle k p = some (.set q) := by
    rw [settle, Std.ExtTreeMap.contains_eq_isSome_getElem?, hk, if_neg (by simp), hq]
    exact if_neg hpq
  rw [changes, List.mem_append, List.mem_append, List.mem_filterMap]
  exact .inl (.inl ⟨(k, p), Std.ExtTreeMap.mem_toList_iff_getElem?_eq_some.mpr hp, hsettle⟩)

/-- What is kept warm has no routes. -/
theorem allowedIps_of_warm {desired reachable : List PeerConfig} {q : PeerConfig}
    (h : (ofLists desired reachable).warm[k]? = some q) : q.allowedIps = [] := by
  rw [ofLists] at h
  dsimp only at h
  rw [PeerMap.getElem?_ofList, Map.lastWith_map] at h
  obtain ⟨p, -, rfl⟩ := Option.map_eq_some_iff.mp h
  rfl

end PeerGoal

/-! ### Refused changes -/

variable {δ : Type} [TunnelDevice δ]

namespace ManagedDevice

/-- **A key ends up with what the changes about it leave, or all of them were refused.** -/
theorem getElem?_live_foldl_send {k : PublicKey} {outcome : Option PeerConfig}
    (cs : List PeerChange) :
    ∀ d : ManagedDevice δ, (∀ c ∈ cs, c.key = k → c.outcome = outcome) →
      (cs.foldl send d).live[k]? = outcome ∨
        (cs.foldl send d).live[k]? = d.live[k]? ∧ ∀ c ∈ cs, c.key = k → c ∈ d.refused cs := by
  induction cs with
  | nil =>
      intro d _
      exact .inr ⟨rfl, by simp⟩
  | cons c cs ih =>
      intro d h
      have htail := ih (d.send c) fun c' hc' => h c' (List.mem_cons_of_mem _ hc')
      have hrefused : ∀ c' ∈ (d.send c).refused cs, c' ∈ d.refused (c :: cs) := by
        intro c' hc'
        rw [refused]
        exact List.mem_append_right _ hc'
      rw [List.foldl_cons]
      by_cases htaken : d.takes c = true ∧ c.key = k
      · -- The change is taken, so all that comes later leaves its outcome.
        have hlive : (d.send c).live[k]? = outcome := by
          rw [send, if_pos htaken.1, PeerChange.getElem?_apply, if_pos htaken.2]
          exact h c List.mem_cons_self htaken.2
        rw [hlive] at htail
        exact .inl (htail.elim id And.left)
      · have hlive : (d.send c).live[k]? = d.live[k]? := by
          rw [send]
          dsimp only
          split
          · rename_i htakes
            rw [PeerChange.getElem?_apply, if_neg fun hkey => htaken ⟨htakes, hkey⟩]
          · rfl
        rw [hlive] at htail
        rcases htail with htail | ⟨htail, hall⟩
        · exact .inl htail
        · refine .inr ⟨htail, ?_⟩
          intro c' hc' hkey
          rcases List.mem_cons.mp hc' with rfl | hc'
          · have hnot : ¬d.takes c' = true := fun htakes => htaken ⟨htakes, hkey⟩
            rw [refused, if_neg hnot]
            exact List.mem_append_left _ (List.mem_singleton.mpr rfl)
          · exact hrefused c' (hall c' hc' hkey)

/-! ### Updates -/

theorem mem_preconnect_reach {d : ManagedDevice δ} {g : PeerGoal} {k : PublicKey} :
    k ∈ (d.reach g).2.preconnect ↔
      k ∈ (d.reach g).2.live ∧ k ∉ g.desired ∧ (k ∈ d.preconnect ∨ k ∈ g.warm) := by
  rw [reach_snd, mem_keptWarm, foldl_send_eq]

/-- A device that moves towards a goal refuses to take the routes of a live peer away. -/
structure RefusesDemotion (d : ManagedDevice δ) (g : PeerGoal) (k : PublicKey) (p : PeerConfig) :
    Prop where
  live : d.live[k]? = some p
  routed : p.allowedIps ≠ []
  undesired : k ∉ g.desired
  refuses : ∃ q, g.warm[k]? = some q ∧ .set q ∈ d.refused (g.changes d.live)

/-- **A peer kept warm has no routes, or it has those that it had.** Then it was kept warm already,
or the device refuses to take them away. -/
theorem live_of_mem_preconnect_reach {d : ManagedDevice δ} {desired reachable : List PeerConfig}
    {k : PublicKey} (h : k ∈ (d.reach (.ofLists desired reachable)).2.preconnect) :
    ∃ p, (d.reach (.ofLists desired reachable)).2.live[k]? = some p ∧
      (p.allowedIps = [] ∨ d.RefusesDemotion (.ofLists desired reachable) k p ∨
        k ∈ d.preconnect ∧ d.live[k]? = some p) := by
  obtain ⟨hlive, hdesired, hwarm⟩ := mem_preconnect_reach.mp h
  obtain ⟨p, hp⟩ := Map.mem_iff_exists_getElem?.mp hlive
  have hnone := Std.ExtTreeMap.getElem?_eq_none hdesired
  have hg := PeerGoal.keyed_ofLists desired reachable
  refine ⟨p, hp, ?_⟩
  rw [live_reach] at hp
  have houtcome := getElem?_live_foldl_send ((PeerGoal.ofLists desired reachable).changes d.live) d
    fun c hc hkey => PeerGoal.outcome_of_undesired hg hnone hc hkey
  rw [hp] at houtcome
  rcases houtcome with hq | ⟨hold, hrefused⟩
  · exact .inl (PeerGoal.allowedIps_of_warm hq.symm)
  · by_cases hpre : k ∈ d.preconnect
    · exact .inr (.inr ⟨hpre, hold.symm⟩)
    · by_cases hroutes : p.allowedIps = []
      · exact .inl hroutes
      · obtain ⟨q, hq⟩ := Map.mem_iff_exists_getElem?.mp (hwarm.resolve_left hpre)
        have hpq : q ≠ p := by
          rintro rfl
          exact hroutes (PeerGoal.allowedIps_of_warm hq)
        have hset := PeerGoal.set_mem_changes hnone hold.symm hq hpq
        exact .inr (.inl ⟨hold.symm, hroutes, hdesired, q, hq, hrefused _ hset (hg.warm k q hq)⟩)

/-- A live peer that is only reachable is kept warm, whatever is refused. -/
theorem mem_preconnect_of_live {d : ManagedDevice δ} {p : PeerConfig}
    (hp : d.live[p.publicKey]? = some p) :
    p.publicKey ∈ (d.reach (.ofLists [] [p])).2.preconnect := by
  have hdesired : p.publicKey ∉ (PeerGoal.ofLists [] [p]).desired := Std.ExtTreeMap.not_mem_empty
  have hnone := Std.ExtTreeMap.getElem?_eq_none hdesired
  have hwarm : (PeerGoal.ofLists [] [p]).warm[p.publicKey]? = some p.withoutRoutes := by
    have hpeer := PeerGoal.peer?_ofLists [] [p] p.publicKey
    rw [PeerGoal.peer?, hnone, Option.none_or] at hpeer
    rw [hpeer]
    simp [wantedPeer, Map.lastWith]
  have hg := PeerGoal.keyed_ofLists [] [p]
  have houtcome := getElem?_live_foldl_send ((PeerGoal.ofLists [] [p]).changes d.live) d
    fun c hc hkey => PeerGoal.outcome_of_undesired hg hnone hc hkey
  have hlive : p.publicKey ∈ (d.reach (.ofLists [] [p])).2.live := by
    rw [Map.mem_iff_exists_getElem?, live_reach]
    rcases houtcome with h | ⟨h, -⟩
    · exact ⟨_, h.trans hwarm⟩
    · exact ⟨_, h.trans hp⟩
  exact mem_preconnect_reach.mpr
    ⟨hlive, hdesired, .inr (Map.mem_iff_exists_getElem?.mpr ⟨_, hwarm⟩)⟩

end ManagedDevice

/-! ### Runs -/

/-- A device that changed by itself. -/
def ManagedDevice.altered (d : ManagedDevice δ) (f : δ → δ) : ManagedDevice δ :=
  { d with device := f d.device }

namespace DeviceManager

/-- What happens to devices of any kind while they run. -/
inductive Event (δ : Type) where
  | update (name : String) (desired reachable : List PeerConfig)
  /-- A device changes by itself, and may refuse other requests from then on. -/
  | alter (name : String) (f : δ → δ)

/-- The devices after an event. -/
def handle (m : DeviceManager δ) : Event δ → DeviceManager δ
  | .update name desired reachable => (m.update name desired reachable).2
  | .alter name f => m.modifyDevice name f

/-- The devices after events, one after the other. -/
def handleAll (m : DeviceManager δ) (events : List (Event δ)) : DeviceManager δ :=
  events.foldl handle m

/-- The device of a name has a live peer among those that it keeps warm. -/
def HasWarm (m : DeviceManager δ) (name : String) (k : PublicKey) (p : PeerConfig) : Prop :=
  ∃ d, m.find name = .ok d ∧ k ∈ d.preconnect ∧ d.live[k]? = some p

/-- In the course of events a device refused to take the routes of a live peer away, and has kept
the peer warm with them since. -/
def RefusesDemotion (m : DeviceManager δ) (name : String) (events : List (Event δ)) (k : PublicKey)
    (p : PeerConfig) : Prop :=
  ∃ before desired reachable after d,
    events = before ++ .update name desired reachable :: after ∧
      (m.handleAll before).find name = .ok d ∧ d.RefusesDemotion (.ofLists desired reachable) k p ∧
        ∀ since, since <+: after →
          (m.handleAll (before ++ .update name desired reachable :: since)).HasWarm name k p

/-- The device of a name runs, and its peers kept warm are live, without routes if the device did
not refuse to take these away. -/
def KeepsWarm (m : DeviceManager δ) (name : String) (events : List (Event δ)) : Prop :=
  ∃ d, (m.handleAll events).find name = .ok d ∧ d.state = .running ∧
    ∀ k ∈ d.preconnect, ∃ p, d.live[k]? = some p ∧
      (p.allowedIps = [] ∨ m.RefusesDemotion name events k p)

variable {m : DeviceManager δ} {name : String} {events : List (Event δ)}

theorem handleAll_concat (m : DeviceManager δ) (events : List (Event δ)) (e : Event δ) :
    m.handleAll (events ++ [e]) = (m.handleAll events).handle e := by
  rw [handleAll, List.foldl_append]
  rfl

theorem RefusesDemotion.concat {k : PublicKey} {p : PeerConfig} {e : Event δ}
    (h : m.RefusesDemotion name events k p)
    (hnow : (m.handleAll (events ++ [e])).HasWarm name k p) :
    m.RefusesDemotion name (events ++ [e]) k p := by
  obtain ⟨before, desired, reachable, after, d, rfl, hfind, hd, hsince⟩ := h
  refine ⟨before, desired, reachable, after ++ [e], d, by simp, hfind, hd, ?_⟩
  intro since hprefix
  rcases List.prefix_concat_iff.mp hprefix with rfl | hprefix
  · simpa using hnow
  · exact hsince since hprefix

theorem find_alter {d : ManagedDevice δ} (h : m.find name = .ok d) (f : δ → δ) :
    (m.handle (.alter name f)).find name = .ok (d.altered f) :=
  find_modifyDevice h f

theorem find_handle_update {d : ManagedDevice δ} (h : m.find name = .ok d)
    (hd : d.state = .running) (desired reachable : List PeerConfig) :
    (m.handle (.update name desired reachable)).find name =
      .ok (d.reach (.ofLists desired reachable)).2 := by
  rw [handle, update_of_running h hd]
  exact (find_insert _ _ _ _).trans (if_pos rfl)

/-- An event about another name leaves a device as it is. -/
theorem find_handle_of_ne {d : ManagedDevice δ} (h : m.find name = .ok d) {name' : String}
    (hname : name' ≠ name) (desired reachable : List PeerConfig) (f : δ → δ) :
    (m.handle (.update name' desired reachable)).find name = .ok d ∧
      (m.handle (.alter name' f)).find name = .ok d := by
  have hinsert : ∀ d', find ⟨m.devices.insert name' d'⟩ name = .ok d := fun d' =>
    (find_insert _ _ _ _).trans ((if_neg hname).trans h)
  constructor
  · rw [handle, update]
    cases m.find name' with
    | error e => exact h
    | ok d' => exact hinsert _
  · rw [handle, modifyDevice]
    cases m.devices[name']? with
    | none => exact h
    | some d' => exact hinsert _

/-- An event that leaves a device's peers as they are breaks no promise. -/
theorem KeepsWarm.concat_of_eq {e : Event δ} {d d' : ManagedDevice δ}
    (hcold : ∀ k ∈ d.preconnect, ∃ p, d.live[k]? = some p ∧
      (p.allowedIps = [] ∨ m.RefusesDemotion name events k p))
    (hfind : (m.handleAll (events ++ [e])).find name = .ok d') (hstate : d'.state = .running)
    (hpreconnect : d'.preconnect = d.preconnect) (hlive : d'.live = d.live) :
    m.KeepsWarm name (events ++ [e]) := by
  refine ⟨d', hfind, hstate, ?_⟩
  intro k hk
  obtain ⟨p, hp, hcase⟩ := hcold k (hpreconnect ▸ hk)
  rw [← hlive] at hp
  exact ⟨p, hp, hcase.imp_right fun hrefused => hrefused.concat ⟨d', hfind, hk, hp⟩⟩

/-- **No event breaks what is promised of peers kept warm.** -/
theorem KeepsWarm.concat (h : m.KeepsWarm name events) (e : Event δ) :
    m.KeepsWarm name (events ++ [e]) := by
  obtain ⟨d, hfind, hrunning, hcold⟩ := h
  have hstep := handleAll_concat m events e
  cases e with
  | update name' desired reachable =>
      by_cases hname : name' = name
      · subst hname
        have hfind' := find_handle_update hfind hrunning desired reachable
        rw [← hstep] at hfind'
        refine ⟨_, hfind', (ManagedDevice.state_reach _ _).trans hrunning, ?_⟩
        intro k hk
        obtain ⟨p, hp, hcase⟩ := ManagedDevice.live_of_mem_preconnect_reach hk
        refine ⟨p, hp, ?_⟩
        rcases hcase with hroutes | hrefused | ⟨hpre, hold⟩
        · exact .inl hroutes
        · refine .inr ⟨events, desired, reachable, [], d, rfl, hfind, hrefused, ?_⟩
          intro since hsince
          rw [List.prefix_nil.mp hsince]
          exact ⟨_, hfind', hk, hp⟩
        · obtain ⟨p', hp', hcase⟩ := hcold k hpre
          cases hold.symm.trans hp'
          exact hcase.imp_right fun hrefused => hrefused.concat ⟨_, hfind', hk, hp⟩
      · have hfind' := (find_handle_of_ne hfind hname desired reachable id).1
        exact .concat_of_eq hcold (hstep ▸ hfind') hrunning rfl rfl
  | alter name' f =>
      by_cases hname : name' = name
      · subst hname
        have hfind' := find_alter hfind f
        rw [← hstep] at hfind'
        exact .concat_of_eq hcold hfind' hrunning rfl rfl
      · have hfind' := (find_handle_of_ne hfind hname [] [] f).2
        exact .concat_of_eq hcold (hstep ▸ hfind') hrunning rfl rfl

/-- A device that was started keeps nothing warm yet. -/
theorem keepsWarm_start {m₀ : DeviceManager δ} {device : δ} {c : InterfaceConfig}
    (h : m.start device c = .ok m₀) : m₀.KeepsWarm (TunnelDevice.name device) [] := by
  obtain ⟨d, -, hstart, hfind⟩ := start_eq_ok h
  obtain ⟨-, hd⟩ := ManagedDevice.start_eq_ok hstart
  refine ⟨d, hfind, ?_, ?_⟩
  · rw [hd]
  · intro k hk
    rw [hd] at hk
    exact absurd hk Std.ExtTreeSet.not_mem_empty

/--
**Peers kept warm are live, and carry routes only if a demotion was refused.**  Whatever
updates a device gets after its start and whatever it refuses, each key that it keeps
warm is live; and if its configuration has routes, then in one of the updates the
device refused to take them away, and the peer has been kept warm as it is ever since.
-/
theorem keepsWarm_handleAll {m₀ : DeviceManager δ} {device : δ} {c : InterfaceConfig}
    (h : m.start device c = .ok m₀) (events : List (Event δ)) :
    m₀.KeepsWarm (TunnelDevice.name device) events := by
  induction events using List.reverseRecOn with
  | nil => exact keepsWarm_start h
  | append_singleton events e ih => exact ih.concat e

end DeviceManager

/-! ### Refused demotions -/

namespace ManagedDevice

variable {d : ManagedDevice MemoryDevice}

/-- A device takes no change about a key that it refuses. -/
theorem takes_of_failing {c : PeerChange} (h : c.key ∈ d.device.failing) : d.takes c = false := by
  rw [← Bool.not_eq_true, takes_iff]
  exact fun hc => hc.2 h

theorem failing_send (d : ManagedDevice MemoryDevice) (c : PeerChange) :
    (d.send c).device.failing = d.device.failing := by
  rcases send_cases d c with ⟨-, -, h⟩ | ⟨-, h⟩
  · rw [h]
  · rw [h]
    rfl

/-- What a device has of a key that it refuses, it keeps. -/
theorem getElem?_live_of_failing {k : PublicKey} (cs : List PeerChange) :
    ∀ {d : ManagedDevice MemoryDevice}, k ∈ d.device.failing →
      (cs.foldl send d).live[k]? = d.live[k]? := by
  induction cs with
  | nil => exact fun _ => rfl
  | cons c cs ih =>
      intro d h
      rw [List.foldl_cons, ih (by rwa [failing_send]), send]
      dsimp only
      split
      · rename_i htakes
        rw [PeerChange.getElem?_apply, if_neg]
        rintro rfl
        rw [takes_of_failing h] at htakes
        cases htakes
      · rfl

/-- **A refused demotion leaves a peer with its routes among those kept warm.** -/
theorem mem_preconnect_of_failing {p : PeerConfig} (hp : d.live[p.publicKey]? = some p)
    (hk : p.publicKey ∈ d.device.failing) :
    p.publicKey ∈ (d.reach (.ofLists [] [p])).2.preconnect ∧
      (d.reach (.ofLists [] [p])).2.live[p.publicKey]? = some p := by
  refine ⟨mem_preconnect_of_live hp, ?_⟩
  rw [live_reach, getElem?_live_of_failing _ hk, hp]

theorem RefusesDemotion.not_willing {g : PeerGoal} {k : PublicKey} {p : PeerConfig}
    (h : d.RefusesDemotion g k p) : ¬d.device.Willing := by
  intro hw
  obtain ⟨q, -, hq⟩ := h.refuses
  rw [refused_of_willing _ hw] at hq
  cases hq

end ManagedDevice

namespace DeviceManager

namespace Sample

/-- A peer with a route. -/
def routed : PeerConfig := { peer 1 with allowedIps := [.host (.v4 (.ofOctets 10 0 0 1))] }

def routedConfig : InterfaceConfig := { config with peers := [routed] }

/-- The device changes by itself, and then the peer is only reachable. -/
def demotion (f : MemoryDevice → MemoryDevice) : List (Event MemoryDevice) :=
  [.alter "wg0" f, .update "wg0" [] [routed]]

end Sample

/-- A device with a routed peer is altered, and then an update only keeps the peer warm. -/
theorem find_demotion (f : MemoryDevice → MemoryDevice) :
    ∃ (m₀ : DeviceManager MemoryDevice) (d : ManagedDevice MemoryDevice),
      empty.start (.named "wg0") Sample.routedConfig = .ok m₀ ∧ d.Tracked ∧
      d.live[Sample.key 1]? = some Sample.routed ∧
      (m₀.handle (.alter "wg0" f)).find "wg0" = .ok (d.altered f) ∧
      (m₀.handleAll (Sample.demotion f)).find "wg0" =
        .ok ((d.altered f).reach (.ofLists [] [Sample.routed])).2 := by
  have hvalid : Sample.routedConfig.validate = .ok () := by decide
  obtain ⟨m₀, h⟩ := exists_start empty "wg0" Std.ExtTreeMap.not_mem_empty hvalid
  obtain ⟨d, -, hstart, hfind⟩ := start_eq_ok h
  have htracked := ManagedDevice.tracked_start hvalid hstart
  have hnamed : m₀.find "wg0" = .ok d := hfind
  have halter := find_alter hnamed f
  refine ⟨m₀, d, h, htracked, ?_, halter, ?_⟩
  · rw [(ManagedDevice.start_eq_ok hstart).2]
    dsimp only
    rw [PeerMap.getElem?_ofList]
    decide
  · exact find_handle_update halter htracked.running [] [Sample.routed]

/-- If nothing is refused, a routed peer ends up among those kept warm, without its routes. -/
theorem keepsWarm_handleAll_demotion :
    ∃ m₀ d, empty.start (.named "wg0") Sample.routedConfig = .ok m₀ ∧
      (m₀.handleAll (Sample.demotion MemoryDevice.clearFailures)).find "wg0" = .ok d ∧
      Sample.key 1 ∈ d.preconnect ∧
      ∃ p, d.live[Sample.key 1]? = some p ∧ p.allowedIps = [] := by
  obtain ⟨m₀, d, h, htracked, hlive, halter, hfind⟩ := find_demotion MemoryDevice.clearFailures
  obtain ⟨d', hfind', -, hcold⟩ :=
    keepsWarm_handleAll h (Sample.demotion MemoryDevice.clearFailures)
  cases hfind.symm.trans hfind'
  have hwarm := ManagedDevice.mem_preconnect_of_live
    (d := d.altered MemoryDevice.clearFailures) (p := Sample.routed) hlive
  obtain ⟨p, hp, hroutes | ⟨before, desired, reachable, after, d', hevents, hfind', hrefuses, -⟩⟩ :=
    hcold _ hwarm
  · exact ⟨m₀, _, h, hfind, hwarm, p, hp, hroutes⟩
  · -- The only update comes after the alteration, and then nothing is refused.
    have hbefore : before = [.alter "wg0" MemoryDevice.clearFailures] := by
      rcases before with _ | ⟨e, _ | ⟨e', before⟩⟩
      · cases hevents
      · cases hevents
        rfl
      · cases before <;> cases hevents
    subst hbefore
    cases halter.symm.trans hfind'
    exact absurd ⟨htracked.created, rfl⟩ hrefuses.not_willing

/-- A device that refuses a demotion has a routed peer among those that it keeps warm. -/
theorem routed_mem_preconnect :
    ∃ m₀ d, empty.start (.named "wg0") Sample.routedConfig = .ok m₀ ∧
      (m₀.handleAll (Sample.demotion fun device => device.failPeer (Sample.key 1))).find "wg0" =
        .ok d ∧
      Sample.key 1 ∈ d.preconnect ∧ d.live[Sample.key 1]? = some Sample.routed ∧
      Sample.routed.allowedIps ≠ [] := by
  obtain ⟨m₀, d, h, -, hlive, -, hfind⟩ :=
    find_demotion fun device => device.failPeer (Sample.key 1)
  obtain ⟨hwarm, hrouted⟩ := ManagedDevice.mem_preconnect_of_failing
    (d := d.altered fun device => device.failPeer (Sample.key 1)) (p := Sample.routed) hlive
    List.mem_cons_self
  exact ⟨m₀, _, h, hfind, hwarm, hrouted, List.cons_ne_nil _ _⟩

end DeviceManager

end TunnelMesh

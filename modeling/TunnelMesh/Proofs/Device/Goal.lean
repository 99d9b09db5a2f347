/-
Changes that lead to a goal.

No two of the three parts of a list of changes are about the same key, and none has two
changes of one, so each key has at most one change, and that leaves what the goal has
for the key.  After all of the changes the peers are those of the goal, whatever they
were before.  From there nothing is left to do.
-/
import TunnelMesh.Proofs.Device.Change

namespace TunnelMesh

namespace PeerMap

theorem getElem?_ofList (ps : List PeerConfig) (k : PublicKey) :
    (ofList ps)[k]? = Map.lastWith PeerConfig.publicKey k ps := by
  rw [ofList, Map.getElem?_foldl_insert, Std.ExtTreeMap.getElem?_empty, Option.or_none]

theorem keyed_ofList (ps : List PeerConfig) : (ofList ps).Keyed := by
  intro k p hp
  rw [getElem?_ofList] at hp
  exact (Map.lastWith_eq_some hp).2

end PeerMap

/-- The peer that is wanted for a key: as it is desired, or else reachable and without routes. -/
def wantedPeer (desired reachable : List PeerConfig) (k : PublicKey) : Option PeerConfig :=
  (Map.lastWith PeerConfig.publicKey k desired).or
    ((Map.lastWith PeerConfig.publicKey k reachable).map PeerConfig.withoutRoutes)

namespace PeerGoal

/-! ### Peers of a goal -/

/-- The peer of a goal for a key. -/
def peer? (g : PeerGoal) (k : PublicKey) : Option PeerConfig := g.desired[k]?.or g.warm[k]?

/-- The peers of a goal are listed under their keys. -/
structure Keyed (g : PeerGoal) : Prop where
  desired : g.desired.Keyed
  warm : g.warm.Keyed

theorem keyed_ofLists (desired reachable : List PeerConfig) : (ofLists desired reachable).Keyed :=
  ⟨PeerMap.keyed_ofList _, PeerMap.keyed_ofList _⟩

/-- **A goal has the peers that are wanted.** -/
theorem peer?_ofLists (desired reachable : List PeerConfig) (k : PublicKey) :
    (ofLists desired reachable).peer? k = wantedPeer desired reachable k := by
  rw [peer?, wantedPeer, ofLists]
  dsimp only
  rw [PeerMap.getElem?_ofList]
  cases hk : Map.lastWith PeerConfig.publicKey k desired with
  | some p => rfl
  | none =>
      rw [PeerMap.getElem?_ofList, Map.lastWith_map, Map.lastWith_filter]
      · rfl
      · intro p hp
        rw [Std.ExtTreeMap.contains_eq_isSome_getElem?, PeerMap.getElem?_ofList]
        have hpk : p.publicKey = k := hp
        rw [hpk, hk]
        rfl

/-! ### Changes of one key -/

/-- What is done about a key, the part that comes last first. -/
def change? (g : PeerGoal) (live : PeerMap) (k : PublicKey) : Option PeerChange :=
  (g.warm[k]?.bind (g.welcome live k)).or
    ((g.desired[k]?.bind (want live k)).or (live[k]?.bind (g.settle k)))

theorem key_of_settle {g : PeerGoal} (h : g.Keyed) {k : PublicKey} {p : PeerConfig} {c : PeerChange}
    (hc : g.settle k p = some c) : c.key = k := by
  rw [settle] at hc
  split at hc
  · cases hc
  · split at hc
    · rename_i q hq
      split at hc
      · cases hc
      · obtain rfl := Option.some.inj hc
        exact h.warm k q hq
    · obtain rfl := Option.some.inj hc
      rfl

theorem eq_of_want {live : PeerMap} {k : PublicKey} {p : PeerConfig} {c : PeerChange}
    (hc : want live k p = some c) : c = .set p := by
  rw [want] at hc
  split at hc
  · cases hc
  · exact (Option.some.inj hc).symm

theorem eq_of_welcome {g : PeerGoal} {live : PeerMap} {k : PublicKey} {p : PeerConfig}
    {c : PeerChange} (hc : g.welcome live k p = some c) : c = .set p := by
  rw [welcome] at hc
  split at hc
  · cases hc
  · exact (Option.some.inj hc).symm

theorem key_of_want {g : PeerGoal} (h : g.Keyed) {live : PeerMap} {k : PublicKey} {p : PeerConfig}
    {c : PeerChange} (hp : g.desired[k]? = some p) (hc : want live k p = some c) : c.key = k := by
  rw [eq_of_want hc]
  exact h.desired k p hp

theorem key_of_welcome {g : PeerGoal} (h : g.Keyed) {live : PeerMap} {k : PublicKey}
    {p : PeerConfig} {c : PeerChange} (hp : g.warm[k]? = some p)
    (hc : g.welcome live k p = some c) : c.key = k := by
  rw [eq_of_welcome hc]
  exact h.warm k p hp

theorem lastWith_changes {g : PeerGoal} (h : g.Keyed) (live : PeerMap) (k : PublicKey) :
    Map.lastWith PeerChange.key k (g.changes live) = g.change? live k := by
  rw [changes, Map.lastWith_append, Map.lastWith_append, change?]
  rw [Map.lastWith_filterMap_toList, Map.lastWith_filterMap_toList, Map.lastWith_filterMap_toList]
  · exact fun _ _ _ _ => key_of_settle h
  · exact fun _ _ _ => key_of_want h
  · exact fun _ _ _ => key_of_welcome h

theorem settle_of_desired {g : PeerGoal} {k : PublicKey} {p : PeerConfig}
    (h : g.desired[k]? = some p) (q : PeerConfig) : g.settle k q = none := by
  rw [settle, Std.ExtTreeMap.contains_eq_isSome_getElem?, h, if_pos (Option.isSome_some)]

theorem settle_of_not_desired {g : PeerGoal} {k : PublicKey} (h : g.desired[k]? = none)
    (q : PeerConfig) : (g.settle k q).elim (some q) PeerChange.outcome = g.warm[k]? := by
  rw [settle, Std.ExtTreeMap.contains_eq_isSome_getElem?, h, if_neg (by simp)]
  cases g.warm[k]? with
  | none => rfl
  | some p => by_cases hpq : p = q <;> simp [hpq, PeerChange.outcome]

theorem welcome_of_desired {g : PeerGoal} {k : PublicKey} {p : PeerConfig}
    (h : g.desired[k]? = some p) (live : PeerMap) (q : PeerConfig) :
    g.welcome live k q = none := by
  rw [welcome, Std.ExtTreeMap.contains_eq_isSome_getElem?, h, Option.isSome_some, Bool.true_or,
    if_pos rfl]

theorem welcome_of_live {live : PeerMap} {k : PublicKey} {p : PeerConfig} (h : live[k]? = some p)
    (g : PeerGoal) (q : PeerConfig) : g.welcome live k q = none := by
  rw [welcome, live.contains_eq_isSome_getElem?, h, Option.isSome_some, Bool.or_true, if_pos rfl]

theorem welcome_of_unknown {g : PeerGoal} {live : PeerMap} {k : PublicKey}
    (h : g.desired[k]? = none) (hlive : live[k]? = none) (q : PeerConfig) :
    g.welcome live k q = some (.set q) := by
  rw [welcome, Std.ExtTreeMap.contains_eq_isSome_getElem?, live.contains_eq_isSome_getElem?, h,
    hlive]
  rfl

/-- The change of a key leaves the peer of the goal. -/
theorem elim_change? (g : PeerGoal) (live : PeerMap) (k : PublicKey) :
    (g.change? live k).elim live[k]? PeerChange.outcome = g.peer? k := by
  rw [change?, peer?]
  cases hd : g.desired[k]? with
  | some p =>
      have hwelcome : g.warm[k]?.bind (g.welcome live k) = none := by
        rw [Option.bind_eq_none_iff]
        exact fun q _ => welcome_of_desired hd live q
      have hsettle : live[k]?.bind (g.settle k) = none := by
        rw [Option.bind_eq_none_iff]
        exact fun q _ => settle_of_desired hd q
      rw [hwelcome, hsettle, Option.none_or, Option.or_none, Option.bind_some, want]
      split
      · rename_i hlive
        rw [hlive]
        rfl
      · rfl
  | none =>
      rw [Option.bind_none, Option.none_or, Option.none_or]
      cases hl : live[k]? with
      | some q =>
          have hwelcome : g.warm[k]?.bind (g.welcome live k) = none := by
            rw [Option.bind_eq_none_iff]
            exact fun p _ => welcome_of_live hl g p
          rw [hwelcome, Option.none_or, Option.bind_some]
          exact settle_of_not_desired hd q
      | none =>
          rw [Option.bind_none, Option.or_none]
          cases g.warm[k]? with
          | none => rfl
          | some p =>
              rw [Option.bind_some, welcome_of_unknown hd hl]
              rfl

/-- **No two changes are about the same peer.** -/
theorem nodup_changes {g : PeerGoal} (h : g.Keyed) (live : PeerMap) :
    ((g.changes live).map PeerChange.key).Nodup := by
  have hsettle : ∀ k p c, live[k]? = some p → g.settle k p = some c → c.key = k :=
    fun _ _ _ _ => key_of_settle h
  have hwant : ∀ k p c, g.desired[k]? = some p → want live k p = some c → c.key = k :=
    fun _ _ _ => key_of_want h
  have hwelcome : ∀ k p c, g.warm[k]? = some p → g.welcome live k p = some c → c.key = k :=
    fun _ _ _ => key_of_welcome h
  rw [changes, List.map_append, List.map_append, List.nodup_append']
  refine ⟨List.nodup_append'.mpr ⟨Map.nodup_filterMap_toList live _ hsettle,
    Map.nodup_filterMap_toList g.desired _ hwant, ?_⟩,
    Map.nodup_filterMap_toList g.warm _ hwelcome, ?_⟩
  · -- A desired peer is never settled.
    intro k hk hk'
    obtain ⟨p, c, -, hc⟩ := Map.exists_of_mem_filterMap_toList hsettle hk
    obtain ⟨q, -, hq, -⟩ := Map.exists_of_mem_filterMap_toList hwant hk'
    rw [settle_of_desired hq] at hc
    cases hc
  · -- A peer is only welcomed if it is neither desired nor live.
    intro k hk hk'
    obtain ⟨p, c, -, hc⟩ := Map.exists_of_mem_filterMap_toList hwelcome hk'
    rcases List.mem_append.mp hk with hk | hk
    · obtain ⟨q, -, hq, -⟩ := Map.exists_of_mem_filterMap_toList hsettle hk
      rw [welcome_of_live hq] at hc
      cases hc
    · obtain ⟨q, -, hq, -⟩ := Map.exists_of_mem_filterMap_toList hwant hk
      rw [welcome_of_desired hq] at hc
      cases hc

/-- **Each change leaves what the goal has for its peer.** -/
theorem outcome_of_mem_changes {g : PeerGoal} (h : g.Keyed) {live : PeerMap} {c : PeerChange}
    (hc : c ∈ g.changes live) : c.outcome = g.peer? c.key := by
  have hlast : Map.lastWith PeerChange.key c.key (g.changes live) = some c := by
    rw [Map.lastWith]
    refine Map.find?_eq_some_of_nodup ?_ (List.mem_reverse.mpr hc)
    rw [List.map_reverse, List.nodup_reverse]
    exact nodup_changes h live
  have helim := g.elim_change? live c.key
  rwa [← lastWith_changes h, hlast] at helim

end PeerGoal

end TunnelMesh

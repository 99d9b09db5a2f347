/-
What happens to connections, one event after the other.

Three things are kept.  A connection that is not its peer's current one was told to
end.  A connection whose writer has stopped is not current; that is so before anybody
learns of a frame that was lost, which is why a sender that learns of it does not find
the connection again.  And frames keep their order: those that were sent are the first
of those that were queued.

`Registry.Change` says once what an event does to the registry, and all of it is read
off that.
-/
import TunnelMesh.Proofs.Map
import TunnelMesh.Transport.Registry

namespace TunnelMesh.Transport

/-- The elements of a list that has grown by one. -/
theorem getElem?_concat_eq_some {α : Type} {l : List α} {a b : α} {n : Nat} :
    (l ++ [a])[n]? = some b ↔ l[n]? = some b ∨ n = l.length ∧ b = a := by
  rcases Nat.lt_trichotomy n l.length with hn | hn | hn
  · simp [List.getElem?_append_left hn, Nat.ne_of_lt hn]
  · simp [hn, eq_comm]
  · have hout : (l ++ [a]).length ≤ n := by simpa using Nat.succ_le_of_lt hn
    simp [List.getElem?_eq_none hout, List.getElem?_eq_none (Nat.le_of_lt hn), Nat.ne_of_gt hn]

/-! ### One connection -/

namespace Connection

variable {c c' c'' : Connection} {f : Frame}

/-- Every frame that was queued, oldest first. -/
def frames (c : Connection) : List Frame := c.settled.map (·.1) ++ c.held.toList ++ c.queue

/-- Frames that were sent come before frames that were lost, and no frame is lost before the writer
has stopped. -/
def Ordered (c : Connection) : Prop :=
  ∃ sent lost : List Frame, c.settled = sent.map (·, .written) ++ lost.map (·, .lost) ∧
    (c.writer = .taking → lost = [])

/-- What stays of a connection whatever happens to it. -/
structure Onward (c c' : Connection) : Prop where
  peer : c'.peer = c.peer
  settled : c.settled <+: c'.settled
  cancelled : c.cancelled = true → c'.cancelled = true
  stopped : c.writer ≠ .taking → c'.writer ≠ .taking
  ordered : c.Ordered → c'.Ordered

theorem ordered_fresh (peer : RelayPeer) : (fresh peer).Ordered := ⟨[], [], rfl, fun _ => rfl⟩

theorem Onward.refl (c : Connection) : Onward c c := ⟨rfl, List.prefix_refl _, id, id, id⟩

theorem Onward.trans (h : Onward c c') (h' : Onward c' c'') : Onward c c'' :=
  ⟨h'.peer.trans h.peer, h.settled.trans h'.settled, fun hc => h'.cancelled (h.cancelled hc),
    fun hw => h'.stopped (h.stopped hw), fun ho => h'.ordered (h.ordered ho)⟩

theorem onward_push (c : Connection) (f : Frame) :
    Onward c { c with queue := c.queue ++ [f] } :=
  ⟨rfl, List.prefix_refl _, id, id, id⟩

theorem onward_cancel (c : Connection) : Onward c c.cancel :=
  ⟨rfl, List.prefix_refl _, fun _ => rfl, id, id⟩

theorem onward_leave (c : Connection) : Onward c c.leave := by
  refine ⟨rfl, List.prefix_refl _, id, fun _ => nofun, ?_⟩
  rintro ⟨sent, lost, hsettled, -⟩
  exact ⟨sent, lost, hsettled, nofun⟩

theorem onward_take (c : Connection) : Onward c c.take := by
  unfold take
  split
  · exact ⟨rfl, List.prefix_refl _, id, id, id⟩
  · exact .refl c

theorem onward_acknowledge (c : Connection) : Onward c c.acknowledge := by
  unfold acknowledge
  split
  · rename_i f hwriter hheld
    refine ⟨rfl, List.prefix_append _ _, id, id, ?_⟩
    rintro ⟨sent, lost, hsettled, hlost⟩
    exact ⟨sent ++ [f], [], by simp [hsettled, hlost hwriter], fun _ => rfl⟩
  · exact .refl c

theorem onward_report (c : Connection) : Onward c c.report := by
  unfold report
  split
  · rename_i f hwriter hheld
    refine ⟨rfl, List.prefix_append _ _, id, id, ?_⟩
    rintro ⟨sent, lost, hsettled, -⟩
    refine ⟨sent, lost ++ [f], by simp [hsettled], fun h => ?_⟩
    cases hwriter.symm.trans h
  · exact .refl c

theorem onward_endWriter (c : Connection) : Onward c c.endWriter := by
  unfold endWriter
  split
  · refine ⟨rfl, List.prefix_append _ _, id, fun _ => nofun, ?_⟩
    rintro ⟨sent, lost, hsettled, -⟩
    exact ⟨sent, lost ++ c.queue, by simp [hsettled], nofun⟩
  · exact .refl c

/-! Frames go from the queue to the writer's hand and from there to the settled ones. -/

theorem frames_push (c : Connection) (f : Frame) :
    ({ c with queue := c.queue ++ [f] } : Connection).frames = c.frames ++ [f] :=
  (List.append_assoc _ _ _).symm

theorem frames_take (c : Connection) : c.take.frames = c.frames := by
  unfold take
  split
  · rename_i hwriter hheld hqueue
    simp [frames, hheld, hqueue]
  · rfl

theorem frames_acknowledge (c : Connection) : c.acknowledge.frames = c.frames := by
  unfold acknowledge
  split
  · rename_i hwriter hheld
    simp [frames, hheld]
  · rfl

theorem frames_report (c : Connection) : c.report.frames = c.frames := by
  unfold report
  split
  · rename_i hwriter hheld
    simp [frames, hheld]
  · rfl

theorem frames_endWriter (c : Connection) : c.endWriter.frames = c.frames := by
  unfold endWriter
  split
  · rename_i hwriter hheld
    simp [frames, hheld, Function.comp_def]
  · rfl

/-! What becomes of frames. -/

theorem Onward.written (h : Onward c c') : c.written <+: c'.written := by
  obtain ⟨rest, hrest⟩ := h.settled
  rw [Connection.written, Connection.written, ← hrest, List.filter_append, List.map_append]
  exact List.prefix_append _ _

theorem Ordered.written_first (h : c.Ordered) : c.written <+: c.frames := by
  obtain ⟨sent, lost, hsettled, -⟩ := h
  have hwritten : c.written = sent := by
    simp [written, hsettled, List.filter_append, List.filter_map, Function.comp_def]
  refine ⟨lost ++ c.held.toList ++ c.queue, ?_⟩
  simp [hwritten, frames, hsettled, Function.comp_def]

theorem exists_mem_of_fate? {n : Nat} {fate : Fate} (h : c.fate? n = some fate) :
    ∃ f : Frame, f.number = n ∧ (f, fate) ∈ c.settled := by
  rw [fate?, Option.map_eq_some_iff] at h
  obtain ⟨⟨f, fate⟩, hfind, rfl⟩ := h
  exact ⟨f, by simpa using List.find?_some hfind, List.mem_of_find?_eq_some hfind⟩

theorem mem_written : f ∈ c.written ↔ (f, Fate.written) ∈ c.settled := by
  simp [written]

/-- Once a frame is lost the writer has stopped. -/
theorem Ordered.stopped_of_lost (h : c.Ordered) (hlost : (f, Fate.lost) ∈ c.settled) :
    c.writer ≠ .taking := by
  obtain ⟨sent, lost, hsettled, hnone⟩ := h
  intro hwriter
  rw [hsettled, hnone hwriter] at hlost
  simp at hlost

theorem enqueue?_eq_some (h : c.enqueue? f = some c') :
    c' = { c with queue := c.queue ++ [f] } := by
  rw [enqueue?] at h
  split at h
  · cases h
  · exact (Option.some.inj h).symm

theorem enqueue?_eq_none (h : c.enqueue? f = none) : c.writer = .ended := by
  rw [enqueue?] at h
  split at h
  · assumption
  · cases h

end Connection

/-! ### The registry -/

namespace Registry

open Connection

variable {r r' : Registry} {p q : RelayPeer} {id n : Nat} {c : Connection}

theorem find?_register (r : Registry) (p q : RelayPeer) :
    (r.register p).2.find? q = if p = q then some r.connections.length else r.find? q := by
  rw [register]
  split <;> exact Map.getElem?_insert _ _ _ _

theorem find?_remove (r : Registry) (p q : RelayPeer) (id : Nat) :
    (r.remove p id).find? q = if p = q ∧ r.find? p = some id then none else r.find? q := by
  unfold remove
  split
  · rename_i hfind
    simp only [hfind, and_true]
    exact Map.getElem?_erase _ _ _
  · rename_i hfind
    simp [hfind]

theorem getElem?_modify (r : Registry) (id : Nat) (f : Connection → Connection) (n : Nat) :
    (r.modify id f).connections[n]? =
      (r.connections[n]?).map fun c => if id = n then f c else c := by
  rw [modify, List.getElem?_modify]
  by_cases h : id = n
  · simp [h]
  · simp [h]

/-- The state before a new connection is listed: the one whose place it takes is told to end. -/
def supplant (r : Registry) (p : RelayPeer) : Registry :=
  match r.find? p with
  | some other => r.modify other .cancel
  | none => r

theorem register_eq (r : Registry) (p : RelayPeer) :
    r.register p = (r.connections.length,
      { connections := (r.supplant p).connections ++ [fresh p]
        current := r.current.insert p r.connections.length }) := by
  rw [register, supplant]
  cases r.find? p with
  | some other => simp [modify]
  | none => rfl

/-! ### Changes -/

/-- Every connection is there after a change, and has gone on. -/
structure Evolves (r r' : Registry) : Prop where
  length : r'.connections.length = r.connections.length
  onward : ∀ (n : Nat) c c', r.connections[n]? = some c → r'.connections[n]? = some c' → Onward c c'

/-- What all events have in common that register no connection. -/
structure Narrows (r r' : Registry) : Prop extends Evolves r r' where
  /-- Peers keep their connections or lose them. -/
  kept : ∀ p, r'.find? p = r.find? p ∨ r'.find? p = none
  /-- A connection that loses its place is told to end. -/
  lost : ∀ p id, r.find? p = some id → r'.find? p = none →
    ∃ c, r'.connections[id]? = some c ∧ c.cancelled = true
  /-- A connection whose writer stops loses its place. -/
  stopped : ∀ (id : Nat) c c', r.connections[id]? = some c → r'.connections[id]? = some c' →
    c.writer = .taking → c'.writer ≠ .taking → r'.find? c'.peer ≠ some id

theorem Evolves.exists_after (h : Evolves r r') (hc : r.connections[id]? = some c) :
    ∃ c', r'.connections[id]? = some c' ∧ c.Onward c' := by
  have hid : id < r'.connections.length := h.length ▸ (List.getElem?_eq_some_iff.mp hc).1
  exact ⟨_, List.getElem?_eq_getElem hid, h.onward id _ _ hc (List.getElem?_eq_getElem hid)⟩

theorem Evolves.exists_before {c' : Connection} (h : Evolves r r')
    (hc' : r'.connections[id]? = some c') : ∃ c, r.connections[id]? = some c ∧ c.Onward c' := by
  have hid : id < r.connections.length := h.length ▸ (List.getElem?_eq_some_iff.mp hc').1
  exact ⟨_, List.getElem?_eq_getElem hid, h.onward id _ _ (List.getElem?_eq_getElem hid) hc'⟩

theorem evolves_modify (r : Registry) (id : Nat) {f : Connection → Connection}
    (hf : ∀ c : Connection, c.Onward (f c)) : Evolves r (r.modify id f) := by
  refine ⟨List.length_modify _ _ _, fun n c c' hc hc' => ?_⟩
  rw [getElem?_modify, hc, Option.map_some, Option.some.injEq] at hc'
  subst hc'
  split
  · exact hf c
  · exact .refl c

theorem evolves_cancelAll (r : Registry) :
    Evolves r { r with connections := r.connections.map .cancel } := by
  refine ⟨List.length_map _, fun n c c' hc hc' => ?_⟩
  rw [List.getElem?_map, hc, Option.map_some, Option.some.injEq] at hc'
  exact hc' ▸ onward_cancel c

theorem evolves_remove (r : Registry) (p : RelayPeer) (id : Nat) : Evolves r (r.remove p id) := by
  unfold remove
  split
  · obtain ⟨hlength, honward⟩ := evolves_modify r id onward_cancel
    exact ⟨hlength, honward⟩
  · exact ⟨rfl, fun n c c' hc hc' => Option.some.inj (hc.symm.trans hc') ▸ .refl c⟩

/-- The places stay as they are. -/
theorem Evolves.narrows (h : Evolves r r') (hcurrent : r'.current = r.current)
    (htaking : ∀ (n : Nat) c c', r.connections[n]? = some c → r'.connections[n]? = some c' →
      c.writer = .taking → c'.writer = .taking) : Narrows r r' := by
  have hfind : ∀ p, r'.find? p = r.find? p := fun p => by rw [find?, find?, hcurrent]
  refine ⟨h, fun p => .inl (hfind p), fun p id hid hnone => ?_, fun id c c' hc hc' ht hs => ?_⟩
  · cases hid.symm.trans ((hfind p).symm.trans hnone)
  · exact absurd (htaking id c c' hc hc' ht) hs

theorem narrows_refl (r : Registry) : Narrows r r :=
  Evolves.narrows ⟨rfl, fun _ c _ hc hc' => Option.some.inj (hc.symm.trans hc') ▸ .refl c⟩ rfl
    fun _ _ _ hc hc' ht => Option.some.inj (hc.symm.trans hc') ▸ ht

theorem narrows_modify (r : Registry) (id : Nat) {f : Connection → Connection}
    (hf : ∀ c : Connection, c.Onward (f c))
    (htaking : ∀ c : Connection, c.writer = .taking → (f c).writer = .taking) :
    Narrows r (r.modify id f) := by
  refine (evolves_modify r id hf).narrows rfl fun n c c' hc hc' ht => ?_
  rw [getElem?_modify, hc, Option.map_some, Option.some.injEq] at hc'
  subst hc'
  split
  · exact htaking c ht
  · exact ht

theorem narrows_cancelAll (r : Registry) :
    Narrows r { r with connections := r.connections.map .cancel } := by
  refine (evolves_cancelAll r).narrows rfl fun n c c' hc hc' ht => ?_
  rw [List.getElem?_map, hc, Option.map_some, Option.some.injEq] at hc'
  exact hc' ▸ ht

theorem find?_remove_self (r : Registry) (p : RelayPeer) (id : Nat) :
    (r.remove p id).find? p ≠ some id := by
  rw [find?_remove]
  split
  · nofun
  · rename_i h
    exact fun hfind => h ⟨rfl, hfind⟩

/-- A connection is taken out of its peer's place. -/
theorem narrows_remove (hc : r.connections[id]? = some c) (p : RelayPeer) :
    Narrows r (r.remove p id) := by
  by_cases hfind : r.find? p = some id
  · have hconnections : (r.remove p id).connections = (r.modify id .cancel).connections := by
      rw [remove, if_pos hfind]
    refine ⟨evolves_remove r p id, fun q => ?_, fun q n hn hnone => ?_, fun n a a' ha ha' ht hs => ?_⟩
    · rw [find?_remove]
      split
      · exact .inr rfl
      · exact .inl rfl
    · rw [find?_remove] at hnone
      split at hnone
      · rename_i hq
        rw [← hq.1, hfind, Option.some.injEq] at hn
        subst hn
        exact ⟨c.cancel, by rw [hconnections, getElem?_modify, hc]; simp, rfl⟩
      · cases hn.symm.trans hnone
    · rw [hconnections, getElem?_modify, ha, Option.map_some, Option.some.injEq] at ha'
      subst ha'
      split at hs
      · exact absurd ht hs
      · exact absurd ht hs
  · rw [remove, if_neg hfind]
    exact narrows_refl r

/-- A connection that has lost its place stops its writer. -/
theorem Narrows.leave (h : Narrows r r') (hc : r'.connections[id]? = some c)
    (hfind : r'.find? c.peer ≠ some id) : Narrows r (r'.modify id .leave) := by
  have hnext := evolves_modify r' id onward_leave
  refine ⟨⟨hnext.length.trans h.length, fun n a a' ha ha' => ?_⟩, h.kept, fun p n hn hnone => ?_,
    fun n a a' ha ha' ht hs => ?_⟩
  · obtain ⟨b, hb, hon⟩ := h.exists_after ha
    exact hon.trans (hnext.onward n b a' hb ha')
  · obtain ⟨b, hb, hcancelled⟩ := h.lost p n hn hnone
    obtain ⟨b', hb', hon⟩ := hnext.exists_after hb
    exact ⟨b', hb', hon.cancelled hcancelled⟩
  · obtain ⟨b, hb, -⟩ := h.exists_after ha
    rw [getElem?_modify, hb, Option.map_some, Option.some.injEq] at ha'
    subst ha'
    split at hs
    · rename_i hid
      subst hid
      rw [if_pos rfl, ← Option.some.inj (hc.symm.trans hb)]
      exact hfind
    · rename_i hid
      rw [if_neg hid]
      exact h.stopped n a b ha hb ht hs

theorem narrows_endReader (r : Registry) (id : Nat) : Narrows r (r.endReader id) := by
  unfold endReader
  cases hc : r.connections[id]? with
  | none => exact narrows_refl r
  | some c => exact narrows_remove hc c.peer

theorem narrows_stopWriter (r : Registry) (id : Nat) (failed : Bool) :
    Narrows r (r.stopWriter id failed) := by
  unfold stopWriter
  cases hc : r.connections[id]? with
  | none => exact narrows_refl r
  | some c =>
      dsimp only
      split
      · have hremove := narrows_remove hc c.peer
        obtain ⟨c', hc', hon⟩ := hremove.exists_after hc
        refine hremove.leave hc' ?_
        rw [hon.peer]
        exact find?_remove_self r c.peer id
      · exact narrows_refl r

/-- What queueing a frame changes. -/
theorem enqueue?_eq_some {f : Frame} (h : r.enqueue? id f = some r') :
    ∃ c, r.connections[id]? = some c ∧
      r' = r.modify id fun c => { c with queue := c.queue ++ [f] } := by
  rw [enqueue?] at h
  cases hc : r.connections[id]? with
  | none => rw [hc] at h; cases h
  | some c =>
      rw [hc, Option.map_eq_some_iff] at h
      obtain ⟨c', hc', rfl⟩ := h
      refine ⟨c, rfl, ?_⟩
      rw [modify, List.modify_eq_set_getElem?, hc, Connection.enqueue?_eq_some hc']
      rfl

theorem enqueue?_eq_none {f : Frame} (hc : r.connections[id]? = some c)
    (h : r.enqueue? id f = none) : c.writer = .ended := by
  rw [enqueue?, hc, Option.map_eq_none_iff] at h
  exact Connection.enqueue?_eq_none h

theorem narrows_enqueue? {f : Frame} (h : r.enqueue? id f = some r') : Narrows r r' := by
  obtain ⟨-, -, rfl⟩ := enqueue?_eq_some h
  exact narrows_modify r id (fun c => onward_push c f) fun _ ht => ht

theorem narrows_step (r : Registry) (e : Event) (he : ∀ p, e ≠ .register p) :
    Narrows r (r.step e) := by
  cases e with
  | register p => exact absurd rfl (he p)
  | enqueue id f =>
      rw [step]
      cases h : r.enqueue? id f with
      | none => exact narrows_refl r
      | some r' => exact narrows_enqueue? h
  | take id => exact narrows_modify r id onward_take fun c ht => by unfold take; split <;> exact ht
  | sent id =>
      exact narrows_modify r id onward_acknowledge fun c ht => by
        unfold acknowledge; split <;> exact ht
  | failed id => exact narrows_stopWriter r id true
  | reported id =>
      exact narrows_modify r id onward_report fun c ht => by unfold report; split <;> exact ht
  | readerEnded id => exact narrows_endReader r id
  | writerEnded id => exact narrows_stopWriter r id false
  | dropped id =>
      refine narrows_modify r id onward_endWriter fun c ht => ?_
      rw [endWriter, ht]
      exact ht
  | shutdown => exact narrows_cancelAll r

/-! ### Soundness -/

/-- What holds of the connections at any time. -/
structure Sound (r : Registry) : Prop where
  /-- The current connection of a peer is one to that peer. -/
  placed : ∀ p id, r.find? p = some id → ∃ c, r.connections[id]? = some c ∧ c.peer = p
  /-- A connection is current, or was told to end. -/
  cancelled : ∀ (id : Nat) c, r.connections[id]? = some c →
    r.find? c.peer = some id ∨ c.cancelled = true
  /-- A connection whose writer has stopped is not current. -/
  stopped : ∀ (id : Nat) c, r.connections[id]? = some c → c.writer ≠ .taking →
    r.find? c.peer ≠ some id
  ordered : ∀ (id : Nat) c, r.connections[id]? = some c → c.Ordered

theorem sound_empty : Sound empty := by
  have hnone : ∀ id : Nat, empty.connections[id]? = none := fun _ => rfl
  refine ⟨fun p id h => ?_, fun id c hc => ?_, fun id c hc => ?_, fun id c hc => ?_⟩
  · cases (Std.ExtTreeMap.getElem?_empty (a := p)).symm.trans h
  all_goals cases (hnone id).symm.trans hc

theorem Narrows.find?_eq_some (h : Narrows r r') (hfind : r'.find? p = some id) :
    r.find? p = some id := by
  rcases h.kept p with hkept | hnone
  · exact hkept ▸ hfind
  · cases hnone.symm.trans hfind

theorem Sound.narrows (hr : Sound r) (h : Narrows r r') : Sound r' where
  placed p id hfind := by
    obtain ⟨c, hc, rfl⟩ := hr.placed p id (h.find?_eq_some hfind)
    obtain ⟨c', hc', hon⟩ := h.exists_after hc
    exact ⟨c', hc', hon.peer⟩
  cancelled id c' hc' := by
    obtain ⟨c, hc, hon⟩ := h.exists_before hc'
    rcases hr.cancelled id c hc with hfind | hcancelled
    · rcases h.kept c.peer with hkept | hnone
      · exact .inl (by rw [hon.peer, hkept, hfind])
      · obtain ⟨c₁, hc₁, hcancelled⟩ := h.lost c.peer id hfind hnone
        exact .inr (Option.some.inj (hc₁.symm.trans hc') ▸ hcancelled)
    · exact .inr (hon.cancelled hcancelled)
  stopped id c' hc' hs := by
    obtain ⟨c, hc, hon⟩ := h.exists_before hc'
    by_cases ht : c.writer = .taking
    · exact h.stopped id c c' hc hc' ht hs
    · exact fun hfind => hr.stopped id c hc ht (h.find?_eq_some (hon.peer ▸ hfind))
  ordered id c' hc' := by
    obtain ⟨c, hc, hon⟩ := h.exists_before hc'
    exact hon.ordered (hr.ordered id c hc)

/-! Registering takes a place, and then lists the connection. -/

theorem find?_supplant (r : Registry) (p q : RelayPeer) : (r.supplant p).find? q = r.find? q := by
  unfold supplant
  split <;> rfl

theorem narrows_supplant (r : Registry) (p : RelayPeer) : Narrows r (r.supplant p) := by
  unfold supplant
  split
  · exact narrows_modify r _ onward_cancel fun _ => id
  · exact narrows_refl r

theorem getElem?_register (r : Registry) (p : RelayPeer) (n : Nat) :
    (r.register p).2.connections[n]? = some c ↔
      (r.supplant p).connections[n]? = some c ∨ n = r.connections.length ∧ c = fresh p := by
  rw [register_eq, ← (narrows_supplant r p).length]
  exact getElem?_concat_eq_some

theorem cancelled_supplant (h : r.find? p = some id)
    (hc : (r.supplant p).connections[id]? = some c) : c.cancelled = true := by
  rw [supplant, h, getElem?_modify, Option.map_eq_some_iff] at hc
  obtain ⟨c₀, -, rfl⟩ := hc
  simp [cancel]

theorem Sound.register (hr : Sound r) (p : RelayPeer) : Sound (r.register p).2 := by
  have hsound := hr.narrows (narrows_supplant r p)
  have hlength := (narrows_supplant r p).length
  refine ⟨fun q id hfind => ?_, fun id c hc => ?_, fun id c hc hs => ?_, fun id c hc => ?_⟩
  · rw [find?_register] at hfind
    split at hfind
    · rename_i hq
      exact ⟨fresh p, (getElem?_register r p id).mpr (.inr ⟨(Option.some.inj hfind).symm, rfl⟩), hq⟩
    · rw [← find?_supplant r p] at hfind
      obtain ⟨c, hc, hpeer⟩ := hsound.placed q id hfind
      exact ⟨c, (getElem?_register r p id).mpr (.inl hc), hpeer⟩
  · rw [find?_register]
    rcases (getElem?_register r p id).mp hc with hc | ⟨rfl, rfl⟩
    · rcases hsound.cancelled id c hc with hfind | hcancelled
      · rw [find?_supplant] at hfind
        by_cases hp : p = c.peer
        · exact .inr (cancelled_supplant (hp ▸ hfind) hc)
        · exact .inl (by rw [if_neg hp, hfind])
      · exact .inr hcancelled
    · exact .inl (if_pos rfl)
  · rw [find?_register]
    rcases (getElem?_register r p id).mp hc with hc | ⟨rfl, rfl⟩
    · have hid := (List.getElem?_eq_some_iff.mp hc).1
      split
      · rw [← hlength]
        exact fun h => Nat.ne_of_gt hid (Option.some.inj h)
      · rw [← find?_supplant r p]
        exact hsound.stopped id c hc hs
    · exact absurd rfl hs
  · rcases (getElem?_register r p id).mp hc with hc | ⟨rfl, rfl⟩
    · exact hsound.ordered id c hc
    · exact ordered_fresh p

theorem Sound.step (hr : Sound r) (e : Event) : Sound (r.step e) := by
  by_cases he : ∃ p, e = .register p
  · obtain ⟨p, rfl⟩ := he
    exact hr.register p
  · exact hr.narrows (narrows_step r e fun p hp => he ⟨p, hp⟩)

/-! ### Frames -/

/-- The frames that were queued at a connection, oldest first. -/
def framesAt (r : Registry) (id : Nat) : List Frame :=
  match r.connections[id]? with
  | some c => c.frames
  | none => []

theorem framesAt_eq (hc : r.connections[id]? = some c) : r.framesAt id = c.frames := by
  rw [framesAt, hc]

theorem framesAt_modify (r : Registry) (id : Nat) (f : Connection → Connection)
    (hf : ∀ c : Connection, (f c).frames = c.frames) (n : Nat) :
    (r.modify id f).framesAt n = r.framesAt n := by
  rw [framesAt, framesAt, getElem?_modify]
  cases r.connections[n]? with
  | none => rfl
  | some c =>
      by_cases hn : id = n
      · simp [hn, hf]
      · simp [hn]

theorem framesAt_remove (r : Registry) (p : RelayPeer) (id n : Nat) :
    (r.remove p id).framesAt n = r.framesAt n := by
  unfold remove
  split
  · exact framesAt_modify r id cancel (fun _ => rfl) n
  · rfl

theorem framesAt_endReader (r : Registry) (id n : Nat) :
    (r.endReader id).framesAt n = r.framesAt n := by
  unfold endReader
  split
  · exact framesAt_remove r _ id n
  · rfl

theorem framesAt_stopWriter (r : Registry) (id : Nat) (failed : Bool) (n : Nat) :
    (r.stopWriter id failed).framesAt n = r.framesAt n := by
  unfold stopWriter
  split
  · split
    · exact (framesAt_modify _ id leave (fun _ => rfl) n).trans (framesAt_remove r _ id n)
    · rfl
  · rfl

theorem framesAt_supplant (r : Registry) (p : RelayPeer) (n : Nat) :
    (r.supplant p).framesAt n = r.framesAt n := by
  unfold supplant
  split
  · exact framesAt_modify r _ cancel (fun _ => rfl) n
  · rfl

theorem framesAt_register (r : Registry) (p : RelayPeer) (n : Nat) :
    (r.register p).2.framesAt n = r.framesAt n := by
  rw [← framesAt_supplant r p n, framesAt, framesAt]
  cases hc : (r.supplant p).connections[n]? with
  | some c => rw [(getElem?_register r p n).mpr (.inl hc)]
  | none =>
      cases hc' : (r.register p).2.connections[n]? with
      | none => rfl
      | some c' =>
          rcases (getElem?_register r p n).mp hc' with h | ⟨-, rfl⟩
          · cases hc.symm.trans h
          · rfl

/-- Frames are queued by nothing but queueing. -/
theorem framesAt_step (r : Registry) (e : Event) (he : ∀ id f, e ≠ .enqueue id f) (n : Nat) :
    (r.step e).framesAt n = r.framesAt n := by
  cases e with
  | register p => exact framesAt_register r p n
  | enqueue id f => exact absurd rfl (he id f)
  | take id => exact framesAt_modify r id _ frames_take n
  | sent id => exact framesAt_modify r id _ frames_acknowledge n
  | failed id => exact framesAt_stopWriter r id true n
  | reported id => exact framesAt_modify r id _ frames_report n
  | readerEnded id => exact framesAt_endReader r id n
  | writerEnded id => exact framesAt_stopWriter r id false n
  | dropped id => exact framesAt_modify r id _ frames_endWriter n
  | shutdown =>
      rw [step, framesAt, framesAt, List.getElem?_map]
      cases r.connections[n]? with
      | none => rfl
      | some c => rfl

theorem framesAt_enqueue? {f : Frame} (h : r.enqueue? id f = some r') (n : Nat) :
    r'.framesAt n = r.framesAt n ++ if id = n then [f] else [] := by
  obtain ⟨c, hc, rfl⟩ := enqueue?_eq_some h
  rw [framesAt, framesAt, getElem?_modify]
  by_cases hn : id = n
  · subst hn
    simp [hc, frames_push]
  · cases r.connections[n]? with
    | none => simp [hn]
    | some c' => simp [hn]

/-! ### Places -/

/-- A connection is not current any more. -/
def Gone (r : Registry) (id : Nat) : Prop :=
  id < r.connections.length ∧ ∀ p, r.find? p ≠ some id

/-- Events by which a connection ends on its own. -/
def Event.Ends (id : Nat) : Event → Prop
  | failed n | readerEnded n | writerEnded n => n = id
  | _ => False

theorem Sound.gone (hr : Sound r) (hc : r.connections[id]? = some c)
    (h : r.find? c.peer ≠ some id) : r.Gone id := by
  refine ⟨(List.getElem?_eq_some_iff.mp hc).1, fun p hp => ?_⟩
  obtain ⟨c', hc', rfl⟩ := hr.placed p id hp
  exact h (Option.some.inj (hc.symm.trans hc') ▸ hp)

theorem Narrows.gone (h : Narrows r r') (hgone : r.Gone id) : r'.Gone id :=
  ⟨h.length.symm ▸ hgone.1, fun p hp => hgone.2 p (h.find?_eq_some hp)⟩

/-- A connection that lost its place does not get it back. -/
theorem Gone.register (h : r.Gone id) (p : RelayPeer) : (r.register p).2.Gone id := by
  obtain ⟨hid, hfind⟩ := h
  refine ⟨?_, fun q => ?_⟩
  · rw [register_eq, List.length_append, (narrows_supplant r p).length]
    exact Nat.lt_succ_of_lt hid
  · rw [find?_register]
    split
    · exact fun h => Nat.ne_of_gt hid (Option.some.inj h)
    · exact hfind q

theorem Gone.step (h : r.Gone id) (e : Event) : (r.step e).Gone id := by
  by_cases he : ∃ p, e = .register p
  · obtain ⟨p, rfl⟩ := he
    exact h.register p
  · exact (narrows_step r e fun p hp => he ⟨p, hp⟩).gone h

/-- A connection is there after every event, with its peer and what was sent over it. -/
theorem exists_onward_step (hc : r.connections[id]? = some c) (e : Event) :
    ∃ c', (r.step e).connections[id]? = some c' ∧ c.Onward c' := by
  by_cases he : ∃ p, e = .register p
  · obtain ⟨p, rfl⟩ := he
    obtain ⟨c', hc', hon⟩ := (narrows_supplant r p).exists_after hc
    exact ⟨c', (getElem?_register r p id).mpr (.inl hc'), hon⟩
  · exact (narrows_step r e fun p hp => he ⟨p, hp⟩).exists_after hc

theorem find?_endReader_eq_none (hfind : r.find? p = some id)
    (h : (r.endReader n).find? p = none) : n = id := by
  unfold endReader at h
  split at h
  · rw [find?_remove] at h
    split at h
    · rename_i hn
      rw [hn.1, hfind] at hn
      exact (Option.some.inj hn.2).symm
    · cases hfind.symm.trans h
  · cases hfind.symm.trans h

theorem find?_stopWriter_eq_none {failed : Bool} (hfind : r.find? p = some id)
    (h : (r.stopWriter n failed).find? p = none) : n = id := by
  refine find?_endReader_eq_none hfind ?_
  unfold stopWriter at h
  unfold endReader
  split at h
  · split at h
    · exact h
    · cases hfind.symm.trans h
  · exact h

/-- A peer's connection stays current, unless a newer one takes its place or it ends itself. -/
theorem Sound.find?_step (hr : Sound r) (hfind : r.find? p = some id) (e : Event) :
    (r.step e).find? p = some id ∨ (∃ newer, id < newer ∧ (r.step e).find? p = some newer) ∨
      (r.step e).find? p = none ∧ e.Ends id := by
  by_cases he : ∃ q, e = .register q
  · obtain ⟨q, rfl⟩ := he
    rw [Registry.step, find?_register]
    split
    · obtain ⟨c, hc, -⟩ := hr.placed p id hfind
      exact .inr (.inl ⟨_, (List.getElem?_eq_some_iff.mp hc).1, rfl⟩)
    · exact .inl hfind
  rcases (narrows_step r e fun q hq => he ⟨q, hq⟩).kept p with hkept | hnone
  · exact .inl (hkept.trans hfind)
  refine .inr (.inr ⟨hnone, ?_⟩)
  cases e with
  | register q => exact absurd ⟨q, rfl⟩ he
  | enqueue n f =>
      rw [Registry.step] at hnone
      cases h : r.enqueue? n f with
      | none => rw [h] at hnone; cases hfind.symm.trans hnone
      | some r' =>
          obtain ⟨-, -, rfl⟩ := enqueue?_eq_some h
          rw [h] at hnone
          cases hfind.symm.trans hnone
  | failed n => exact find?_stopWriter_eq_none hfind hnone
  | readerEnded n => exact find?_endReader_eq_none hfind hnone
  | writerEnded n => exact find?_stopWriter_eq_none hfind hnone
  | take | sent | reported | dropped | shutdown => cases hfind.symm.trans hnone

end Registry

end TunnelMesh.Transport

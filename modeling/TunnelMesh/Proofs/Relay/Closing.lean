/-
Closing a bridge.

Everything is told to end: legs, and the receiver.  A forwarder that waits for the device
ends at once, but one that waits for a send learns first what came of it.  So closing is a
run of the bridge's own events that waits for sends and ends none of them; it comes to its
end once they have returned, and then no legs are left.
-/
import TunnelMesh.Proofs.Relay.Legs

namespace TunnelMesh.RelayBridge

open Net Transport

variable {σ : Type} [Sockets σ] {b : RelayBridge} {x : RelayBridge × σ} {events : List Event}
  {read : String → Option RelayUrl} {n : Nat}

/-- A bridge that was closed and has no legs. -/
structure Cleared (b : RelayBridge) : Prop where
  cancelled : b.cancelled = true
  receiving : b.receiving = false
  legs : b.legs = ∅

theorem cleared_clear (h : b.isQuiet = true) : b.clear.Cleared := by
  rw [clear, if_pos h]
  simp only [isQuiet, Bool.and_eq_true, Bool.not_eq_true'] at h
  exact ⟨h.1.1, h.1.2, rfl⟩

/-- The forwarder of a leg waits for a send that has not returned. -/
def Pending (b : RelayBridge) (l : Leg) : Prop :=
  ∃ i, l.forwarder = .sending i ∧
    ∀ send used result, (b.bind.sending? l.remote.transport).bind (fun s => s.sends[i]?) = some send →
      send.stage ≠ .returned used result

theorem modify_id (b : RelayBridge) (n : Nat) : b.modify n id = b := by
  rw [modify, List.modify_id]

theorem modify_modify (b : RelayBridge) (n : Nat) (f g : Leg → Leg) :
    (b.modify n f).modify n g = b.modify n (g ∘ f) := by
  rw [modify, modify, modify, List.modify_modify_eq]

/-- What learning does to a leg that was told to end and is not held up: its forwarder is done with
its send. -/
theorem exists_learn (b : RelayBridge) (n : Nat) : ∃ f, b.learn n = b.modify n f ∧
    ∀ l, b.opened[n]? = some l → l.cancelled = true → ¬b.Pending l →
      (f l).cancelled = true ∧ ∀ i, (f l).forwarder ≠ .sending i := by
  unfold learn
  split
  · rename_i i hl
    split
    · exact ⟨_, rfl, fun l _ _ _ => ⟨rfl, nofun⟩⟩
    · exact ⟨_, rfl, fun l _ hcancelled _ => ⟨hcancelled, nofun⟩⟩
    · rename_i hnot
      refine ⟨id, (b.modify_id n).symm, fun l hl' _ hfree => absurd ?_ hfree⟩
      cases hl.symm.trans hl'
      refine ⟨i, rfl, fun send used result hsend hstage => ?_⟩
      obtain ⟨peer, data, stage⟩ := send
      cases hstage
      exact hnot peer data used result hsend
  · rename_i hnot
    refine ⟨id, (b.modify_id n).symm, fun l hl' hcancelled _ => ⟨hcancelled, fun i hi => ?_⟩⟩
    obtain ⟨remote, address, cancelled, forwarder⟩ := l
    cases hi
    exact hnot remote address cancelled i hl'

/-- A leg that was told to end and is not held up ends. -/
theorem exists_finish (b : RelayBridge) (n : Nat) : ∃ f, b.finish n = b.modify n f ∧
    ∀ l, b.opened[n]? = some l → l.cancelled = true → ¬b.Pending l →
      (f l).cancelled = true ∧ (f l).forwarder = .ended := by
  obtain ⟨f, hf, hlearn⟩ := b.exists_learn n
  refine ⟨Leg.retire ∘ f, by rw [finish, hf, retire, modify_modify], fun l hl hcancelled hfree => ?_⟩
  obtain ⟨hstill, hdone⟩ := hlearn l hl hcancelled hfree
  rw [Function.comp_apply, Leg.retire]
  cases hforwarder : (f l).forwarder with
  | listening =>
      rw [if_pos ⟨hstill, rfl⟩]
      exact ⟨hstill, rfl⟩
  | sending i => exact absurd hforwarder (hdone i)
  | ended =>
      rw [if_neg (by simp)]
      exact ⟨hstill, hforwarder⟩

/-- Every leg was told to end, and no forwarder is held up by a send. -/
structure Ending (b : RelayBridge) : Prop where
  cancelled : ∀ l ∈ b.opened, l.cancelled = true
  free : ∀ l ∈ b.opened, ¬b.Pending l

/-- A leg is as it was, or it is the one whose forwarder was waited for, and that has ended. -/
theorem Ending.opened_finish (h : b.Ending) {i : Nat} {l' : Leg}
    (hl' : (b.finish n).opened[i]? = some l') :
    b.opened[i]? = some l' ∧ i ≠ n ∨ l'.cancelled = true ∧ l'.forwarder = .ended := by
  obtain ⟨f, hf, hfinish⟩ := b.exists_finish n
  rw [hf] at hl'
  obtain ⟨l, hl, ⟨hi, rfl⟩ | ⟨rfl, rfl⟩⟩ := exists_opened_modify hl'
  · exact .inl ⟨hl, Ne.symm hi⟩
  · have hmem := List.mem_of_getElem? hl
    exact .inr (hfinish l hl (h.cancelled l hmem) (h.free l hmem))

theorem Ending.finish (h : b.Ending) (n : Nat) : (b.finish n).Ending := by
  have hbind : (b.finish n).bind = b.bind := by
    obtain ⟨f, hf, -⟩ := b.exists_finish n
    rw [hf, modify]
  refine ⟨fun l hl => ?_, fun l hl hpending => ?_⟩ <;>
    obtain ⟨i, hi⟩ := List.mem_iff_getElem?.mp hl
  · rcases h.opened_finish hi with ⟨hold, -⟩ | ⟨hcancelled, -⟩
    · exact h.cancelled l (List.mem_of_getElem? hold)
    · exact hcancelled
  · rcases h.opened_finish hi with ⟨hold, -⟩ | ⟨-, hended⟩
    · rw [Pending, hbind] at hpending
      exact h.free l (List.mem_of_getElem? hold) hpending
    · obtain ⟨k, hk, -⟩ := hpending
      rw [hended] at hk
      cases hk

/-- Forwarders that were waited for one after the other have ended. -/
theorem Ending.ended_foldl (h : b.Ending) (ns : List Nat)
    (hrest : ∀ (n : Nat) l, b.opened[n]? = some l → n ∉ ns → l.forwarder = .ended) :
    ∀ l ∈ (ns.foldl RelayBridge.finish b).opened, l.forwarder = .ended := by
  induction ns generalizing b with
  | nil =>
      intro l hl
      obtain ⟨n, hn⟩ := List.mem_iff_getElem?.mp hl
      exact hrest n l hn (by simp)
  | cons n ns ih =>
      rw [List.foldl_cons]
      refine ih (h.finish n) fun i l hl hi => ?_
      rcases h.opened_finish hl with ⟨hold, hne⟩ | ⟨-, hended⟩
      · exact hrest i l hold (by simp [hne, hi])
      · exact hended

/-- Waiting for forwarders changes nothing but legs. -/
theorem foldl_finish_eq (b : RelayBridge) (ns : List Nat) :
    ∃ opened, ns.foldl finish b = { b with opened } := by
  induction ns generalizing b with
  | nil => exact ⟨b.opened, rfl⟩
  | cons n ns ih =>
      obtain ⟨f, hf, -⟩ := b.exists_finish n
      obtain ⟨opened, hopened⟩ := ih (b.finish n)
      exact ⟨opened, by rw [List.foldl_cons, hopened, hf, modify]⟩

theorem ending_cancel (h : ∀ l ∈ b.opened, ¬b.Pending l) : b.cancel.stopReceiving.Ending := by
  refine ⟨fun l hl => ?_, fun l hl => ?_⟩ <;> obtain ⟨l₀, hl₀, rfl⟩ := List.mem_map.mp hl
  · rfl
  · exact h l₀ hl₀

/-- **Closing comes to its end**, unless a forwarder is held up. -/
theorem cleared_close (h : ∀ l ∈ b.opened, ¬b.Pending l) : b.close.Cleared := by
  refine cleared_clear ?_
  have hended := (ending_cancel h).ended_foldl (List.range b.opened.length) fun n l hl hn => ?_
  · obtain ⟨opened, hopened⟩ := b.cancel.stopReceiving.foldl_finish_eq (List.range b.opened.length)
    rw [hopened] at hended ⊢
    simpa [isQuiet, stopReceiving, cancel] using hended
  · have hlt := (List.getElem?_eq_some_iff.mp hl).1
    rw [stopReceiving, cancel, List.length_map] at hlt
    exact absurd (List.mem_range.mpr hlt) hn

/-- What closing does to a bridge with so many legs: everything is told to end, the forwarders learn
what came of their sends and end, and legs and connections are dropped. -/
def closing (legs : Nat) : List Event :=
  .cancel :: .stopReceiving :: (List.range legs).flatMap (fun n => [.learn n, .retire n]) ++ [.clear]

theorem run_finish (read : String → Option RelayUrl) (b : RelayBridge) (host : σ) (ns : List Nat) :
    run read (b, host) (ns.flatMap fun n => [.learn n, .retire n]) = (ns.foldl finish b, host) := by
  induction ns generalizing b with
  | nil => rfl
  | cons n ns ih =>
      rw [List.flatMap_cons, run_append]
      exact ih (b.finish n)

/-- **Closing is a run** of the bridge's own events. -/
theorem run_closing (x : RelayBridge × σ) :
    run read x (closing x.1.opened.length) = (x.1.close, x.2) := by
  have hbegin : closing x.1.opened.length = [.cancel, .stopReceiving] ++
      (List.range x.1.opened.length).flatMap (fun n => [.learn n, .retire n]) ++ [.clear] := rfl
  rw [hbegin, run_concat, run_append]
  have hfinish := run_finish read x.1.cancel.stopReceiving x.2 (List.range x.1.opened.length)
  exact congrArg (step read · .clear) hfinish

/-- Nobody but the node opens legs any more. -/
theorem Cleared.step (h : x.1.Cleared) {e : Event} (he : ∀ text, e ≠ .endpointFor text) :
    (step read x e).1.Cleared := by
  have hsame : ∀ b : RelayBridge, b.cancelled = x.1.cancelled → b.receiving = x.1.receiving →
      b.legs = x.1.legs → b.Cleared :=
    fun b hc hr hl => ⟨hc.trans h.cancelled, hr.trans h.receiving, hl.trans h.legs⟩
  cases e with
  | endpointFor text => exact absurd rfl (he text)
  | deliver | retire => exact hsame _ rfl rfl rfl
  | receive =>
      rw [RelayBridge.step, receive, h.receiving]
      exact h
  | hear n data =>
      rw [RelayBridge.step, hear]
      split
      · split <;> exact hsame _ rfl rfl rfl
      · exact h
  | learn n =>
      rw [RelayBridge.step, learn]
      split
      · split <;> exact hsame _ rfl rfl rfl
      · exact h
  | goOn event => cases event <;> exact hsame _ rfl rfl rfl
  | prune =>
      refine ⟨h.cancelled, h.receiving, ?_⟩
      rw [Std.ExtTreeMap.eq_empty_iff_forall_not_mem]
      intro remote hmem
      obtain ⟨n, hn⟩ := Map.mem_iff_exists_getElem?.mp hmem
      have hold := (legs_prune.mp hn).1
      simp [h.legs] at hold
  | cancel => exact ⟨rfl, h.receiving, h.legs⟩
  | stopReceiving => exact ⟨h.cancelled, by simp [RelayBridge.step, stopReceiving, h.receiving], h.legs⟩
  | clear =>
      rw [RelayBridge.step, clear]
      split
      · exact ⟨h.cancelled, h.receiving, rfl⟩
      · exact h

theorem Cleared.run (h : x.1.Cleared) (he : ∀ text, .endpointFor text ∉ events) :
    (run read x events).1.Cleared := by
  induction events generalizing x with
  | nil => exact h
  | cons e events ih =>
      simp only [List.mem_cons, not_or] at he
      exact ih (h.step fun text => Ne.symm (he text).1) fun text => (he text).2

end TunnelMesh.RelayBridge

/-
What sends over relay connections answer.

A send to a dialed address never answers that there is no connection: it dials, and what
a dial gives is a connection or a fault of connecting.  Only a send to an accepted
connection that is gone answers so, and it has looked for the connection before.

Sends go on side by side.  One that nobody interferes with is a run of the same steps, so
that it answers nothing else.
-/
import TunnelMesh.Proofs.Transport.Sending
import TunnelMesh.Transport.WebSocket

namespace TunnelMesh.Transport

/-- What a send to a peer may answer. -/
inductive Answers (peer : RelayPeer) : Except BindError Unit → Prop where
  | sent : Answers peer (.ok ())
  /-- An accepted connection is gone. -/
  | refused {addr : Net.SocketAddress} (h : peer = .accepted addr) :
      Answers peer (.error (.notConnected peer.toText))
  /-- An address could not be dialed. -/
  | unreached {url : RelayUrl} (fault : ConnectFault) (h : peer = .dialed url) :
      Answers peer (.error (fault.error url))
  /-- The connection closed before the frame was written. -/
  | closed : Answers peer (.error (.connectionClosed peer.toText))

theorem Answers.ne_unsupported {peer : RelayPeer} {result : Except BindError Unit}
    (h : Answers peer result) (text : String) : result ≠ .error (.unsupported text) := by
  cases h with
  | unreached fault => cases fault <;> simp [ConnectFault.error]
  | _ => simp

/-- Only accepted connections are found gone. -/
theorem Answers.accepted {peer : RelayPeer} {text : String}
    (h : Answers peer (.error (.notConnected text))) : ∃ addr, peer = .accepted addr := by
  generalize hresult : (Except.error (.notConnected text) : Except BindError Unit) = result at h
  cases h with
  | refused hpeer => exact ⟨_, hpeer⟩
  | unreached fault =>
      cases fault <;> simp [ConnectFault.error] at hresult
  | _ => simp at hresult

namespace Sending

variable {s s' : Sending} {i : Nat} {x : Send} {peer : RelayPeer} {data : List UInt8}
  {stage stage' : SendStage} {entries : List (Nat × Frame)}

/-! ### Sends keep their peers -/

theorem exists_send_moveOn {j : Nat} (hi : s.sends[i]? = some x) (stage : SendStage) :
    ∃ x', (s.moveOn j stage).sends[i]? = some x' ∧ x'.peer = x.peer := by
  by_cases hj : i = j
  · subst hj
    exact ⟨_, getElem?_moveOn.mpr (.inr ⟨rfl, x, hi, rfl⟩), rfl⟩
  · exact ⟨x, getElem?_moveOn.mpr (.inl ⟨hj, hi⟩), rfl⟩

theorem exists_send_step (hi : s.sends[i]? = some x) (e : Event) :
    ∃ x', (s.step e).sends[i]? = some x' ∧ x'.peer = x.peer := by
  cases e with
  | call peer data => exact ⟨x, getElem?_concat_eq_some.mpr (.inl hi), rfl⟩
  | advance j =>
      rw [step]
      have hmove := advance_advance s j
      generalize s.advance j = s' at hmove
      generalize s.queues (.advance j) = queued at hmove
      cases hmove with
      | stay => exact ⟨x, hi, rfl⟩
      | dial => exact exists_send_moveOn (s := { s with dialing := _ }) hi _
      | queue => exact exists_send_moveOn (s := { s with dialing := _ }) hi _
      | _ => exact exists_send_moveOn hi _
  | abandon j =>
      rw [step, Sending.abandon]
      split
      · exact ⟨x, hi, rfl⟩
      · exact ⟨x, hi, rfl⟩
      · exact exists_send_moveOn (s := { s with dialing := _ }) hi _
      · exact exists_send_moveOn hi _
  | below e =>
      rcases step_below s e with heq | ⟨heq, -⟩
      · exact ⟨x, by rw [heq]; exact hi, rfl⟩
      · exact ⟨x, by rw [heq]; exact hi, rfl⟩

/-! ### Answers -/

/-- Every send that has returned has an answer that it may have. -/
def Answering (s : Sending) : Prop :=
  ∀ (i : Nat) x used result, s.sends[i]? = some x → x.stage = .returned used result →
    Answers x.peer result

theorem Answering.moveOn (h : s.Answering) (hi : s.sends[i]? = some ⟨peer, data, stage⟩)
    (hnew : ∀ used result, stage' = .returned used result → Answers peer result) :
    (s.moveOn i stage').Answering := by
  intro j y used result hj hy
  rcases getElem?_moveOn.mp hj with ⟨-, hj⟩ | ⟨-, x, hx, rfl⟩
  · exact h j y used result hj hy
  · cases hi.symm.trans hx
    exact hnew used result hy

theorem Answering.advance (h : s.Answering) (hs : Sound s entries) (i : Nat) :
    (s.advance i).Answering := by
  have hmove := advance_advance s i
  generalize s.advance i = s' at hmove
  generalize s.queues (.advance i) = queued at hmove
  cases hmove with
  | stay => exact h
  | refuse hi =>
      refine h.moveOn hi fun used result heq => ?_
      cases heq
      exact .refused rfl
  | dial hi => exact Answering.moveOn (s := { s with dialing := _ }) h hi (by simp)
  | queue hi => exact Answering.moveOn (s := { s with dialing := _ }) h hi (by simp)
  | failed hi hdial =>
      -- a dial that failed met a fault of connecting to its own address
      refine h.moveOn hi fun used result heq => ?_
      cases heq
      obtain ⟨y, hy, hpeer⟩ := hs.fits i _ hi
      cases hdial.symm.trans hy
      obtain ⟨fault, hfault⟩ := (hs.dialing.fits _ _ hdial).achieved _ rfl
      rw [hfault]
      exact .unreached fault hpeer
  | closed hi =>
      refine h.moveOn hi fun used result heq => ?_
      cases heq
      exact .closed
  | written hi =>
      refine h.moveOn hi fun used result heq => ?_
      cases heq
      exact .sent
  | lost hi =>
      refine h.moveOn hi fun used result heq => ?_
      cases heq
      exact .closed
  | _ hi => exact h.moveOn hi (by simp)

theorem Answering.abandon (h : s.Answering) (i : Nat) : (s.abandon i).Answering := by
  unfold Sending.abandon
  cases hi : s.sends[i]? with
  | none => exact h
  | some x =>
      obtain ⟨peer, data, stage⟩ := x
      cases stage with
      | returned => exact h
      | dialing k => exact Answering.moveOn (s := { s with dialing := _ }) h hi (by simp)
      | _ => exact h.moveOn hi (by simp)

theorem Answering.step (h : s.Answering) (hs : Sound s entries) (e : Event) :
    (s.step e).Answering := by
  cases e with
  | call peer data =>
      intro i x used result hi hx
      rcases getElem?_concat_eq_some.mp hi with hi | ⟨-, rfl⟩
      · exact h i x used result hi hx
      · cases hx
  | advance i => exact h.advance hs i
  | abandon i => exact h.abandon i
  | below e =>
      rcases step_below s e with heq | ⟨heq, -⟩ <;> rw [heq]
      · exact h
      · exact h

/-- **Sends answer nothing else**, in whatever order they and what they share take their steps. -/
theorem answering_run (events : List Event) : (run events).Answering := by
  induction events using List.reverseRecOn with
  | nil =>
      intro i x used result hi
      cases (show empty.sends[i]? = none from rfl).symm.trans hi
  | append_singleton events e ih =>
      rw [run_concat]
      exact ih.step (sound_run events) e

/-! ### Runs from a state -/

/-- A state is one to which events have led. -/
def Reached (s : Sending) : Prop := ∃ events, run events = s

theorem Reached.answering (h : s.Reached) : s.Answering := by
  obtain ⟨events, rfl⟩ := h
  exact answering_run events

/-- Events lead from one state to another. -/
def Leads (s s' : Sending) : Prop := ∃ events : List Event, events.foldl step s = s'

theorem Leads.refl (s : Sending) : s.Leads s := ⟨[], rfl⟩

theorem Leads.step (h : s.Leads s') (e : Event) : s.Leads (s'.step e) := by
  obtain ⟨events, rfl⟩ := h
  exact ⟨events ++ [e], by rw [List.foldl_append]; rfl⟩

theorem Reached.leads (h : s.Reached) (hs : s.Leads s') : s'.Reached := by
  obtain ⟨events, rfl⟩ := h
  obtain ⟨events', rfl⟩ := hs
  exact ⟨events ++ events', by rw [run, List.foldl_append]; rfl⟩

theorem Leads.exists_send (h : s.Leads s') (hi : s.sends[i]? = some x) :
    ∃ x', s'.sends[i]? = some x' ∧ x'.peer = x.peer := by
  obtain ⟨events, rfl⟩ := h
  induction events generalizing s x with
  | nil => exact ⟨x, hi, rfl⟩
  | cons e events ih =>
      obtain ⟨x', hx', hpeer⟩ := exists_send_step hi e
      obtain ⟨x'', hx'', hpeer'⟩ := ih hx'
      exact ⟨x'', hx'', hpeer'.trans hpeer⟩

/-- A dial that nobody interferes with takes steps like any other. -/
theorem Leads.complete (h : s.Leads s') (k : Nat) (outcome : Except ConnectFault Unit) :
    s.Leads { s' with dialing := s'.dialing.complete k outcome } :=
  (((((h.step (.below (.advance k))).step (.below (.advance k))).step
    (.below (.connected k outcome))).step (.below (.advance k))).step
      (.below (.advance k))).step (.below (.advance k))

theorem Leads.after (h : s.Leads s') (e : Registry.Event) : s.Leads (s'.after e) :=
  h.step (.below (.connection e))

end Sending

/-! ### Sends that nobody interferes with -/

namespace RelayState

variable {σ : Type} [Sockets σ] {s s' : Sending}

theorem leads_dial (h : s.Leads s') (host : σ) (i : Nat) (settings : RelaySettings) :
    s.Leads (dial s' host i settings).1 := by
  unfold dial
  split
  · exact ((h.step (.advance i)).complete _ _).step (.advance i)
  · exact h

theorem leads_write (h : s.Leads s') (host : σ) (i : Nat) : s.Leads (write s' host i).1 := by
  unfold write
  split
  · rename_i id _
    dsimp only
    have htake := (h.step (.advance i)).after (.take id)
    refine Sending.Leads.step ?_ (.advance i)
    split
    · exact htake.after (.sent id)
    · exact ((htake.after (.failed id)).after (.reported id)).after (.dropped id)
  · exact h

/-- What is left when a send is over. -/
def sent (s : RelayState) (host : σ) (settings : RelaySettings) (data : List UInt8)
    (peer : RelayPeer) : Sending :=
  let i := s.sending.sends.length
  let dialed := dial ((s.sending.call peer data).advance i) host i settings
  (write dialed.1 dialed.2 i).1

theorem sending_send (s : RelayState) (host : σ) (settings : RelaySettings) (data : List UInt8)
    (peer : RelayPeer) :
    (s.send host settings data peer).2.1.sending = s.sent host settings data peer := by
  unfold send sent
  dsimp only
  split <;> rfl

/-- A send is a run of steps that begins with its call. -/
theorem leads_sent (s : RelayState) (host : σ) (settings : RelaySettings) (data : List UInt8)
    (peer : RelayPeer) : (s.sending.call peer data).Leads (s.sent host settings data peer) :=
  leads_write (leads_dial ((Sending.Leads.refl _).step (.advance _)) host _ settings) _ _

theorem reached_sent {s : RelayState} (h : s.sending.Reached) (host : σ) (settings : RelaySettings)
    (data : List UInt8) (peer : RelayPeer) : (s.sent host settings data peer).Reached :=
  (h.leads ((Sending.Leads.refl _).step (.call peer data))).leads (leads_sent s host settings data peer)

/-- **A send answers what its peer allows.** -/
theorem answers_send {s : RelayState} (h : s.sending.Reached) (host : σ) (settings : RelaySettings)
    (data : List UInt8) (peer : RelayPeer) : Answers peer (s.send host settings data peer).1 := by
  obtain ⟨x, hx, hpeer⟩ := (leads_sent s host settings data peer).exists_send
    (getElem?_concat_eq_some.mpr (.inr ⟨rfl, rfl⟩))
  have hanswering := (reached_sent h host settings data peer).answering
  unfold send
  dsimp only
  split
  · rename_i result hstage
    cases hx.symm.trans hstage
    cases hpeer
    exact hanswering _ _ _ _ hx rfl
  · exact .closed

end RelayState

end TunnelMesh.Transport

/-
Dials of any number of sends, step by step and in any order.

What ties the dials of an address together is the table of locks: until a dial has
looked at the table a last time, the lock that it has hold of is the one listed for its
address.  So two dials of one address have the same lock, and only one of them can be
connecting.  A lock is forgotten if two have hold of it, the table and the dial that
looks; another dial of the address would be a third.

A dial that was given up, or that has looked at the table already, may have hold of a
lock that is not listed any more.  It counts among those that have hold of the lock, but
it will not lock it again.
-/
import Mathlib.Data.List.Induction
import TunnelMesh.Proofs.Transport.Registry
import TunnelMesh.Transport.Dialing

namespace TunnelMesh.Transport

/-! ### Stages -/

namespace Stage

/-- A send has hold of a lock, and has not looked at the table of locks a last time. -/
def Uses (l : Nat) : Stage → Prop
  | waiting m | locked m | connecting m | decided m _ | releasing m _ => m = l
  | dropping .. | finished _ | abandoned => False

/-- What came of a send, once that is known. -/
def result? : Stage → Option (Except BindError Nat)
  | decided _ result | releasing _ result | finished result => some result
  | dropping _ result => result
  | waiting _ | locked _ | connecting _ | abandoned => none

theorem lock?_of_uses {s : Stage} {l : Nat} (h : s.Uses l) : s.lock? = some l := by
  cases s with
  | dropping | finished | abandoned => exact h.elim
  | _ => exact congrArg some h

end Stage

namespace Dialing

variable {d d' : Dialing} {i j l : Nat} {url : RelayUrl} {s s' : Stage} {x y : Dial}

/-- The state after events, one after the other. -/
def run (events : List Event) : Dialing := events.foldl step empty

theorem run_concat (events : List Event) (e : Event) :
    run (events ++ [e]) = (run events).step e := by
  rw [run, List.foldl_append]
  rfl

theorem getElem?_moveOn :
    (d.moveOn i s).dials[j]? = some y ↔
      j ≠ i ∧ d.dials[j]? = some y ∨
        j = i ∧ ∃ x, d.dials[i]? = some x ∧ y = { x with stage := s } := by
  rw [moveOn, List.getElem?_modify]
  by_cases h : j = i
  · subst h
    simp [eq_comm]
  · simp [h, Ne.symm h]

/-! ### What a dial does in one step -/

/-- The steps that a dial can take by itself. -/
inductive Advance (d : Dialing) (i : Nat) : Dialing → Prop where
  | stay : Advance d i d
  | acquire {url : RelayUrl} {l : Nat} (h : d.dials[i]? = some ⟨url, .waiting l⟩)
      (hfree : d.isLocked l = false) : Advance d i (d.moveOn i (.locked l))
  | find {url : RelayUrl} {l id : Nat} (h : d.dials[i]? = some ⟨url, .locked l⟩)
      (hfind : d.registry.find? (.dialed url) = some id) :
      Advance d i (d.moveOn i (.decided l (.ok id)))
  | connect {url : RelayUrl} {l : Nat} (h : d.dials[i]? = some ⟨url, .locked l⟩)
      (hfind : d.registry.find? (.dialed url) = none) : Advance d i (d.moveOn i (.connecting l))
  | release {url : RelayUrl} {l : Nat} {result : Except BindError Nat}
      (h : d.dials[i]? = some ⟨url, .decided l result⟩) :
      Advance d i (d.moveOn i (.releasing l result))
  | forget {url : RelayUrl} {l : Nat} {result : Except BindError Nat}
      (h : d.dials[i]? = some ⟨url, .releasing l result⟩) :
      Advance d i ((d.forget url l).moveOn i (.dropping l (some result)))
  | drop {url : RelayUrl} {l : Nat} {result : Option (Except BindError Nat)}
      (h : d.dials[i]? = some ⟨url, .dropping l result⟩) :
      Advance d i (d.moveOn i (.ofResult result))

theorem advance_advance (d : Dialing) (i : Nat) : Advance d i (d.advance i) := by
  unfold advance
  cases h : d.dials[i]? with
  | none => exact .stay
  | some x =>
      obtain ⟨url, stage⟩ := x
      cases stage with
      | waiting l =>
          dsimp only
          split
          · exact .stay
          · rename_i hlocked
            exact .acquire h (Bool.not_eq_true _ |>.mp hlocked)
      | locked l =>
          dsimp only
          cases hfind : d.registry.find? (.dialed url) with
          | some id => exact .find h hfind
          | none => exact .connect h hfind
      | decided l result => exact .release h
      | releasing l result => exact .forget h
      | dropping l result => exact .drop h
      | connecting | finished | abandoned => exact .stay

/-- The outcome of connecting changes the one dial that is connecting. -/
theorem connected_cases (d : Dialing) (i : Nat) (outcome : Except ConnectFault Unit) :
    d.connected i outcome = d ∨
      ∃ url l, d.dials[i]? = some ⟨url, .connecting l⟩ ∧
        ((∃ id registry, d.registry.register (.dialed url) = (id, registry) ∧
            d.connected i outcome = { d with registry }.moveOn i (.decided l (.ok id))) ∨
          ∃ fault : ConnectFault,
            d.connected i outcome = d.moveOn i (.decided l (.error (fault.error url)))) := by
  unfold connected
  cases h : d.dials[i]? with
  | none => exact .inl rfl
  | some x =>
      obtain ⟨url, stage⟩ := x
      cases stage with
      | connecting l =>
          refine .inr ⟨url, l, rfl, ?_⟩
          cases outcome with
          | ok => exact .inl ⟨_, _, rfl, rfl⟩
          | error fault => exact .inr ⟨fault, rfl⟩
      | _ => exact .inl rfl

theorem abandon_cases (d : Dialing) (i : Nat) :
    d.abandon i = d ∨ ∃ x l, d.dials[i]? = some x ∧ x.stage.lock? = some l ∧
      d.abandon i = d.moveOn i (.dropping l none) := by
  unfold abandon
  cases h : d.dials[i]? with
  | none => exact .inl rfl
  | some x =>
      cases hl : x.stage.lock? with
      | none => left; simp [hl]
      | some l => exact .inr ⟨x, l, rfl, hl, by simp [hl]⟩

/-! ### Locks -/

/-- Locks in use are listed, and a lock has one owner at most. -/
structure Locking (d : Dialing) : Prop where
  listed : ∀ (i : Nat) url s l, d.dials[i]? = some ⟨url, s⟩ → s.Uses l → d.locks[url]? = some l
  exclusive : ∀ (i j : Nat) x y l, d.dials[i]? = some x → d.dials[j]? = some y →
    x.stage.owns l = true → y.stage.owns l = true → i = j

theorem isLocked_of_owns (hi : d.dials[i]? = some x) (h : x.stage.owns l = true) :
    d.isLocked l = true :=
  List.any_eq_true.mpr ⟨x, List.mem_of_getElem? hi, h⟩

/-- A dial moves on; it takes no lock but one that is free. -/
theorem Locking.moveOn (h : Locking d) (hi : d.dials[i]? = some ⟨url, s⟩)
    (huses : ∀ l, s'.Uses l → s.Uses l)
    (howns : ∀ l, s'.owns l = true → s.owns l = true ∨ d.isLocked l = false) :
    Locking (d.moveOn i s') := by
  -- the owner of a lock is another dial, which had it before, or the one that moves
  have hother : ∀ (j : Nat) y l, j ≠ i → d.dials[j]? = some y → y.stage.owns l = true →
      s'.owns l ≠ true := by
    intro j y l hne hj hy hs'
    rcases howns l hs' with hs | hfree
    · exact hne (h.exclusive j i _ _ l hj hi hy hs)
    · rw [isLocked_of_owns hj hy] at hfree
      cases hfree
  refine ⟨fun j url' t l hj ht => ?_, fun j k x y l hj hk hx hy => ?_⟩
  · rcases getElem?_moveOn.mp hj with ⟨-, hj⟩ | ⟨-, x, hx, heq⟩
    · exact h.listed j url' t l hj ht
    · rw [hi] at hx
      cases hx
      cases heq
      exact h.listed i url s l hi (huses l ht)
  · rcases getElem?_moveOn.mp hj with ⟨hji, hj⟩ | ⟨hji, x₀, -, rfl⟩
    · rcases getElem?_moveOn.mp hk with ⟨-, hk⟩ | ⟨-, y₀, -, rfl⟩
      · exact h.exclusive j k x y l hj hk hx hy
      · exact absurd hy (hother j x l hji hj hx)
    · rcases getElem?_moveOn.mp hk with ⟨hki, hk⟩ | ⟨hki, y₀, -, rfl⟩
      · exact absurd hx (hother k y l hki hk hy)
      · rw [hji, hki]

/-- The lock of an address that no dial uses is forgotten. -/
theorem Locking.erase (h : Locking d)
    (hunused : ∀ (i : Nat) s l, d.dials[i]? = some ⟨url, s⟩ → ¬s.Uses l) :
    Locking { d with locks := d.locks.erase url } := by
  refine ⟨fun i url' s l hi hs => ?_, h.exclusive⟩
  rw [Map.getElem?_erase]
  split
  · rename_i hurl
    subst hurl
    exact absurd hs (hunused i s l hi)
  · exact h.listed i url' s l hi hs

/-- The table and two dials are three that have hold of a lock. -/
theorem two_lt_holders (hlock : d.locks[url]? = some l) (hi : d.dials[i]? = some x)
    (hj : d.dials[j]? = some y) (hne : i ≠ j) (hx : x.stage.lock? = some l)
    (hy : y.stage.lock? = some l) : 2 < d.holders l := by
  have htable : 0 < (d.locks.toList.filter fun e => e.2 == l).length :=
    List.length_pos_of_mem (a := (url, l)) (List.mem_filter.mpr
      ⟨Std.ExtTreeMap.mem_toList_iff_getElem?_eq_some.mpr hlock, by simp⟩)
  have hdials : ∀ (m n : Nat) a b, d.dials[m]? = some a → d.dials[n]? = some b → m < n →
      a.stage.lock? = some l → b.stage.lock? = some l →
        2 ≤ (d.dials.filter fun x => x.stage.lock? == some l).length := by
    intro m n a b hm hn hmn ha hb
    have hmem : a ∈ (d.dials.take n).filter fun x => x.stage.lock? == some l :=
      List.mem_filter.mpr
        ⟨List.mem_of_getElem? ((List.getElem?_take_of_lt hmn).trans hm), by simp [ha]⟩
    have hmem' : b ∈ (d.dials.drop n).filter fun x => x.stage.lock? == some l :=
      List.mem_filter.mpr
        ⟨List.mem_of_getElem? (i := 0) (by rw [List.getElem?_drop]; exact hn), by simp [hb]⟩
    have htake := List.length_pos_of_mem hmem
    have hdrop := List.length_pos_of_mem hmem'
    rw [← List.take_append_drop n d.dials, List.filter_append, List.length_append]
    omega
  have htwo : 2 ≤ (d.dials.filter fun x => x.stage.lock? == some l).length := by
    rcases Nat.lt_or_gt_of_ne hne with hlt | hgt
    · exact hdials i j x y hi hj hlt hx hy
    · exact hdials j i y x hj hi hgt hy hx
  rw [holders]
  omega

/-- A dial that looks at the table a last time forgets the lock, or leaves the table alone. -/
theorem Locking.forget {result : Except BindError Nat} (h : Locking d)
    (hi : d.dials[i]? = some ⟨url, .releasing l result⟩) :
    Locking ((d.forget url l).moveOn i (.dropping l (some result))) := by
  have hmoved : Locking (d.moveOn i (.dropping l (some result))) :=
    h.moveOn hi (fun _ hu => hu.elim) fun _ ho => by cases ho
  unfold Dialing.forget
  split
  · rename_i hholders
    refine Locking.erase (d := d.moveOn i (.dropping l (some result))) hmoved ?_
    intro j s m hj hs
    rcases getElem?_moveOn.mp hj with ⟨hne, hj⟩ | ⟨-, x, -, heq⟩
    · -- another dial of the address has hold of the same lock
      have hlock := h.listed i url _ l hi rfl
      obtain rfl := Option.some.inj (hlock.symm.trans (h.listed j url s m hj hs))
      exact Nat.not_lt.mpr hholders
        (two_lt_holders hlock hi hj hne.symm rfl (Stage.lock?_of_uses hs))
    · cases heq
      exact hs.elim
  · exact hmoved

theorem Locking.begin (h : Locking d) (url : RelayUrl) : Locking (d.begin url) := by
  -- a dial that waits for the lock that is listed owns nothing
  have hadd : ∀ (locks : Std.ExtTreeMap RelayUrl Nat) (next l : Nat), locks[url]? = some l →
      (∀ (i : Nat) url' s m, d.dials[i]? = some ⟨url', s⟩ → s.Uses m → locks[url']? = some m) →
      Locking { d with locks, nextLock := next, dials := d.dials ++ [⟨url, .waiting l⟩] } := by
    intro locks next l hl hlisted
    refine ⟨fun i url' s m hi hs => ?_, fun i j x y m hi hj hx hy => ?_⟩
    · rcases getElem?_concat_eq_some.mp hi with hi | ⟨-, heq⟩
      · exact hlisted i url' s m hi hs
      · cases heq
        exact hs ▸ hl
    · rcases getElem?_concat_eq_some.mp hi with hi | ⟨-, rfl⟩
      · rcases getElem?_concat_eq_some.mp hj with hj | ⟨-, rfl⟩
        · exact h.exclusive i j x y m hi hj hx hy
        · cases hy
      · cases hx
  unfold Dialing.begin
  cases hl : d.locks[url]? with
  | some l => exact hadd d.locks d.nextLock l hl h.listed
  | none =>
      refine hadd _ _ _ ?_ fun i url' s m hi hs => ?_
      · rw [Map.getElem?_insert, if_pos rfl]
      · rw [Map.getElem?_insert]
        split
        · rename_i hurl
          subst hurl
          cases hl.symm.trans (h.listed i url s m hi hs)
        · exact h.listed i url' s m hi hs

/-! ### Connections -/

/-- What a dial has come to is so: its connection is one to the address, or connecting failed. -/
def Achieved (r : Registry) (url : RelayUrl) : Except BindError Nat → Prop
  | .ok id => ∃ c, r.connections[id]? = some c ∧ c.peer = .dialed url
  | .error e => ∃ fault : ConnectFault, e = fault.error url

/-- How a dial and the connections fit together: while it is connecting there is no connection to
its address. -/
structure Fits (r : Registry) (x : Dial) : Prop where
  vacant : ∀ l, x.stage = .connecting l → r.find? (.dialed x.url) = none
  achieved : ∀ result, x.stage.result? = some result → Achieved r x.url result

theorem Achieved.step {r : Registry} {result : Except BindError Nat} (h : Achieved r url result)
    (e : Registry.Event) : Achieved (r.step e) url result := by
  cases result with
  | error fault => exact h
  | ok id =>
      obtain ⟨c, hc, hpeer⟩ := h
      obtain ⟨c', hc', hon⟩ := Registry.exists_onward_step hc e
      exact ⟨c', hc', hon.peer.trans hpeer⟩

/-- Other events at connections than registering one to the dial's address. -/
theorem Fits.step {r : Registry} (h : Fits r x) (e : Registry.Event)
    (he : e ≠ .register (.dialed x.url)) : Fits (r.step e) x := by
  refine ⟨fun l hl => ?_, fun result hresult => (h.achieved result hresult).step e⟩
  have hnone := h.vacant l hl
  by_cases hregister : ∃ p, e = .register p
  · obtain ⟨p, rfl⟩ := hregister
    rw [Registry.step, Registry.find?_register, if_neg fun hp => he (congrArg _ hp)]
    exact hnone
  · rcases (Registry.narrows_step r e fun p hp => hregister ⟨p, hp⟩).kept (.dialed x.url) with hk | hk
    · exact hk.trans hnone
    · exact hk

/-! ### Every step -/

/-- What holds of the dials and what they share at any time. -/
structure Sound (d : Dialing) : Prop where
  registry : d.registry.Sound
  locking : Locking d
  fits : ∀ (i : Nat) x, d.dials[i]? = some x → Fits d.registry x

/-- A dial moves on and leaves the connections alone. -/
theorem Sound.moveOn (h : Sound d) (hi : d.dials[i]? = some ⟨url, s⟩)
    (hlocking : Locking (d.moveOn i s')) (hfits : Fits d.registry ⟨url, s'⟩) :
    Sound (d.moveOn i s') := by
  refine ⟨h.registry, hlocking, fun j y hj => ?_⟩
  rcases getElem?_moveOn.mp hj with ⟨-, hj⟩ | ⟨-, x, hx, rfl⟩
  · exact h.fits j y hj
  · cases hi.symm.trans hx
    exact hfits

/-- A stage at which nothing new is known. -/
theorem Fits.of_result {r : Registry} (h : Fits r ⟨url, s⟩) (hconnecting : ∀ l, s' ≠ .connecting l)
    (hresult : ∀ result, s'.result? = some result → s.result? = some result) :
    Fits r ⟨url, s'⟩ :=
  ⟨fun l hl => absurd hl (hconnecting l), fun result hr => h.achieved result (hresult result hr)⟩

/-- A dial that goes on without the lock. -/
theorem Sound.moveOff (h : Sound d) (hi : d.dials[i]? = some ⟨url, s⟩)
    (huses : ∀ l, s'.Uses l → s.Uses l) (howns : ∀ l, s'.owns l = false)
    (hresult : ∀ result, s'.result? = some result → s.result? = some result) :
    Sound (d.moveOn i s') := by
  refine h.moveOn hi (h.locking.moveOn hi huses fun l hl => ?_) ((h.fits i _ hi).of_result ?_ hresult)
  · cases (howns l).symm.trans hl
  · rintro l rfl
    exact Bool.noConfusion ((howns l).symm.trans (beq_self_eq_true l))

theorem registry_forget (d : Dialing) (url : RelayUrl) (l : Nat) :
    (d.forget url l).registry = d.registry := by
  unfold Dialing.forget
  split <;> rfl

theorem dials_forget (d : Dialing) (url : RelayUrl) (l : Nat) :
    (d.forget url l).dials = d.dials := by
  unfold Dialing.forget
  split <;> rfl

theorem Sound.advance (h : Sound d) (i : Nat) : Sound (d.advance i) := by
  have hmove := advance_advance d i
  generalize d.advance i = d' at hmove
  cases hmove with
  | stay => exact h
  | acquire hi hfree =>
      refine h.moveOn hi (h.locking.moveOn hi (fun _ hu => hu) fun m hm => .inr ?_)
        ((h.fits i _ hi).of_result (by simp) fun _ hr => by cases hr)
      rw [beq_iff_eq.mp hm]
      exact hfree
  | find hi hfind =>
      refine h.moveOn hi (h.locking.moveOn hi (fun _ hu => hu) fun _ ho => .inl ho)
        ⟨by simp, fun result hresult => ?_⟩
      cases hresult
      exact h.registry.placed _ _ hfind
  | connect hi hfind =>
      exact h.moveOn hi (h.locking.moveOn hi (fun _ hu => hu) fun _ ho => .inl ho)
        ⟨fun _ _ => hfind, fun _ hr => by cases hr⟩
  | release hi => exact h.moveOff hi (fun _ hu => hu) (fun _ => rfl) fun _ hr => hr
  | @forget url l result hi =>
      have hmoved : Sound (d.moveOn i (.dropping l (some result))) :=
        h.moveOff hi (fun _ hu => hu.elim) (fun _ => rfl) fun _ hr => hr
      refine ⟨?_, h.locking.forget hi, fun j y hj => ?_⟩
      · rw [Dialing.moveOn, registry_forget]
        exact h.registry
      · rw [Dialing.moveOn, dials_forget] at hj
        rw [Dialing.moveOn, registry_forget]
        exact hmoved.fits j y hj
  | @drop url l result hi =>
      cases result with
      | none => exact h.moveOff hi (fun _ hu => hu.elim) (fun _ => rfl) fun _ hr => by cases hr
      | some result => exact h.moveOff hi (fun _ hu => hu.elim) (fun _ => rfl) fun _ hr => hr

/-- A dial that has connected registers its connection, and no other dial was connecting to the
same address. -/
theorem Sound.register {id : Nat} {registry : Registry} (h : Sound d)
    (hi : d.dials[i]? = some ⟨url, .connecting l⟩)
    (hregister : d.registry.register (.dialed url) = (id, registry)) :
    Sound ({ d with registry }.moveOn i (.decided l (.ok id))) := by
  have hstep : registry = d.registry.step (.register (.dialed url)) := by
    rw [Registry.step, hregister]
  have hid : id = d.registry.connections.length := by
    rw [Registry.register_eq] at hregister
    exact (congrArg Prod.fst hregister).symm
  have hlocking : Locking (d.moveOn i (.decided l (.ok id))) :=
    h.locking.moveOn hi (fun _ hu => hu) fun _ ho => .inl ho
  refine ⟨?_, ⟨hlocking.listed, hlocking.exclusive⟩, fun j y hj => ?_⟩
  · show registry.Sound
    rw [hstep]
    exact h.registry.step _
  rcases getElem?_moveOn.mp hj with ⟨hne, hj⟩ | ⟨-, x, hx, rfl⟩
  · by_cases hurl : y.url = url
    · -- a dial to the same address has the same lock, and does not own it
      refine ⟨fun m hm => ?_, fun result hr => ?_⟩
      · obtain ⟨_, s⟩ := y
        cases hm
        cases hurl
        have hm := h.locking.listed j _ _ m hj rfl
        obtain rfl := Option.some.inj ((h.locking.listed i _ _ l hi rfl).symm.trans hm)
        exact absurd (h.locking.exclusive j i _ _ l hj hi (beq_self_eq_true l) (beq_self_eq_true l))
          hne
      · show Achieved registry y.url result
        rw [hstep]
        exact ((h.fits j y hj).achieved result hr).step _
    · show Fits registry y
      rw [hstep]
      refine (h.fits j y hj).step _ fun he => hurl ?_
      cases he
      rfl
  · cases hi.symm.trans hx
    refine ⟨by simp, fun result hr => ?_⟩
    cases hr
    refine ⟨.fresh (.dialed url), ?_, rfl⟩
    show registry.connections[id]? = _
    rw [hstep]
    exact (Registry.getElem?_register _ _ _).mpr (.inr ⟨hid, rfl⟩)

theorem Sound.connected (h : Sound d) (i : Nat) (outcome : Except ConnectFault Unit) :
    Sound (d.connected i outcome) := by
  rcases connected_cases d i outcome with heq | ⟨url, l, hi, ⟨id, registry, hregister, heq⟩ | ⟨f, heq⟩⟩
  · rw [heq]
    exact h
  · rw [heq]
    exact h.register hi hregister
  · rw [heq]
    refine h.moveOn hi (h.locking.moveOn hi (fun _ hu => hu) fun _ ho => .inl ho)
      ⟨by simp, fun result hr => ?_⟩
    cases hr
    exact ⟨f, rfl⟩

theorem Sound.abandon (h : Sound d) (i : Nat) : Sound (d.abandon i) := by
  rcases abandon_cases d i with heq | ⟨x, l, hi, -, heq⟩
  · rw [heq]
    exact h
  · rw [heq]
    exact h.moveOff hi (fun _ hu => hu.elim) (fun _ => rfl) fun _ hr => by cases hr

theorem mem_dials_begin (hi : (d.begin url).dials[i]? = some x) :
    d.dials[i]? = some x ∨ ∃ l, x = ⟨url, .waiting l⟩ := by
  unfold Dialing.begin at hi
  split at hi
  · exact (getElem?_concat_eq_some.mp hi).imp id fun h => ⟨_, h.2⟩
  · exact (getElem?_concat_eq_some.mp hi).imp id fun h => ⟨_, h.2⟩

theorem registry_begin (d : Dialing) (url : RelayUrl) : (d.begin url).registry = d.registry := by
  unfold Dialing.begin
  split <;> rfl

theorem Sound.begin (h : Sound d) (url : RelayUrl) : Sound (d.begin url) := by
  refine ⟨registry_begin d url ▸ h.registry, h.locking.begin url, fun i x hi => ?_⟩
  rw [registry_begin]
  rcases mem_dials_begin hi with hi | ⟨l, rfl⟩
  · exact h.fits i x hi
  · exact ⟨by simp, fun _ hr => by cases hr⟩

/-- What happens to connections by itself leaves the dials alone and registers none to a dialed
address. -/
theorem step_connection (d : Dialing) (e : Registry.Event) :
    d.step (.connection e) = d ∨
      d.step (.connection e) = { d with registry := d.registry.step e } ∧
        ∀ url, e ≠ .register (.dialed url) := by
  cases e with
  | register p =>
      cases p with
      | dialed url => exact .inl rfl
      | accepted addr => exact .inr ⟨rfl, by simp⟩
  | _ => exact .inr ⟨rfl, by simp⟩

theorem Sound.step (h : Sound d) (e : Event) : Sound (d.step e) := by
  cases e with
  | begin url => exact h.begin url
  | advance i => exact h.advance i
  | connected i outcome => exact h.connected i outcome
  | abandon i => exact h.abandon i
  | connection e =>
      rcases step_connection d e with heq | ⟨heq, he⟩
      · rw [heq]
        exact h
      · rw [heq]
        exact ⟨h.registry.step e, ⟨h.locking.listed, h.locking.exclusive⟩,
          fun i x hi => (h.fits i x hi).step e (he x.url)⟩

theorem sound_empty : Sound empty := by
  have hnone : ∀ i : Nat, empty.dials[i]? = none := fun _ => rfl
  refine ⟨Registry.sound_empty, ⟨fun i url s l hi => ?_, fun i j x y l hi => ?_⟩, fun i x hi => ?_⟩
  all_goals cases (hnone i).symm.trans hi

theorem sound_run (events : List Event) : Sound (run events) := by
  induction events using List.reverseRecOn with
  | nil => exact sound_empty
  | append_singleton events e ih =>
      rw [run_concat]
      exact ih.step e

/-! ### What the steps share -/

theorem registry_advance (d : Dialing) (i : Nat) : (d.advance i).registry = d.registry := by
  have hmove := advance_advance d i
  generalize d.advance i = d' at hmove
  cases hmove with
  | forget => exact registry_forget d _ _
  | _ => rfl

/-- Connections change by what happens to them, and by dials that connect. -/
theorem registry_step (d : Dialing) (e : Event) :
    (d.step e).registry = d.registry ∨
      (∃ (i : Nat) (url : RelayUrl) (l : Nat), d.dials[i]? = some ⟨url, .connecting l⟩ ∧
        (d.step e).registry = d.registry.step (.register (.dialed url))) ∨
      ∃ event, e = .connection event ∧ (∀ url, event ≠ .register (.dialed url)) ∧
        (d.step e).registry = d.registry.step event := by
  cases e with
  | begin url => exact .inl (registry_begin d url)
  | advance i => exact .inl (registry_advance d i)
  | connected i outcome =>
      rw [step]
      rcases connected_cases d i outcome with
        heq | ⟨url, l, hi, ⟨id, registry, hregister, heq⟩ | ⟨fault, heq⟩⟩
      · exact .inl (congrArg _ heq)
      · refine .inr (.inl ⟨i, url, l, hi, ?_⟩)
        rw [heq, Registry.step, hregister]
        rfl
      · rw [heq]
        exact .inl rfl
  | abandon i =>
      rw [step]
      rcases abandon_cases d i with heq | ⟨x, l, -, -, heq⟩
      · exact .inl (congrArg _ heq)
      · rw [heq]
        exact .inl rfl
  | connection event =>
      rcases step_connection d event with heq | ⟨heq, he⟩
      · exact .inl (congrArg _ heq)
      · exact .inr (.inr ⟨event, rfl, he, congrArg _ heq⟩)

/-- A lock leaves the table only by a dial that looks at it a last time. -/
theorem locks_step (d : Dialing) (e : Event) (hlock : d.locks[url]? = some l)
    (hgone : (d.step e).locks[url]? ≠ some l) :
    ∃ (i m : Nat) (result : Except BindError Nat), e = .advance i ∧
      d.dials[i]? = some ⟨url, .releasing m result⟩ ∧ d.holders m ≤ 2 := by
  cases e with
  | begin url' =>
      refine absurd ?_ hgone
      rw [step, Dialing.begin]
      split
      · exact hlock
      · rename_i hnone
        rw [Map.getElem?_insert, if_neg fun h => ?_]
        · exact hlock
        · rw [h, hlock] at hnone
          cases hnone
  | advance i =>
      rw [step] at hgone
      have hmove := advance_advance d i
      generalize d.advance i = d' at hmove hgone
      cases hmove with
      | @forget url' m result hi =>
          unfold Dialing.forget at hgone
          split at hgone
          · rename_i hholders
            have herase : (d.locks.erase url')[url]? ≠ some l := hgone
            rw [Map.getElem?_erase] at herase
            split at herase
            · rename_i hurl
              subst hurl
              exact ⟨i, m, result, rfl, hi, hholders⟩
            · exact absurd hlock herase
          · exact absurd hlock hgone
      | _ => exact absurd hlock hgone
  | connected i outcome =>
      rw [step] at hgone
      rcases connected_cases d i outcome with
        heq | ⟨url, l, -, ⟨id, registry, -, heq⟩ | ⟨fault, heq⟩⟩ <;>
        (rw [heq] at hgone; exact absurd hlock hgone)
  | abandon i =>
      rw [step] at hgone
      rcases abandon_cases d i with heq | ⟨x, m, -, -, heq⟩ <;>
        (rw [heq] at hgone; exact absurd hlock hgone)
  | connection event =>
      rcases step_connection d event with heq | ⟨heq, -⟩ <;>
        (rw [heq] at hgone; exact absurd hlock hgone)

/-! ### Dialing once -/

/-- What is promised of sends that dial, whatever the order of their steps. -/
structure Serialized (events : List Event) : Prop where
  /-- At most one dial is connecting to an address. -/
  single : ∀ (url : RelayUrl) (i j l m : Nat),
    (run events).dials[i]? = some ⟨url, .connecting l⟩ →
      (run events).dials[j]? = some ⟨url, .connecting m⟩ → i = j
  /-- While a dial is connecting to an address there is no connection to it, so that what it
  registers takes nobody's place. -/
  vacant : ∀ (url : RelayUrl) (i l : Nat), (run events).dials[i]? = some ⟨url, .connecting l⟩ →
    (run events).registry.find? (.dialed url) = none
  /-- The connection to a dialed address is never replaced by another. -/
  unreplaced : ∀ (e : Event) (url : RelayUrl) (id id' : Nat),
    (run events).registry.find? (.dialed url) = some id →
      ((run events).step e).registry.find? (.dialed url) = some id' → id' = id
  /-- The lock of an address is forgotten by the last dial that has hold of it. -/
  forgotten : ∀ (e : Event) (url : RelayUrl) (l : Nat), (run events).locks[url]? = some l →
    ((run events).step e).locks[url]? ≠ some l →
      ∃ (i : Nat) (result : Except BindError Nat), e = .advance i ∧
        (run events).dials[i]? = some ⟨url, .releasing l result⟩ ∧
        ∀ (j : Nat) x, j ≠ i → (run events).dials[j]? = some x → x.stage.lock? ≠ some l

theorem Sound.single (h : Sound d) {m : Nat} (hi : d.dials[i]? = some ⟨url, .connecting l⟩)
    (hj : d.dials[j]? = some ⟨url, .connecting m⟩) : i = j := by
  have hm := h.locking.listed j _ _ m hj rfl
  obtain rfl := Option.some.inj ((h.locking.listed i _ _ l hi rfl).symm.trans hm)
  exact h.locking.exclusive i j _ _ l hi hj (beq_self_eq_true l) (beq_self_eq_true l)

theorem Sound.unreplaced (h : Sound d) {id id' : Nat} (e : Event)
    (hfind : d.registry.find? (.dialed url) = some id)
    (hfind' : (d.step e).registry.find? (.dialed url) = some id') : id' = id := by
  rcases registry_step d e with heq | ⟨i, url', l, hi, heq⟩ | ⟨event, -, he, heq⟩
  · rw [heq, hfind] at hfind'
    exact (Option.some.inj hfind').symm
  · -- the dial is connecting to another address, as there is a connection to this one
    rw [heq, Registry.step, Registry.find?_register, if_neg, hfind] at hfind'
    · exact (Option.some.inj hfind').symm
    · intro hurl
      cases hurl
      cases hfind.symm.trans ((h.fits i _ hi).vacant l rfl)
  · rw [heq] at hfind'
    by_cases hregister : ∃ p, event = .register p
    · obtain ⟨p, rfl⟩ := hregister
      rw [Registry.step, Registry.find?_register, if_neg fun hp => he url (congrArg _ hp),
        hfind] at hfind'
      exact (Option.some.inj hfind').symm
    · have hnarrows := Registry.narrows_step d.registry event fun p hp => hregister ⟨p, hp⟩
      exact (Option.some.inj (hfind.symm.trans (hnarrows.find?_eq_some hfind'))).symm

theorem Sound.forgotten (h : Sound d) (e : Event) (hlock : d.locks[url]? = some l)
    (hgone : (d.step e).locks[url]? ≠ some l) :
    ∃ (i : Nat) (result : Except BindError Nat), e = .advance i ∧
      d.dials[i]? = some ⟨url, .releasing l result⟩ ∧
      ∀ (j : Nat) x, j ≠ i → d.dials[j]? = some x → x.stage.lock? ≠ some l := by
  obtain ⟨i, m, result, he, hi, hholders⟩ := locks_step d e hlock hgone
  obtain rfl := Option.some.inj (hlock.symm.trans (h.locking.listed i url _ m hi rfl))
  refine ⟨i, result, he, hi, fun j x hne hj hx => ?_⟩
  exact Nat.not_lt.mpr hholders (two_lt_holders hlock hi hj hne.symm rfl hx)

/-- **Sends to an address dial it one at a time.**  However many sends there are, in whatever order
they take their steps, whether connecting succeeds or not, and whether connections end or sends are
given up meanwhile. -/
theorem serialized_run (events : List Event) : Serialized events :=
  have h := sound_run events
  { single := fun _ _ _ _ _ hi hj => h.single hi hj
    vacant := fun _ i l hi => (h.fits i _ hi).vacant l rfl
    unreplaced := fun e _ _ _ hfind hfind' => h.unreplaced e hfind hfind'
    forgotten := fun e _ _ hlock hgone => h.forgotten e hlock hgone }

end Dialing

end TunnelMesh.Transport

/-
Which outputs of `ping` break a probe off.

The number behind the first `time=` becomes a floating point number of milliseconds, then
one of seconds, then a span of time.  Both are rounded, and a span holds less than 2⁶⁴
seconds.  So a number breaks the probe off from half a step of 2²¹ below that span on; and
no longer does so from where it counts as infinite, for then it is not taken for a number
and the time that the program took stands for it.
-/
import TunnelMesh.Agent.Config
import TunnelMesh.Probe.System
import TunnelMesh.Proofs.Decimal.Quotient
import TunnelMesh.Proofs.Host.RuleTable
import TunnelMesh.Proofs.Probe.Completion

namespace TunnelMesh

open Decimal Host Net

/-! ### Numbers that no span of time holds -/

theorem Duration.ofSeconds?_eq_none_iff {x : Float} {m : ℕ} {e : ℤ} (hm : m ≤ 2 ^ 53)
    (hx : x.toModel.unpack = ofUnits m e) :
    Duration.ofSeconds? x = none ↔ (2 ^ 64 : ℚ) ≤ m * 2 ^ e := by
  obtain ⟨k, q, hparts, hvalue⟩ := Parts.ofUnpacked_ofUnits hm e
  obtain ⟨hden, hnum⟩ := fraction_eq k q
  have hdenq : (0 : ℚ) < (fraction k q).2 := by exact_mod_cast hden
  have hfits : (fraction k q).1 < Nat.pow 2 64 * (fraction k q).2 ↔ (m : ℚ) * 2 ^ e < 2 ^ 64 := by
    rw [← hvalue, ← mul_lt_mul_iff_left₀ hdenq, ← hnum]
    exact_mod_cast Iff.rfl
  unfold Duration.ofSeconds?
  rw [Parts.ofFloat_eq, hx, hparts]
  dsimp only
  split
  · rename_i hlt
    exact iff_of_false (by simp) (not_le.mpr (hfits.mp hlt))
  · rename_i hge
    exact iff_of_true rfl (not_lt.mp (mt hfits.mpr hge))

theorem unpack_thousand : (1000.0 : Float).toModel.unpack =
    .finite .positive 8796093022208000 (-43) (by decide) := rfl

/-- A thousandth is rounded up to 2⁶⁴ from half a step of 2¹¹ below on. -/
theorem Duration.ofSeconds?_thousandth_eq_none_iff {x : Float} {m : ℕ} {e : ℤ} (hm : m ≤ 2 ^ 53)
    (hx : x.toModel.unpack = ofUnits m e) (hfinite : (m : ℚ) * 2 ^ e < leastInfinite) :
    Duration.ofSeconds? (x / 1000.0) = none ↔ ((2 ^ 64 - 2 ^ 10) * 1000 : ℚ) ≤ m * 2 ^ e := by
  have hnonneg : (0 : ℚ) ≤ m * 2 ^ e := mul_nonneg m.cast_nonneg (zpow_pos two_pos e).le
  have hthousand : ((8796093022208000 : ℕ) : ℚ) * 2 ^ (-43 : ℤ) = 1000 := by
    rw [zpow_neg, zpow_ofNat]
    norm_num
  have hdiv : RoundsTo (m * 2 ^ e / ((8796093022208000 : ℕ) * 2 ^ (-43 : ℤ)))
      (.div .binary64 (ofUnits m e) (.finite .positive 8796093022208000 (-43) (by decide))) :=
    roundsTo_div hm (by decide)
  rw [hthousand] at hdiv
  obtain ⟨m', e', hrounded, hquotient⟩ := hdiv
  have hunpack : (x / 1000.0).toModel.unpack = ofUnits m' e' := by
    change (Float.Model.pack (.div .binary64 x.toModel.unpack (1000.0 : Float).toModel.unpack)).unpack
      = _
    rw [hx, unpack_thousand, hquotient]
    exact hrounded.unpack_pack ((div_le_self hnonneg (by norm_num)).trans_lt hfinite)
  have hiff := hrounded.upper_le_iff (j := 2 ^ 53 - 1) (t := 11) (by decide) (by decide) (by decide)
    (by decide)
  have hupper : ((2 ^ 53 - 1 : ℕ) + 1 : ℚ) * 2 ^ (11 : ℤ) = 2 ^ 64 := by norm_num
  have hmiddle : ((2 ^ 53 - 1 : ℕ) + 1 / 2 : ℚ) * 2 ^ (11 : ℤ) = 2 ^ 64 - 2 ^ 10 := by norm_num
  rw [hupper, hmiddle, le_div_iff₀ (by norm_num)] at hiff
  rw [Duration.ofSeconds?_eq_none_iff hrounded.le_full hunpack]
  exact hiff

namespace Ping

/-- The least number of milliseconds that no span of time holds after rounding: half a step of 2²¹
below 1000 · 2⁶⁴. -/
def leastOverlong : ℕ := 18446744073709550567424

theorem ofSeconds?_ofScientific_eq_none_iff {n k : ℕ} (h : (n / 10 ^ k : ℚ) < leastInfinite) :
    Duration.ofSeconds? (Float.ofScientific n true k / 1000.0) = none ↔
      leastOverlong * 10 ^ k ≤ n := by
  obtain ⟨m, e, hrounded, hunpack⟩ := exists_unpack_ofScientific h
  have hiff := hrounded.upper_le_iff (j := 8796093022207999) (t := 21) (by decide) (by decide)
    (by decide) (by decide)
  have hmiddle : ((8796093022207999 : ℕ) + 1 / 2 : ℚ) * 2 ^ (21 : ℤ) = leastOverlong := by
    norm_num [leastOverlong]
  have hleast : (leastOverlong : ℚ) ≤ n / 10 ^ k ↔ leastOverlong * 10 ^ k ≤ n := by
    rw [le_div_iff₀ (by positivity)]
    exact_mod_cast Iff.rfl
  rw [hmiddle, hleast] at hiff
  rw [Duration.ofSeconds?_thousandth_eq_none_iff hrounded.le_full hunpack
    (hrounded.mul_lt_leastInfinite h), ← hiff]
  constructor
  · intro hle
    by_contra hlt
    -- Between the two neighbours there is no floating point number.
    have hlower := hrounded.le_of_lt_middle (j := 8796093022207999) (t := 21) (by decide)
      (by decide) (by decide) (by decide) (by
        rw [hmiddle]
        exact not_le.mp (mt hleast.mp (mt hiff.mpr hlt)))
    have hstep : ((8796093022207999 : ℕ) : ℚ) * 2 ^ (21 : ℤ) < (2 ^ 64 - 2 ^ 10) * 1000 := by norm_num
    exact absurd (hle.trans hlower) (not_le.mpr hstep)
  · intro hle
    have hstep : ((2 ^ 64 - 2 ^ 10) * 1000 : ℚ) ≤
        ((8796093022207999 : ℕ) + 1) * 2 ^ (21 : ℤ) := by norm_num
    exact hstep.trans hle

/-- A number of milliseconds that is finite, but too long for a span of time. -/
def Overlong (d : ℕ × ℕ) : Prop :=
  leastOverlong * 10 ^ d.2 ≤ d.1 ∧ d.1 < (2 ^ 1024 - 2 ^ 970) * 10 ^ d.2

theorem lt_leastInfinite_iff (n k : ℕ) :
    (n / 10 ^ k : ℚ) < leastInfinite ↔ n < (2 ^ 1024 - 2 ^ 970) * 10 ^ k := by
  rw [leastInfinite_eq, div_lt_iff₀ (by positivity)]
  generalize 2 ^ 1024 - 2 ^ 970 = top
  exact_mod_cast Iff.rfl

/-! ### Outputs -/

theorem ofOutput_eq_error_iff {stdout : String} {elapsed : Duration} :
    ofOutput stdout elapsed = .error .overflow ↔ ∃ d, time? stdout = some d ∧ Overlong d := by
  cases htime : time? stdout with
  | none => simp [ofOutput, millis?, htime]
  | some d =>
      obtain ⟨n, k⟩ := d
      have hmillis : millis? stdout = if (Float.ofScientific n true k).isFinite then
          some (Float.ofScientific n true k) else none := by
        rw [millis?, htime]
        rfl
      have hd : (∃ d, some (n, k) = some d ∧ Overlong d) ↔ Overlong (n, k) := by simp
      rw [ofOutput, hmillis, hd, Overlong, ← lt_leastInfinite_iff]
      by_cases hfinite : (n / 10 ^ k : ℚ) < leastInfinite
      · rw [if_pos ((isFinite_ofScientific_iff n k).mpr hfinite), and_iff_left hfinite,
          ← ofSeconds?_ofScientific_eq_none_iff hfinite]
        dsimp only
        cases Duration.ofSeconds? (Float.ofScientific n true k / 1000.0) <;> simp
      · rw [if_neg (mt (isFinite_ofScientific_iff n k).mp hfinite)]
        simp [hfinite]

/-- An answer that breaks a probe off: a successful run in time that tells such a number. -/
def Overruns (timeout : Duration) (answer : Except CommandError Output × Duration) : Prop :=
  answer.2.nanos ≤ timeout.nanos + Duration.second ∧
    ∃ output d, answer.1 = .ok output ∧ output.success = true ∧ time? output.stdout = some d ∧
      Overlong d

theorem ofRun_eq_error_iff {timeout elapsed : Duration} {r : Except CommandError Output} :
    ofRun timeout elapsed r = .error .overflow ↔ Overruns timeout (r, elapsed) := by
  have hmap : ∀ x : Except ProbeFault Duration,
      x.map some = .error .overflow ↔ x = .error .overflow := by
    intro x
    cases x <;> simp [Except.map]
  unfold ofRun Overruns
  split
  · rename_i hlate
    exact iff_of_false (by simp) fun h => absurd h.1 (not_le.mpr hlate)
  · rename_i hintime
    rw [and_iff_right (not_lt.mp hintime)]
    cases r with
    | error e => simp
    | ok output =>
        dsimp only
        split
        · rename_i hsuccess
          rw [hmap, ofOutput_eq_error_iff]
          simp [hsuccess]
        · rename_i hfailed
          simp [hfailed]

/-- The command that asks an address once. -/
def request (ip : Address) (timeout : Duration) : Command :=
  ⟨.ping, ["-n", "-c", "1", "-W", toString (Nat.max timeout.secs 1), ip.toText]⟩

/-- There is a command for every address. -/
theorem command_eq (ip : Address) (timeout : Duration) :
    command ip timeout = .ok (request ip timeout) := by
  have hip : Text.Graphic ip.toText.toList := by
    cases ip with
    | v4 ip => exact ip.graphic_toText
    | v6 ip => exact ip.graphic_toText
  have hsecs : Text.Graphic (toString (Nat.max timeout.secs 1)).toList := by
    rw [Nat.toString_eq_repr, Nat.toList_repr]
    exact Text.graphic_toDigits (by decide) (by decide) _
  refine Command.mk?_eq_ok (fun arg harg => ?_) _
  simp only [List.mem_cons, List.not_mem_nil, or_false] at harg
  rcases harg with rfl | rfl | rfl | rfl | rfl | rfl
  · decide
  · decide
  · decide
  · decide
  · exact Command.admits_of_graphic hsecs
  · exact Command.admits_of_graphic hip

end Ping

/-! ### Probes -/

/-- A configuration never lets a probe wait longer than a span of time, and a second more. -/
theorem Agent.Config.timeout_add_second_le (g : Agent.Config) :
    g.probeSettings.timeout.nanos + Duration.second ≤ Duration.max.nanos := by
  have hlt := g.probe.timeoutMs.toNat_lt
  change g.probe.timeoutMs.toNat * 1000000 + 1000000000 ≤ 18446744073709551616 * 1000000000 - 1
  omega

namespace SystemProbe

variable {ρ : Type} [TimedHost ρ] {p : SystemProbe ρ} {ip : Address} {timeout : Duration}

/-- Asking an address by `ping` breaks off. -/
def BreaksOff (p : SystemProbe ρ) (ip : Address) (timeout : Duration) : Prop :=
  Ping.Overruns timeout (TimedHost.run p.host (Ping.request ip timeout)).1

theorem icmp_eq_error_iff (h : timeout.nanos + Duration.second ≤ Duration.max.nanos) :
    (p.icmp ip timeout).1 = .error .overflow ↔ p.BreaksOff ip timeout := by
  rw [icmp, Ping.command_eq]
  dsimp only
  rw [if_neg (not_lt.mpr h)]
  exact Ping.ofRun_eq_error_iff

theorem exists_icmp_eq_ok_iff (h : timeout.nanos + Duration.second ≤ Duration.max.nanos) :
    (∃ r, (p.icmp ip timeout).1 = .ok r) ↔ ¬p.BreaksOff ip timeout := by
  rw [← icmp_eq_error_iff h]
  cases (p.icmp ip timeout).1 with
  | ok r => simp
  | error e =>
      cases e
      simp

/-- The task of a target breaks off only where the `ping` for its endpoint does. -/
theorem not_gives_error {t : ProbeTarget} {s : ProbeSettings}
    (hs : s.timeout.nanos + Duration.second ≤ Duration.max.nanos) (ht : t.endpoint = some (.icmp ip))
    (hsound : ∀ q, Asked s.timeout p q → ¬q.BreaksOff ip s.timeout) (e : ProbeFault) :
    ¬t.Gives s p (.error e) := by
  intro hgives
  cases hgives with
  | @endpointBroke q _ hq hbroke =>
      obtain ⟨r, hr⟩ := (exists_icmp_eq_ok_iff hs).mpr (hsound q hq)
      have hasked : (ProbeSource.icmp q ip s.timeout).1 = .ok r := hr
      unfold ProbeTarget.measureEndpoint at hbroke
      rw [ht] at hbroke
      dsimp only at hbroke
      rw [hasked] at hbroke
      cases hbroke
  | @innerBroke q _ hq hbroke =>
      unfold ProbeTarget.measureInner at hbroke
      split at hbroke <;> cases hbroke

end SystemProbe

/-! ### Cycles -/

namespace ProbeCycle

variable {ρ : Type} [TimedHost ρ]

/-- What a cycle of probes by a host's own means leaves, given the results that it recorded. -/
structure Sampled (s : ProbeSettings) (p : SystemProbe ρ) (m : Measurements Float) (nodeId : NodeId)
    (targets : List ProbeTarget) (os : List ProbeOutcome) (c : ProbeCycle (SystemProbe ρ)) : Prop where
  measured : c.measured = ProbeOutcome.recordAll m nodeId os
  recorded : c.recorded = os.length
  /-- Each result is one that this cycle got for a target. -/
  sound : ∀ o ∈ os, ∃ t ∈ others nodeId targets, t.Gives s p (.ok o)
  /-- A target whose endpoint is asked by `ping`, and never answers with a number that is too long,
  has a sample of this cycle, with a round trip or as unreachable. -/
  complete : ∀ t ∈ others nodeId targets, ∀ ip, t.endpoint = some (.icmp ip) →
    (∀ q, Asked s.timeout p q → ¬q.BreaksOff ip s.timeout) →
    ∃ rtt, (∃ o ∈ os, o.nodeId = t.nodeId ∧ o.endpoint = some rtt) ∧
      c.measured.sample? .endpoint nodeId t.nodeId = some (.ofRoundTrip rtt)

theorem Follows.sampled {s : ProbeSettings} {p : SystemProbe ρ} {m : Measurements Float}
    {nodeId : NodeId} {targets : List ProbeTarget} {c₀ c : ProbeCycle (SystemProbe ρ)}
    (h : Follows c₀ c) (hbegin : begin? s p m nodeId targets false = some c₀)
    (hs : s.timeout.nanos + Duration.second ≤ Duration.max.nanos) (hended : c.ended = true)
    (hopen : c.cancelled = false) : ∃ os, Sampled s p m nodeId targets os c := by
  obtain ⟨os, hmeasured, hrecorded, hsound, hcomplete⟩ := h.exists_recorded hended hopen
  obtain rfl := eq_of_begin?_eq_some hbegin
  have hothers : ((others nodeId targets).map (⟨·, .waiting⟩ : ProbeTarget → ProbeTask)).map
      (·.target) = others nodeId targets := by
    simp [Function.comp_def]
  rw [hothers] at hsound hcomplete
  refine ⟨os, hmeasured, hrecorded, hsound, fun t ht ip hicmp hanswers => ?_⟩
  obtain ⟨o, ho, hgives⟩ := hcomplete t ht (SystemProbe.not_gives_error hs hicmp hanswers)
  obtain ⟨o', ho', hid, rtt, hrtt, hsample⟩ :=
    ProbeOutcome.exists_mem_sample?_recordAll (m := m) (n := nodeId) ho
      (ProbeTarget.endpoint_of_gives hgives (by simp [hicmp]))
  rw [ProbeTarget.nodeId_of_gives hgives] at hid hsample
  exact ⟨rtt, ⟨o', ho', hid, hrtt⟩, hmeasured ▸ hsample⟩

/-- **Pings and cycles.** Under every configuration a `ping` gives a round trip or none exactly if
its output does not tell a number that is finite and too long for a span of time. A cycle that nobody
cancels can always be brought to its end, and then has a sample of every endpoint that is asked by
`ping` and never answers with such a number. -/
theorem sampled_run (g : Agent.Config) (p : SystemProbe ρ) :
    (∀ (q : SystemProbe ρ) ip, (∃ r, (q.icmp ip g.probeSettings.timeout).1 = .ok r) ↔
      ¬q.BreaksOff ip g.probeSettings.timeout) ∧
    ∀ m targets c, begin? g.probeSettings p m g.nodeId targets false = some c → ∀ events,
      .cancel ∉ events →
      (∃ more, .cancel ∉ more ∧ (c.run (events ++ more)).ended = true) ∧
      ((c.run events).ended = true →
        ∃ os, Sampled g.probeSettings p m g.nodeId targets os (c.run events)) := by
  have htimeout := g.timeout_add_second_le
  refine ⟨fun q ip => SystemProbe.exists_icmp_eq_ok_iff htimeout, ?_⟩
  intro m targets c hbegin events hcancel
  refine ⟨?_, fun hended => ?_⟩
  · obtain ⟨more, hmore, hend⟩ := exists_end (c.run events)
    exact ⟨more, hmore, (congrArg ended (run_append c events more)).trans hend⟩
  · have hopen : (c.run events).cancelled = false := by
      rw [cancelled_run c hcancel, eq_of_begin?_eq_some hbegin]
    exact ((follows_begin? hbegin).run events).sampled hbegin htimeout hended hopen

/-- A host on which `ping` always succeeds after a millisecond with the same text. -/
def pinging (stdout : String) : SystemProbe (PacedHost Recording) :=
  ⟨{ fixed := [(.ping, ⟨0, stdout, ""⟩)] }, .ofMillis 1⟩

/-- Being asked does not change what such a host answers. -/
theorem run_of_asked_pinging {stdout : String} {timeout : Duration}
    {q : SystemProbe (PacedHost Recording)} (h : Asked timeout (pinging stdout) q) (ip : Address) :
    (TimedHost.run q.host (Ping.request ip timeout)).1 = (.ok ⟨0, stdout, ""⟩, .ofMillis 1) := by
  have hkept : ∃ log, q = ⟨{ fixed := [(.ping, ⟨0, stdout, ""⟩)], log }, .ofMillis 1⟩ := by
    induction h with
    | start => exact ⟨[], rfl⟩
    | icmp _ ip ih =>
        obtain ⟨log, rfl⟩ := ih
        change ∃ log, (SystemProbe.icmp _ ip timeout).2 = _
        rw [SystemProbe.icmp, Ping.command_eq]
        dsimp only
        split
        · exact ⟨log, rfl⟩
        · exact ⟨log ++ [Ping.request ip timeout], rfl⟩
    | tcp _ _ ih => exact ih
  obtain ⟨log, rfl⟩ := hkept
  rfl

/-- The configuration of the first node. -/
def firstNode : Agent.Config := { node := { id := 1, topologyPath := "mesh.toml" } }

/-- The second node, which is asked by `ping`. -/
def secondNode : ProbeTarget := ⟨⟨2⟩, some (.icmp (.v4 (.ofOctets 192 0 2 2))), none⟩

theorem sampled_run_measured :
    ∃ c, begin? firstNode.probeSettings (pinging "64 bytes from 192.0.2.2: time=12.5 ms") .empty
        firstNode.nodeId [secondNode] false = some c ∧ (c.run (inOrder 1)).ended = true ∧
      ∃ rtt, (c.run (inOrder 1)).measured.sample? .endpoint firstNode.nodeId secondNode.nodeId =
        some (.ofRoundTrip rtt) := by
  refine ⟨_, rfl, rfl, ?_⟩
  obtain ⟨os, hsampled⟩ :=
    ((sampled_run firstNode (pinging "64 bytes from 192.0.2.2: time=12.5 ms")).2 .empty [secondNode] _
      rfl (inOrder 1) (by decide)).2 rfl
  obtain ⟨rtt, -, hsample⟩ := hsampled.complete secondNode (by decide) _ rfl fun q hq hbreaks => by
    obtain ⟨-, output, d, hrun, -, htime, hlong, -⟩ := hbreaks
    rw [run_of_asked_pinging hq] at hrun
    cases hrun
    obtain rfl : (125, 1) = d := Option.some.inj htime
    exact absurd hlong (by decide)
  exact ⟨rtt, hsample⟩

/-- A number of thirty nines breaks the `ping` off, and the cycle records nothing. -/
theorem icmp_thirtyNines :
    (¬∃ r, ((pinging "time=999999999999999999999999999999 ms").icmp (.v4 (.ofOctets 192 0 2 2))
      firstNode.probeSettings.timeout).1 = .ok r) ∧
    (Prober.cycle firstNode.probeSettings (pinging "time=999999999999999999999999999999 ms") .empty
      firstNode.nodeId [secondNode] false).map
        (fun r => (r.1, (r.2.2.sample? .endpoint firstNode.nodeId secondNode.nodeId).isSome)) =
      some (0, false) := by
  refine ⟨?_, by decide +kernel⟩
  rw [SystemProbe.exists_icmp_eq_ok_iff firstNode.timeout_add_second_le, not_not]
  exact ⟨by decide, _, (10 ^ 30 - 1, 0), rfl, rfl, rfl, by decide +kernel, by decide +kernel⟩

end ProbeCycle

end TunnelMesh

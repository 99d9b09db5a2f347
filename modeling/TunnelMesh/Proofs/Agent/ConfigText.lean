/-
Configurations come back from their texts, but for two settings.

A setting that is not set is left out of the text, and a reader gives what is left out
its default.  Almost everywhere the default of a setting that may be missing is to miss
it.  A policy has two for which it is not: the limit after which nodes count as gone and
the keepalive.  So what a text gives back is the configuration with these two filled in,
and it is the one that was written exactly if both of them were set.

The one other thing that a text cannot say is a flow label, at the address to listen on.
-/
import TunnelMesh.Agent.ConfigFormat
import TunnelMesh.Proofs.Net.SocketAddress
import TunnelMesh.Proofs.Toml.Record

namespace TunnelMesh

namespace Policy

/-- The policy with the standard settings for those that are not set. -/
def filled (p : Policy Float) : Policy Float :=
  { p with
    offlineThresholdSecs := p.offlineThresholdSecs.or (standard : Policy Float).offlineThresholdSecs
    keepalive := p.keepalive.or (standard : Policy Float).keepalive }

/-- The numbers of a policy. -/
def numbers (p : Policy Float) : List Float :=
  [p.minLatencyMs, p.maxLatencyMs, p.latencyBucketMs, p.latencyScale, p.inverseBandwidthWeight,
   p.minUpMbps, p.defaultUpMbps, p.hopWeight, p.handshakePenalty, p.defaultLatencyMs]

open Toml in
/-- The numbers of the standard policy stand in its text. -/
theorem stands_standard : ∀ x ∈ (standard : Policy Float).numbers, Stands x := by
  have h1 : Stands (Quantity.ofNat 1) := stands_of_text (t := "1.0") (by decide +kernel) rfl
  have h5 : Stands (Quantity.ofNat 5) := stands_of_text (t := "5.0") (by decide +kernel) rfl
  have h10 : Stands (Quantity.ofNat 10) := stands_of_text (t := "10.0") (by decide +kernel) rfl
  have h50 : Stands (Quantity.ofNat 50) := stands_of_text (t := "50.0") (by decide +kernel) rfl
  have h100 : Stands (Quantity.ofNat 100) := stands_of_text (t := "100.0") (by decide +kernel) rfl
  have h2000 : Stands (Quantity.ofNat 2000) :=
    stands_of_text (t := "2000.0") (by decide +kernel) rfl
  simp only [numbers, standard, List.forall_mem_cons]
  exact ⟨h1, h2000, h5, h10, h100, h1, h100, h5, h50, h50, nofun⟩

theorem isSome_filled (p : Policy Float) :
    p.filled.offlineThresholdSecs.isSome ∧ p.filled.keepalive.isSome := by
  simp [filled, standard]

theorem filled_eq_self_iff {p : Policy Float} :
    p.filled = p ↔ p.offlineThresholdSecs.isSome ∧ p.keepalive.isSome := by
  constructor
  · intro h
    have hsome := isSome_filled p
    rwa [h] at hsome
  · rintro ⟨hoffline, hkeepalive⟩
    obtain ⟨n, hn⟩ := Option.isSome_iff_exists.mp hoffline
    obtain ⟨k, hk⟩ := Option.isSome_iff_exists.mp hkeepalive
    rw [filled, hn, hk, Option.some_or, Option.some_or, ← hn, ← hk]

end Policy

namespace Agent

open Json Net Toml

variable {names : List String} {es : List (String × Toml)}

/-! ### Numbers -/

theorem number?_eq_some {n : UInt64} {v : Toml} (h : number? n = some v) :
    n.toNat < Nat.pow 2 63 ∧ v = .int n.toNat := by
  rw [number?, Option.ite_none_right_eq_some] at h
  exact ⟨h.1, (Option.some.inj h.2).symm⟩

theorem readsBack_number {n : UInt64} {v : Toml} (h : number? n = some v) : v.ReadsBack := by
  obtain ⟨hn, rfl⟩ := number?_eq_some h
  exact readsBack_int hn

theorem readsBack_u16 (n : UInt16) : ReadsBack (.int n.toNat) :=
  readsBack_int (Nat.lt_trans n.toNat_lt (by decide))

theorem u64?_int (n : UInt64) : (Toml.int n.toNat).toJson.u64? = some n := by
  have hn : (n.toNat : Int) < (Text.bound64 : Nat) := by
    have := n.toNat_lt
    rw [Text.bound64]
    omega
  rw [toJson, u64?, natBelow?, if_pos ⟨Int.natCast_nonneg _, hn⟩, Option.map_some,
    Int.toNat_natCast, UInt64.ofNat_toNat]

theorem u64?_number {n : UInt64} {v : Toml} (h : number? n = some v) : v.toJson.u64? = some n := by
  obtain ⟨-, rfl⟩ := number?_eq_some h
  exact u64?_int n

theorem u16?_int (n : UInt16) : (Toml.int n.toNat).toJson.u16? = some n := by
  have hn : (n.toNat : Int) < (Text.bound16 : Nat) := by
    have := n.toNat_lt
    rw [Text.bound16]
    omega
  rw [toJson, u16?, natBelow?, if_pos ⟨Int.natCast_nonneg _, hn⟩, Option.map_some,
    Int.toNat_natCast, UInt16.ofNat_toNat]

/-! ### Settings that may be missing -/

theorem fills_entry {k : String} {o : Option Toml} (ho : ∀ v ∈ o, v.ReadsBack)
    (h : Fills names es) : Fills (k :: names) (entry k o ++ es) := by
  cases o with
  | none => exact h.skip k
  | some v => exact h.cons (ho v rfl)

@[simp]
theorem value?_entry (k : String) (o : Option Toml) (es : List (String × Toml)) (name : String) :
    Record.value? ⟨entriesToJson (entry k o ++ es), false⟩ name =
      if k = name then (o.map Toml.toJson).or (Record.value? ⟨entriesToJson es, false⟩ name)
      else Record.value? ⟨entriesToJson es, false⟩ name := by
  cases o with
  | none =>
      show Record.value? ⟨entriesToJson es, false⟩ name = _
      simp
  | some v =>
      rw [entry, Option.toList_some, List.map_cons, List.map_nil, List.singleton_append,
        value?_cons]
      simp

@[simp]
theorem value?_entry_last (k : String) (o : Option Toml) (name : String) :
    Record.value? ⟨entriesToJson (entry k o), false⟩ name =
      if k = name then o.map Toml.toJson else none := by
  have h := value?_entry k o [] name
  rwa [List.append_nil, value?_nil, Option.or_none] at h

theorem readsBack_map {α : Type} {write : α → Toml} (h : ∀ a, (write a).ReadsBack) (o : Option α) :
    ∀ v ∈ o.map write, v.ReadsBack := by
  cases o with
  | none => nofun
  | some a => exact fun v hv => Option.some.inj hv ▸ h a

/-! ### Fields -/

theorem text?_str (t : String) : (Toml.str t).toJson.text? = some t := rfl

theorem bool?_bool (b : Bool) : (Toml.bool b).toJson.bool? = some b := rfl

theorem float?_float (x : Float) : (Toml.float x).toJson.float? = some x := rfl

/-- A text that may be missing comes back as what it was. -/
theorem withDefault_texts {r : Record} {name : String} (o : Option String)
    (h : r.value? name = (o.map Toml.str).map Toml.toJson) :
    r.withDefault name (Record.orNull text?) none = some o := by
  rw [Record.withDefault_orNull (fun _ => rfl) none h, Option.or_none]

/-! ### Sections -/

namespace NodeSection

/-- The names of the settings. -/
abbrev fields : List String :=
  ["id", "topology_path", "private_key", "private_key_path", "reports_dir", "plan_interval_secs",
   "unprivileged"]

theorem entries?_eq_some {s : NodeSection} (h : s.entries? = some es) :
    ∃ id interval, number? s.id = some id ∧ number? s.planIntervalSecs = some interval ∧
      es = ("id", id) :: ("topology_path", .str s.topologyPath) ::
        (entry "private_key" (s.privateKey.map .str) ++
          (entry "private_key_path" (s.privateKeyPath.map .str) ++
            (entry "reports_dir" (s.reportsDir.map .str) ++
              [("plan_interval_secs", interval), ("unprivileged", .bool s.unprivileged)]))) := by
  obtain ⟨id, hid, h⟩ := Option.bind_eq_some_iff.mp h
  obtain ⟨interval, hinterval, h⟩ := Option.bind_eq_some_iff.mp h
  refine ⟨id, interval, hid, hinterval, ?_⟩
  rw [← Option.some.inj h]
  simp only [List.append_assoc, List.cons_append, List.nil_append]

theorem fills_entries? {s : NodeSection} (h : s.entries? = some es) : Fills fields es := by
  obtain ⟨id, interval, hid, hinterval, rfl⟩ := entries?_eq_some h
  exact .cons (readsBack_number hid) <| .cons (readsBack_str _) <|
    fills_entry (readsBack_map readsBack_str _) <| fills_entry (readsBack_map readsBack_str _) <|
    fills_entry (readsBack_map readsBack_str _) <| .cons (readsBack_number hinterval) <|
    .cons (readsBack_bool _) fills_nil

theorem ofJson?_entries? {s : NodeSection} (h : s.entries? = some es) :
    ofJson? (table es).toJson = some s := by
  have hrecord : (table es).toJson.record? fields = some ⟨entriesToJson es, false⟩ :=
    record?_table (fills_entries? h).keys (by decide)
  obtain ⟨id, interval, hid, hinterval, rfl⟩ := entries?_eq_some h
  rw [ofJson?, Record.bind_field hrecord,
    Record.bind_field (Record.required_eq (by simp) (u64?_number hid)),
    Record.bind_field (Record.required_eq (by simp) (text?_str s.topologyPath)),
    Record.bind_field (withDefault_texts s.privateKey (by simp)),
    Record.bind_field (withDefault_texts s.privateKeyPath (by simp)),
    Record.bind_field (withDefault_texts s.reportsDir (by simp)),
    Record.bind_field (Record.withDefault_eq (by simp) (u64?_number hinterval)),
    Record.bind_field (Record.withDefault_eq (by simp) (bool?_bool s.unprivileged))]
  rfl

end NodeSection

namespace DeviceSection

/-- The names of the settings. -/
abbrev fields : List String := ["name", "listen_port", "mtu", "socket_dir", "ready_timeout_secs"]

theorem entries?_eq_some {s : DeviceSection} (h : s.entries? = some es) :
    ∃ ready, number? s.readyTimeoutSecs = some ready ∧
      es = [("name", .str s.name), ("listen_port", .int s.listenPort.toNat),
        ("mtu", .int s.mtu.toNat), ("socket_dir", .str s.socketDir),
        ("ready_timeout_secs", ready)] := by
  obtain ⟨ready, hready, h⟩ := Option.bind_eq_some_iff.mp h
  exact ⟨ready, hready, (Option.some.inj h).symm⟩

theorem fills_entries? {s : DeviceSection} (h : s.entries? = some es) : Fills fields es := by
  obtain ⟨ready, hready, rfl⟩ := entries?_eq_some h
  exact .cons (readsBack_str _) <| .cons (readsBack_u16 _) <| .cons (readsBack_u16 _) <|
    .cons (readsBack_str _) <| .cons (readsBack_number hready) fills_nil

theorem ofJson?_entries? {s : DeviceSection} (h : s.entries? = some es) :
    ofJson? (table es).toJson = some s := by
  have hrecord : (table es).toJson.record? fields = some ⟨entriesToJson es, false⟩ :=
    record?_table (fills_entries? h).keys (by decide)
  obtain ⟨ready, hready, rfl⟩ := entries?_eq_some h
  rw [ofJson?, Record.bind_field hrecord]
  dsimp only
  rw [Record.bind_field (Record.withDefault_eq (by simp) (text?_str s.name)),
    Record.bind_field (Record.withDefault_eq (by simp) (u16?_int s.listenPort)),
    Record.bind_field (Record.withDefault_eq (by simp) (u16?_int s.mtu)),
    Record.bind_field (Record.withDefault_eq (by simp) (text?_str s.socketDir)),
    Record.bind_field (Record.withDefault_eq (by simp) (u64?_number hready))]
  rfl

end DeviceSection

namespace RelaySection

/-- The names of the settings. -/
abbrev fields : List String := ["relay", "websocket_listen", "websocket_path"]

theorem entries_eq (s : RelaySection) :
    s.entries = ("relay", .bool s.relay) ::
      (entry "websocket_listen" (s.listen.map fun a => .str a.toText) ++
        [("websocket_path", .str s.path)]) := by
  simp only [entries, List.cons_append, List.nil_append]

theorem fills_entries (s : RelaySection) : Fills fields s.entries := by
  rw [entries_eq]
  exact .cons (readsBack_bool _) <|
    fills_entry (readsBack_map (fun a : SocketAddress => readsBack_str a.toText) s.listen) <|
    .cons (readsBack_str _) fills_nil

/-- The section as its text gives it back: without the flow label of its address. -/
def readBack (s : RelaySection) : RelaySection :=
  { s with listen := s.listen.map SocketAddress.unlabelled }

theorem readBack_eq_self_iff {s : RelaySection} :
    s.readBack = s ↔ ∀ a ∈ s.listen, a.flow = 0 := by
  obtain ⟨relay, listen, path⟩ := s
  cases listen with
  | none => simp [readBack]
  | some a => simp [readBack, SocketAddress.unlabelled_eq_self_iff]

/-- An address that may be missing comes back without its flow label. -/
theorem withDefault_addresses {r : Record} {name : String} (o : Option SocketAddress)
    (h : r.value? name = (o.map fun a => Toml.str a.toText).map Toml.toJson) :
    r.withDefault name (Record.orNull SocketAddress.ofJson?) none =
      some (o.map SocketAddress.unlabelled) := by
  cases o with
  | none => simp [Record.withDefault, h]
  | some a =>
      refine Record.withDefault_eq h ?_
      show (SocketAddress.ofText? a.toText).map some = _
      rw [SocketAddress.ofText?_toText, Option.map_some, Option.map_some]

theorem ofJson?_entries (s : RelaySection) :
    ofJson? (table s.entries).toJson = some s.readBack := by
  have hrecord : (table s.entries).toJson.record? fields = some ⟨entriesToJson s.entries, false⟩ :=
    record?_table (fills_entries s).keys (by decide)
  rw [ofJson?, Record.bind_field hrecord, entries_eq]
  dsimp only
  rw [Record.bind_field (Record.withDefault_eq (by simp) (bool?_bool s.relay)),
    Record.bind_field (withDefault_addresses s.listen (by simp)),
    Record.bind_field (Record.withDefault_eq (by simp) (text?_str s.path))]
  rfl

end RelaySection

namespace ProbeSection

/-- The names of the settings. -/
abbrev fields : List String := ["interval_secs", "timeout_ms", "concurrency", "virtual_port"]

theorem entries?_eq_some {s : ProbeSection} (h : s.entries? = some es) :
    ∃ interval timeout concurrency, number? s.intervalSecs = some interval ∧
      number? s.timeoutMs = some timeout ∧ number? s.concurrency = some concurrency ∧
      es = [("interval_secs", interval), ("timeout_ms", timeout), ("concurrency", concurrency),
        ("virtual_port", .int s.innerPort.toNat)] := by
  obtain ⟨interval, hinterval, h⟩ := Option.bind_eq_some_iff.mp h
  obtain ⟨timeout, htimeout, h⟩ := Option.bind_eq_some_iff.mp h
  obtain ⟨concurrency, hconcurrency, h⟩ := Option.bind_eq_some_iff.mp h
  exact ⟨interval, timeout, concurrency, hinterval, htimeout, hconcurrency,
    (Option.some.inj h).symm⟩

theorem fills_entries? {s : ProbeSection} (h : s.entries? = some es) : Fills fields es := by
  obtain ⟨interval, timeout, concurrency, hinterval, htimeout, hconcurrency, rfl⟩ :=
    entries?_eq_some h
  exact .cons (readsBack_number hinterval) <| .cons (readsBack_number htimeout) <|
    .cons (readsBack_number hconcurrency) <| .cons (readsBack_u16 _) fills_nil

theorem ofJson?_entries? {s : ProbeSection} (h : s.entries? = some es) :
    ofJson? (table es).toJson = some s := by
  have hrecord : (table es).toJson.record? fields = some ⟨entriesToJson es, false⟩ :=
    record?_table (fills_entries? h).keys (by decide)
  obtain ⟨interval, timeout, concurrency, hinterval, htimeout, hconcurrency, rfl⟩ :=
    entries?_eq_some h
  rw [ofJson?, Record.bind_field hrecord]
  dsimp only
  rw [Record.bind_field (Record.withDefault_eq (by simp) (u64?_number hinterval)),
    Record.bind_field (Record.withDefault_eq (by simp) (u64?_number htimeout)),
    Record.bind_field (Record.withDefault_eq (by simp) (u64?_number hconcurrency)),
    Record.bind_field (Record.withDefault_eq (by simp) (u16?_int s.innerPort))]
  rfl

end ProbeSection

/-! ### Policies -/

theorem mapM_number {n : Option UInt64} {o : Option Toml} (h : n.mapM number? = some o) :
    o = n.map (fun n => .int n.toNat) ∧ ∀ v ∈ o, v.ReadsBack := by
  cases n with
  | none =>
      obtain rfl := Option.some.inj h
      exact ⟨rfl, nofun⟩
  | some n =>
      obtain ⟨v, hv, h⟩ := Option.map_eq_some_iff.mp (show (number? n).map some = some o from h)
      subst h
      exact ⟨congrArg some (number?_eq_some hv).2,
        fun w hw => Option.some.inj hw ▸ readsBack_number hv⟩

theorem withDefault_u64s {r : Record} {name : String} (o d : Option UInt64)
    (h : r.value? name = (o.map fun n => Toml.int n.toNat).map Toml.toJson) :
    r.withDefault name (Record.orNull u64?) d = some (o.or d) := by
  refine Record.withDefault_orNull (fun n => ?_) d h
  show (u64? (Toml.int n.toNat).toJson).map some = _
  rw [u64?_int, Option.map_some]

theorem withDefault_u16s {r : Record} {name : String} (o d : Option UInt16)
    (h : r.value? name = (o.map fun n => Toml.int n.toNat).map Toml.toJson) :
    r.withDefault name (Record.orNull u16?) d = some (o.or d) := by
  refine Record.withDefault_orNull (fun n => ?_) d h
  show (u16? (Toml.int n.toNat).toJson).map some = _
  rw [u16?_int, Option.map_some]

theorem routingEntries?_eq_some {p : Policy Float} (h : routingEntries? p = some es) :
    ∃ stale offline, number? p.handshakeStaleSecs = some stale ∧
      p.offlineThresholdSecs.mapM number? = some offline ∧
      es = ("min_latency_ms", .float p.minLatencyMs) :: ("max_latency_ms", .float p.maxLatencyMs) ::
        ("latency_bucket_ms", .float p.latencyBucketMs) ::
        ("latency_log_scale", .bool p.latencyLogScale) ::
        ("latency_scale", .float p.latencyScale) ::
        ("inverse_bandwidth_weight", .float p.inverseBandwidthWeight) ::
        ("min_up_mbps", .float p.minUpMbps) :: ("default_up_mbps", .float p.defaultUpMbps) ::
        ("hop_weight", .float p.hopWeight) :: ("handshake_stale_after_secs", stale) ::
        ("handshake_penalty", .float p.handshakePenalty) ::
        ("default_latency_ms", .float p.defaultLatencyMs) ::
        (entry "offline_threshold_secs" offline ++
          entry "persistent_keepalive" (p.keepalive.map fun n => .int n.toNat)) := by
  obtain ⟨stale, hstale, h⟩ := Option.bind_eq_some_iff.mp h
  obtain ⟨offline, hoffline, h⟩ := Option.bind_eq_some_iff.mp h
  refine ⟨stale, offline, hstale, hoffline, ?_⟩
  rw [← Option.some.inj h]
  simp only [List.cons_append, List.nil_append]

theorem fills_routingEntries? {p : Policy Float} (hp : ∀ x ∈ p.numbers, Stands x)
    (h : routingEntries? p = some es) : Fills Policy.fields es := by
  obtain ⟨stale, offline, hstale, hoffline, rfl⟩ := routingEntries?_eq_some h
  have hfloat {x : Float} (hx : x ∈ p.numbers) : ReadsBack (.float x) := readsBack_float (hp x hx)
  have hlast := fills_entry (k := "persistent_keepalive") (readsBack_map readsBack_u16 p.keepalive) fills_nil
  rw [List.append_nil] at hlast
  exact .cons (hfloat (by simp [Policy.numbers])) <| .cons (hfloat (by simp [Policy.numbers])) <|
    .cons (hfloat (by simp [Policy.numbers])) <| .cons (readsBack_bool _) <|
    .cons (hfloat (by simp [Policy.numbers])) <| .cons (hfloat (by simp [Policy.numbers])) <|
    .cons (hfloat (by simp [Policy.numbers])) <| .cons (hfloat (by simp [Policy.numbers])) <|
    .cons (hfloat (by simp [Policy.numbers])) <| .cons (readsBack_number hstale) <|
    .cons (hfloat (by simp [Policy.numbers])) <| .cons (hfloat (by simp [Policy.numbers])) <|
    fills_entry (mapM_number hoffline).2 hlast

theorem nodup_fields : Policy.fields.Nodup := by decide

/-- A policy comes back with the standard settings for those that were not set. -/
theorem ofJson?_routingEntries? {p : Policy Float} (hp : ∀ x ∈ p.numbers, Stands x)
    (h : routingEntries? p = some es) : Policy.ofJson? (table es).toJson = some p.filled := by
  have hrecord : (table es).toJson.record? Policy.fields = some ⟨entriesToJson es, false⟩ :=
    record?_table (fills_routingEntries? hp h).keys nodup_fields
  obtain ⟨stale, offline, hstale, hoffline, rfl⟩ := routingEntries?_eq_some h
  obtain ⟨rfl, -⟩ := mapM_number hoffline
  rw [Policy.ofJson?, Record.bind_field hrecord,
    Record.bind_field (Record.withDefault_eq (by simp) (float?_float p.minLatencyMs)),
    Record.bind_field (Record.withDefault_eq (by simp) (float?_float p.maxLatencyMs)),
    Record.bind_field (Record.withDefault_eq (by simp) (float?_float p.latencyBucketMs)),
    Record.bind_field (Record.withDefault_eq (by simp) (bool?_bool p.latencyLogScale)),
    Record.bind_field (Record.withDefault_eq (by simp) (float?_float p.latencyScale)),
    Record.bind_field (Record.withDefault_eq (by simp) (float?_float p.inverseBandwidthWeight)),
    Record.bind_field (Record.withDefault_eq (by simp) (float?_float p.minUpMbps)),
    Record.bind_field (Record.withDefault_eq (by simp) (float?_float p.defaultUpMbps)),
    Record.bind_field (Record.withDefault_eq (by simp) (float?_float p.hopWeight)),
    Record.bind_field (Record.withDefault_eq (by simp) (u64?_number hstale)),
    Record.bind_field (Record.withDefault_eq (by simp) (float?_float p.handshakePenalty)),
    Record.bind_field (Record.withDefault_eq (by simp) (float?_float p.defaultLatencyMs)),
    Record.bind_field (withDefault_u64s p.offlineThresholdSecs _ (by simp)),
    Record.bind_field (withDefault_u16s p.keepalive _ (by simp))]
  rfl

/-! ### Configurations -/

namespace Config

/-- The configuration as its text gives it back: with the standard settings for those of its policy
that are not set, and without a flow label. -/
def readBack (c : Config) : Config :=
  { c with relay := c.relay.readBack, routing := c.routing.filled }

theorem readBack_eq_self_iff {c : Config} :
    c.readBack = c ↔ c.routing.offlineThresholdSecs.isSome ∧ c.routing.keepalive.isSome ∧
      ∀ a ∈ c.relay.listen, a.flow = 0 := by
  rw [← and_assoc, ← Policy.filled_eq_self_iff, ← RelaySection.readBack_eq_self_iff]
  constructor
  · exact fun h => ⟨congrArg routing h, congrArg relay h⟩
  · rintro ⟨hrouting, hrelay⟩
    rw [readBack, hrouting, hrelay]

/-- The names of the sections. -/
abbrev fields : List String := ["node", "device", "transport", "routing", "probe", "firewall"]

theorem sections?_eq_some {c : Config} {ss : List Section} (h : c.sections? = some ss) :
    ∃ node device routing probe, c.node.entries? = some node ∧ c.device.entries? = some device ∧
      routingEntries? c.routing = some routing ∧ c.probe.entries? = some probe ∧
      ss = [⟨"node", node⟩, ⟨"device", device⟩, ⟨"transport", c.relay.entries⟩,
        ⟨"routing", routing⟩, ⟨"probe", probe⟩, ⟨"firewall", [("enabled", .bool c.firewall)]⟩] := by
  obtain ⟨node, hnode, h⟩ := Option.bind_eq_some_iff.mp h
  obtain ⟨device, hdevice, h⟩ := Option.bind_eq_some_iff.mp h
  obtain ⟨routing, hrouting, h⟩ := Option.bind_eq_some_iff.mp h
  obtain ⟨probe, hprobe, h⟩ := Option.bind_eq_some_iff.mp h
  exact ⟨node, device, routing, probe, hnode, hdevice, hrouting, hprobe, (Option.some.inj h).symm⟩

theorem map_name_sections {c : Config} {ss : List Section} (h : c.sections? = some ss) :
    ss.map (·.name) = fields := by
  obtain ⟨node, device, routing, probe, -, -, -, -, rfl⟩ := sections?_eq_some h
  rfl

theorem fills_firewall (b : Bool) : Fills ["enabled"] [("enabled", .bool b)] :=
  .cons (readsBack_bool b) fills_nil

theorem firewallOf?_entries (b : Bool) :
    firewallOf? (table [("enabled", .bool b)]).toJson = some b := by
  have hrecord := record?_table (fills_firewall b).keys (by decide)
  rw [firewallOf?, Record.bind_field hrecord]
  exact Record.withDefault_eq (by simp) (bool?_bool b)

/-- All sections come back from their lines. -/
theorem readsBack_sections {c : Config} (hc : ∀ x ∈ c.routing.numbers, Stands x)
    {ss : List Section} (h : c.sections? = some ss) : ∀ s ∈ ss, s.ReadsBack := by
  obtain ⟨node, device, routing, probe, hnode, hdevice, hrouting, hprobe, rfl⟩ :=
    sections?_eq_some h
  simp only [List.forall_mem_cons]
  exact ⟨(NodeSection.fills_entries? hnode).section (by decide) (by decide) (by decide),
    (DeviceSection.fills_entries? hdevice).section (by decide) (by decide) (by decide),
    (RelaySection.fills_entries c.relay).section (by decide) (by decide) (by decide),
    (fills_routingEntries? hc hrouting).section nodup_fields (by decide) (by decide),
    (ProbeSection.fills_entries? hprobe).section (by decide) (by decide) (by decide),
    (fills_firewall c.firewall).section (by decide) (by decide) (by decide), nofun⟩

/-- The document of a configuration is taken as what its text gives back. -/
theorem ofJson?_sections {c : Config} (hc : ∀ x ∈ c.routing.numbers, Stands x)
    {ss : List Section} (h : c.sections? = some ss) :
    ofJson? (ofSections ss).toJson = some c.readBack := by
  have hrecord : (ofSections ss).toJson.record? fields =
      some ⟨entriesToJson (ss.map fun s => (s.name, table s.entries)), false⟩ := by
    refine record?_table ?_ (by decide)
    rw [List.map_map]
    exact (map_name_sections h).symm ▸ List.Sublist.refl _
  obtain ⟨node, device, routing, probe, hnode, hdevice, hrouting, hprobe, rfl⟩ :=
    sections?_eq_some h
  rw [ofJson?, Record.bind_field hrecord]
  simp only [List.map_cons, List.map_nil]
  rw [Record.bind_field (Record.required_eq (by simp) (NodeSection.ofJson?_entries? hnode)),
    Record.bind_field (Record.withDefault_eq (by simp) (DeviceSection.ofJson?_entries? hdevice)),
    Record.bind_field (Record.withDefault_eq (by simp) (RelaySection.ofJson?_entries c.relay)),
    Record.bind_field (Record.withDefault_eq (by simp) (ofJson?_routingEntries? hc hrouting)),
    Record.bind_field (Record.withDefault_eq (by simp) (ProbeSection.ofJson?_entries? hprobe)),
    Record.bind_field (Record.withDefault_eq (by simp) (firewallOf?_entries c.firewall))]
  rfl

/-- What a text gives back is judged as the configuration was. -/
theorem validate_readBack (c : Config) : c.readBack.validate = c.validate := rfl

theorem ofText_sectionsText {c : Config} (hc : ∀ x ∈ c.routing.numbers, Stands x)
    (hvalid : c.validate = .ok ()) {text : String} (htext : c.toText = .ok text) :
    ofText text = .ok c.readBack := by
  obtain ⟨ss, hss, rfl⟩ : ∃ ss, c.sections? = some ss ∧ sectionsText ss = text := by
    rw [toText] at htext
    split at htext
    · rename_i ss hss
      exact ⟨ss, hss, Except.ok.inj htext⟩
    · cases htext
  have hnames : (ss.map (·.name)).Nodup := by
    rw [map_name_sections hss]
    decide
  rw [ofText, ofText?_sectionsText ss (readsBack_sections hc hss) hnames]
  show ofToml (ofSections ss) = _
  rw [ofToml, ofJson?_sections hc hss]
  show c.readBack.validate.map _ = _
  rw [validate_readBack, hvalid]
  rfl

/-- **A valid configuration that can be written is read back from its text, with the standard
settings for the limit and the keepalive of its policy where these are not set, and without the flow
label of the address that it listens on.  So it comes back as it was exactly if both are set and
there is no label.**  Asked for is that the texts of its numbers stand for them. -/
theorem ofText_toText {c : Config} (hc : ∀ x ∈ c.routing.numbers, Stands x)
    (hvalid : c.validate = .ok ()) {text : String} (htext : c.toText = .ok text) :
    ofText text = .ok c.readBack ∧
      (ofText text = .ok c ↔
        c.routing.offlineThresholdSecs.isSome ∧ c.routing.keepalive.isSome ∧
          ∀ a ∈ c.relay.listen, a.flow = 0) := by
  have hread := ofText_sectionsText hc hvalid htext
  refine ⟨hread, ?_⟩
  rw [hread, ← readBack_eq_self_iff]
  exact ⟨Except.ok.inj, congrArg Except.ok⟩

namespace Sample

/-- A configuration for which every node is there. -/
def withoutLimit : Config where
  node := {
    id := 1
    topologyPath := "/etc/wiremesh/topology.json"
    privateKey := some "XmFkZ2ptcHN2eXx/goWIi46RlJeanaCjpqmsr7K1uLs=" }
  routing := Policy.standard.withoutLiveness

theorem stands_withoutLimit : ∀ x ∈ withoutLimit.routing.numbers, Stands x :=
  Policy.stands_standard

theorem validate_withoutLimit : withoutLimit.validate = .ok () := by
  have hok : withoutLimit.validate.isOk = true := by decide +kernel
  generalize withoutLimit.validate = r at hok
  cases r with
  | ok => rfl
  | error => cases hok

end Sample

theorem ofText_toText_withoutLimit :
    ∃ text, (∀ x ∈ Sample.withoutLimit.routing.numbers, Stands x) ∧
      Sample.withoutLimit.validate = .ok () ∧ Sample.withoutLimit.toText = .ok text ∧
      ofText text = .ok Sample.withoutLimit.readBack ∧
      (ofText text = .ok Sample.withoutLimit ↔
        Sample.withoutLimit.routing.offlineThresholdSecs.isSome ∧
          Sample.withoutLimit.routing.keepalive.isSome ∧
          ∀ a ∈ Sample.withoutLimit.relay.listen, a.flow = 0) :=
  ⟨_, Sample.stands_withoutLimit, Sample.validate_withoutLimit, rfl,
    ofText_toText Sample.stands_withoutLimit Sample.validate_withoutLimit rfl⟩

/-- A valid configuration without the limit gets one on its way through its text. -/
theorem offlineThreshold_withoutLimit :
    ∃ text c, Sample.withoutLimit.validate = .ok () ∧ Sample.withoutLimit.toText = .ok text ∧
      ofText text = .ok c ∧ c.routing.offlineThresholdSecs = some 300 ∧
      Sample.withoutLimit.routing.offlineThresholdSecs = none :=
  ⟨_, _, Sample.validate_withoutLimit, rfl,
    ofText_sectionsText Sample.stands_withoutLimit Sample.validate_withoutLimit rfl, rfl, rfl⟩

end Config

end Agent

end TunnelMesh

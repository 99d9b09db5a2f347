/-
What the reply of a device may hold.

Only the lines in front of the first empty one count, and of these only the ones with a
known key.  A line with another key changes nothing wherever it stands; all that is seen
of it is that the lines behind it are counted one further.  A reply is read if and only
if each line of it is well formed in its place and none gives an error number other than
zero, so that such a number is never passed over.
-/
import TunnelMesh.Proofs.Text.Opening
import TunnelMesh.Proofs.Tunnel.Value
import TunnelMesh.Tunnel.Status

namespace TunnelMesh

open Net Text

namespace StatusLine

/-! ### Lines -/

/-- The keys that mean something in a reply. -/
def keys : List String :=
  ["errno", "public_key", "private_key", "listen_port", "fwmark", "endpoint", "allowed_ip",
    "last_handshake_time_sec", "rx_bytes", "tx_bytes", "persistent_keepalive_interval"]

/-- What a key demands of its value, outside of every peer or in one. -/
@[mk_iff]
structure Suits (inPeer : Bool) (key value : String) : Prop where
  errno : key = "errno" → ∃ n, int? errnoBound value = some n
  publicKey : key = "public_key" → ∃ k, PublicKey.ofHex value = .ok k
  privateKey : inPeer = false → key = "private_key" → ∃ k, PrivateKey.ofHex value = .ok k
  listenPort : inPeer = false → key = "listen_port" → ∃ p, u16? value = some p
  fwmark : inPeer = false → key = "fwmark" → ∃ m, u32? value = some m
  endpoint : inPeer = true → key = "endpoint" → ∃ a, SocketAddress.ofText? value = some a
  allowedIp : inPeer = true → key = "allowed_ip" → ∃ n, readAllowedIp value = .ok n
  lastHandshake : inPeer = true → key = "last_handshake_time_sec" → ∃ t, u64? value = some t
  rxBytes : inPeer = true → key = "rx_bytes" → ∃ n, u64? value = some n
  txBytes : inPeer = true → key = "tx_bytes" → ∃ n, u64? value = some n
  keepalive : inPeer = true → key = "persistent_keepalive_interval" → ∃ n, u16? value = some n

/-- A line with a key and a value that suits it. -/
def WellFormed (inPeer : Bool) (line : String) : Prop :=
  ∃ key value, line = key ++ "=" ++ value ∧ '=' ∉ key.toList ∧ Suits inPeer key value

/-- A line that gives an error number other than zero. -/
def Reports (n : Int) (line : String) : Prop :=
  n ≠ 0 ∧ ∃ value, line = "errno=" ++ value ∧ int? errnoBound value = some n

/-- Whether a line starts a peer. -/
def opensPeer (line : String) : Bool := "public_key=".toList.isPrefixOf line.toList

/-- Whether a line that is read starts a peer. -/
def startsPeer : StatusLine → Bool
  | publicKey _ => true
  | _ => false

theorem read_split {inPeer : Bool} {key : String} (h : '=' ∉ key.toList) (value : String) :
    read inPeer (key ++ "=" ++ value) =
      if key = "errno" then
        (readValue (int? errnoBound) key value).map fun n => if n = 0 then .skipped else .failure n
      else if key = "public_key" then (PublicKey.ofHex value).map .publicKey |>.mapError .badKey
      else if inPeer then readPeer key value
      else readInterface key value := by
  rw [read, splitLine_eq_ok_iff.mpr ⟨rfl, h⟩]

/-- **A line with a key that is not known is skipped.** -/
theorem read_unknown {key : String} (heq : '=' ∉ key.toList) (hkey : key ∉ keys)
    (inPeer : Bool) (value : String) : read inPeer (key ++ "=" ++ value) = .ok .skipped := by
  simp only [keys, List.mem_cons, List.not_mem_nil, or_false, not_or] at hkey
  rw [read_split heq]
  cases inPeer with
  | false => simp [readInterface, hkey]
  | true => simp [readPeer, hkey]

/-! ### Well-formed lines -/

theorem exists_readInterface_iff {key value : String} :
    (∃ l, readInterface key value = .ok l) ↔
      (key = "private_key" → ∃ k, PrivateKey.ofHex value = .ok k) ∧
      (key = "listen_port" → ∃ p, u16? value = some p) ∧
      (key = "fwmark" → ∃ m, u32? value = some m) := by
  unfold readInterface
  split_ifs <;>
    simp_all [map_eq_ok_iff, mapError_eq_ok_iff, readValue_eq_ok_iff]

theorem exists_readPeer_iff {key value : String} :
    (∃ l, readPeer key value = .ok l) ↔
      (key = "endpoint" → ∃ a, SocketAddress.ofText? value = some a) ∧
      (key = "allowed_ip" → ∃ n, readAllowedIp value = .ok n) ∧
      (key = "last_handshake_time_sec" → ∃ t, u64? value = some t) ∧
      (key = "rx_bytes" → ∃ n, u64? value = some n) ∧
      (key = "tx_bytes" → ∃ n, u64? value = some n) ∧
      (key = "persistent_keepalive_interval" → ∃ n, u16? value = some n) := by
  unfold readPeer
  split_ifs <;>
    simp_all [map_eq_ok_iff, readValue_eq_ok_iff, readSubnet_eq_ok_iff]

theorem exists_read_iff_suits {inPeer : Bool} {key value : String} (heq : '=' ∉ key.toList) :
    (∃ l, read inPeer (key ++ "=" ++ value) = .ok l) ↔ Suits inPeer key value := by
  rw [read_split heq, suits_iff]
  split_ifs with herrno hpublic hin
  · simp [herrno, map_eq_ok_iff, readValue_eq_ok_iff]
  · simp [hpublic, map_eq_ok_iff, mapError_eq_ok_iff]
  · simp [hin, herrno, hpublic, exists_readPeer_iff]
  · simp [hin, herrno, hpublic, exists_readInterface_iff]

/-- **A line is read if it is well formed in its place.** -/
theorem exists_read_iff {inPeer : Bool} {line : String} :
    (∃ l, read inPeer line = .ok l) ↔ WellFormed inPeer line := by
  constructor
  · rintro ⟨l, hl⟩
    cases hsplit : splitLine line with
    | error e =>
        rw [read, hsplit] at hl
        simp at hl
    | ok kv =>
        obtain ⟨rfl, heq⟩ := splitLine_eq_ok_iff.mp hsplit
        exact ⟨kv.1, kv.2, rfl, heq, (exists_read_iff_suits heq).mp ⟨l, hl⟩⟩
  · rintro ⟨key, value, rfl, heq, hsuits⟩
    exact (exists_read_iff_suits heq).mpr hsuits

/-! ### Lines with a meaning of their own -/

/-- A line that neither fails a reply nor starts a peer. -/
def Plain : StatusLine → Prop
  | failure _ => False
  | publicKey _ => False
  | _ => True

theorem plain_of_readInterface {key value : String} {l : StatusLine}
    (h : readInterface key value = .ok l) : l.Plain := by
  unfold readInterface at h
  split_ifs at h
  · obtain ⟨k, -, rfl⟩ := map_eq_ok_iff.mp (mapError_eq_ok_iff.mp h)
    trivial
  · obtain ⟨p, -, rfl⟩ := map_eq_ok_iff.mp h
    trivial
  · obtain ⟨m, -, rfl⟩ := map_eq_ok_iff.mp h
    trivial
  · exact Except.ok.inj h ▸ trivial

theorem plain_of_readPeer {key value : String} {l : StatusLine}
    (h : readPeer key value = .ok l) : l.Plain := by
  unfold readPeer at h
  split_ifs at h
  · obtain ⟨a, -, rfl⟩ := map_eq_ok_iff.mp h
    trivial
  · obtain ⟨n, -, rfl⟩ := map_eq_ok_iff.mp h
    trivial
  · obtain ⟨t, -, rfl⟩ := map_eq_ok_iff.mp h
    trivial
  · obtain ⟨n, -, rfl⟩ := map_eq_ok_iff.mp h
    trivial
  · obtain ⟨n, -, rfl⟩ := map_eq_ok_iff.mp h
    trivial
  · obtain ⟨n, -, rfl⟩ := map_eq_ok_iff.mp h
    trivial
  · exact Except.ok.inj h ▸ trivial

/-- What a line that is read is. -/
theorem read_cases {inPeer : Bool} {key value : String} {l : StatusLine} (heq : '=' ∉ key.toList)
    (h : read inPeer (key ++ "=" ++ value) = .ok l) :
    (key = "errno" ∧ ∃ n, int? errnoBound value = some n ∧
      l = if n = 0 then skipped else failure n) ∨
    (key = "public_key" ∧ ∃ k, l = publicKey k) ∨
    (key ≠ "errno" ∧ key ≠ "public_key" ∧ l.Plain) := by
  rw [read_split heq] at h
  split_ifs at h with herrno hpublic hin
  · obtain ⟨n, hn, hl⟩ := map_eq_ok_iff.mp h
    exact .inl ⟨herrno, n, readValue_eq_ok_iff.mp hn, hl.symm⟩
  · obtain ⟨k, -, hl⟩ := map_eq_ok_iff.mp (mapError_eq_ok_iff.mp h)
    exact .inr (.inl ⟨hpublic, k, hl.symm⟩)
  · exact .inr (.inr ⟨herrno, hpublic, plain_of_readPeer h⟩)
  · exact .inr (.inr ⟨herrno, hpublic, plain_of_readInterface h⟩)

theorem exists_split_of_read {inPeer : Bool} {line : String} {l : StatusLine}
    (h : read inPeer line = .ok l) : ∃ key value, line = key ++ "=" ++ value ∧ '=' ∉ key.toList := by
  obtain ⟨key, value, hline, heq, -⟩ := exists_read_iff.mp ⟨l, h⟩
  exact ⟨key, value, hline, heq⟩

/-- **A line fails a reply if it gives an error number other than zero.** -/
theorem read_eq_failure_iff {inPeer : Bool} {line : String} {n : Int} :
    read inPeer line = .ok (.failure n) ↔ Reports n line := by
  constructor
  · intro h
    obtain ⟨key, value, rfl, heq⟩ := exists_split_of_read h
    rcases read_cases heq h with ⟨rfl, m, hm, hl⟩ | ⟨-, k, hl⟩ | ⟨-, -, hplain⟩
    · by_cases hzero : m = 0
      · simp [hzero] at hl
      · rw [if_neg hzero] at hl
        obtain rfl := failure.inj hl
        exact ⟨hzero, value, rfl, hm⟩
    · simp at hl
    · exact absurd hplain (by simp [Plain])
  · rintro ⟨hne, value, rfl, hn⟩
    have hread := @read_split inPeer "errno" (by decide) value
    rw [if_pos rfl, readValue_eq_ok_iff.mpr hn] at hread
    simpa [Except.map, hne] using hread

theorem opensPeer_iff {line : String} :
    opensPeer line = true ↔ ∃ value, line = "public_key" ++ "=" ++ value := by
  rw [opensPeer, List.isPrefixOf_iff_prefix]
  constructor
  · rintro ⟨rest, hrest⟩
    refine ⟨String.ofList rest, ?_⟩
    rw [← String.ofList_toList (s := line), ← hrest, String.ofList_append]
    rfl
  · rintro ⟨value, rfl⟩
    exact ⟨value.toList, by simp⟩

/-- **A line that is read starts a peer if it looks like it.** -/
theorem startsPeer_of_read {inPeer : Bool} {line : String} {l : StatusLine}
    (h : read inPeer line = .ok l) : startsPeer l = opensPeer line := by
  obtain ⟨key, value, rfl, heq⟩ := exists_split_of_read h
  have hopens : opensPeer (key ++ "=" ++ value) = true ↔ key = "public_key" := by
    rw [opensPeer_iff]
    constructor
    · rintro ⟨value', hline⟩
      exact (eq_of_split hline heq (by decide)).1
    · rintro rfl
      exact ⟨value, rfl⟩
  rw [Bool.eq_iff_iff, hopens]
  rcases read_cases heq h with ⟨rfl, n, -, rfl⟩ | ⟨rfl, k, rfl⟩ | ⟨-, hne, hplain⟩
  · by_cases hzero : n = 0
    · simp [hzero, startsPeer]
    · simp [hzero, startsPeer]
  · simp [startsPeer]
  · cases l <;> simp_all [startsPeer, Plain]

/-- **A line fails no reply if it is read and gives no error number other than zero.** -/
theorem exists_read_iff_sound {inPeer : Bool} {line : String} :
    (∃ l, read inPeer line = .ok l ∧ ∀ n, l ≠ .failure n) ↔
      WellFormed inPeer line ∧ ∀ n, ¬ Reports n line := by
  constructor
  · rintro ⟨l, hl, hne⟩
    refine ⟨exists_read_iff.mp ⟨l, hl⟩, fun n hn => ?_⟩
    rw [read_eq_failure_iff.mpr hn] at hl
    exact hne n (Except.ok.inj hl).symm
  · rintro ⟨hformed, hnone⟩
    obtain ⟨l, hl⟩ := exists_read_iff.mpr hformed
    refine ⟨l, hl, ?_⟩
    rintro n rfl
    exact hnone n (read_eq_failure_iff.mp hl)

end StatusLine

/-- An error when a line more stands behind the first `k`: what is behind it is counted one
further. -/
def TunnelError.behind (k : Nat) : TunnelError → TunnelError
  | .line number f => .line (if k < number then number + 1 else number) f
  | e => e

open StatusLine (WellFormed Reports opensPeer)

namespace InterfaceStatus

/-! ### Lines that fail no reply -/

/-- Each line is well formed in its place and gives no error number other than zero. -/
def Sound (ls : List String) : Prop :=
  ∀ before line after, ls = before ++ line :: after →
    WellFormed (before.any opensPeer) line ∧ ∀ n, ¬ Reports n line

/-- The same line by line; `inPeer` tells whether a `public_key` line stands before them. -/
def SoundFrom : Bool → List String → Prop
  | _, [] => True
  | inPeer, line :: ls =>
    (WellFormed inPeer line ∧ ∀ n, ¬ Reports n line) ∧ SoundFrom (inPeer || opensPeer line) ls

theorem soundFrom_iff (ls : List String) : ∀ inPeer, SoundFrom inPeer ls ↔
    ∀ before line after, ls = before ++ line :: after →
      WellFormed (inPeer || before.any opensPeer) line ∧ ∀ n, ¬ Reports n line := by
  induction ls with
  | nil => simp [SoundFrom]
  | cons l ls ih =>
      intro inPeer
      rw [SoundFrom, ih]
      constructor
      · rintro ⟨hl, hls⟩ before line after hsplit
        cases before with
        | nil =>
            obtain ⟨rfl, -⟩ := List.cons.inj hsplit
            simpa using hl
        | cons b before =>
            obtain ⟨rfl, hrest⟩ := List.cons.inj hsplit
            simpa [Bool.or_assoc] using hls before line after hrest
      · intro h
        refine ⟨by simpa using h [] l ls rfl, ?_⟩
        intro before line after hsplit
        have := h (l :: before) line after (by rw [hsplit]; rfl)
        simpa [Bool.or_assoc] using this

theorem soundFrom_false_iff {ls : List String} : SoundFrom false ls ↔ Sound ls := by
  rw [soundFrom_iff]
  simp [Sound]

/-! ### Reading -/

namespace Reading

theorem isSome_push (r : Reading) (l : StatusLine) :
    (r.push l).current.isSome = (r.current.isSome || l.startsPeer) := by
  cases l <;> simp [push, inPeer, StatusLine.startsPeer]

theorem name_push (r : Reading) (l : StatusLine) : (r.push l).done.name = r.done.name := by
  cases l with
  | publicKey k =>
      cases hcurrent : r.current <;> simp [push, finish, hcurrent]
  | _ => rfl

theorem isEmpty_of_read {inPeer : Bool} {line : String} {l : StatusLine}
    (h : StatusLine.read inPeer line = .ok l) : line.isEmpty = false := by
  obtain ⟨key, value, rfl, -⟩ := StatusLine.exists_split_of_read h
  simp

section Steps

variable {line : String} {r : Reading}

theorem run_wrong {f : LineFault} (hne : line ≠ "")
    (h : StatusLine.read r.current.isSome line = .error f) (number : Nat) (rest : List String) :
    r.run number (line :: rest) = .error (.line number f) := by
  rw [run, if_neg (by simpa using hne), h]

theorem run_failure {n : Int} (h : StatusLine.read r.current.isSome line = .ok (.failure n))
    (number : Nat) (rest : List String) :
    r.run number (line :: rest) = .error (.errno r.done.name n) := by
  rw [run, isEmpty_of_read h, if_neg (by simp), h]

theorem run_push {l : StatusLine} (h : StatusLine.read r.current.isSome line = .ok l)
    (hl : ∀ n, l ≠ .failure n) (number : Nat) (rest : List String) :
    r.run number (line :: rest) = (r.push l).run (number + 1) rest := by
  rw [run, isEmpty_of_read h, if_neg (by simp), h]
  cases l with
  | failure n => exact absurd rfl (hl n)
  | _ => rfl

end Steps

/-- **A line is read on from, fails the reply by its number, or is refused.** -/
theorem read_trichotomy (inPeer : Bool) (line : String) :
    (∃ l, StatusLine.read inPeer line = .ok l ∧ ∀ n, l ≠ .failure n) ∨
    (∃ n, StatusLine.read inPeer line = .ok (.failure n)) ∨
    (∃ f, StatusLine.read inPeer line = .error f) := by
  cases h : StatusLine.read inPeer line with
  | error f => exact .inr (.inr ⟨f, rfl⟩)
  | ok l =>
      cases l with
      | failure n => exact .inr (.inl ⟨n, rfl⟩)
      | _ => exact .inl ⟨_, rfl, by simp⟩

/-- **Lines that fail no reply are read one after the other.** -/
theorem run_append (front : List String) : ∀ (r : Reading) (number : Nat),
    SoundFrom r.current.isSome front → ∃ r' : Reading, r'.done.name = r.done.name ∧
      ∀ rest, r.run number (front ++ rest) = r'.run (number + front.length) rest := by
  induction front with
  | nil => exact fun r number _ => ⟨r, rfl, fun _ => rfl⟩
  | cons line front ih =>
      intro r number h
      obtain ⟨l, hread, hl⟩ := StatusLine.exists_read_iff_sound.mpr h.1
      have hrest : SoundFrom (r.push l).current.isSome front := by
        rw [isSome_push, StatusLine.startsPeer_of_read hread]
        exact h.2
      obtain ⟨r', hname, hrun⟩ := ih (r.push l) (number + 1) hrest
      refine ⟨r', hname.trans (name_push r l), fun rest => ?_⟩
      rw [List.cons_append, run_push hread hl, hrun, List.length_cons]
      congr 1
      omega

/-- **A reply is read if no line up to the first empty one fails it.** -/
theorem exists_run_iff (ls : List String) : ∀ (r : Reading) (number : Nat),
    (∃ st, r.run number ls = .ok st) ↔
      SoundFrom r.current.isSome (ls.takeWhile (· ≠ "")) := by
  induction ls with
  | nil => simp [run, SoundFrom]
  | cons line ls ih =>
      intro r number
      by_cases hne : line = ""
      · simp [run, hne, SoundFrom]
      · rw [List.takeWhile_cons_of_pos (by simpa using hne), SoundFrom,
          ← StatusLine.exists_read_iff_sound]
        rcases read_trichotomy r.current.isSome line with ⟨l, hread, hl⟩ | ⟨n, hread⟩ | ⟨f, hread⟩
        · rw [run_push hread hl, ih, isSome_push, StatusLine.startsPeer_of_read hread]
          simp [hread, hl]
        · simp [run_failure hread, hread]
        · simp [run_wrong hne hread, hread]

/-! ### A line more -/

theorem run_next (ls : List String) : ∀ (r : Reading) (number k : Nat), k < number →
    r.run (number + 1) ls = (r.run number ls).mapError (TunnelError.behind k) := by
  induction ls with
  | nil => intro r number k _; rfl
  | cons line ls ih =>
      intro r number k hk
      by_cases hne : line = ""
      · simp [run, hne, Except.mapError]
      · rcases read_trichotomy r.current.isSome line with ⟨l, hread, hl⟩ | ⟨n, hread⟩ | ⟨f, hread⟩
        · rw [run_push hread hl, run_push hread hl]
          exact ih (r.push l) (number + 1) k (by omega)
        · rw [run_failure hread, run_failure hread]
          rfl
        · rw [run_wrong hne hread, run_wrong hne hread]
          simp [Except.mapError, TunnelError.behind, hk]

/-- **A line that is skipped is not seen but by the numbers of the lines behind it.** -/
theorem run_insert {line : String} (hline : ∀ inPeer, StatusLine.read inPeer line = .ok .skipped)
    (after : List String) {front : List String} (hfront : "" ∉ front) :
    ∀ (r : Reading) (k : Nat), r.run (k + 1) (front ++ line :: after) =
      (r.run (k + 1) (front ++ after)).mapError (TunnelError.behind (k + front.length)) := by
  induction front with
  | nil =>
      intro r k
      rw [List.nil_append, run_push (hline _) (by simp)]
      exact run_next after r (k + 1) k (by omega)
  | cons l front ih =>
      intro r k
      obtain ⟨hne, hfront⟩ := not_or.mp (mt List.mem_cons.mpr hfront)
      have hlength : k + (l :: front).length = k + 1 + front.length := by
        rw [List.length_cons]
        omega
      rw [List.cons_append, List.cons_append, hlength]
      rcases read_trichotomy r.current.isSome l with ⟨a, hread, ha⟩ | ⟨n, hread⟩ | ⟨f, hread⟩
      · rw [run_push hread ha, run_push hread ha]
        exact ih hfront (r.push a) (k + 1)
      · rw [run_failure hread, run_failure hread]
        rfl
      · -- The fault is in front of the line, and keeps its number.
        rw [run_wrong (Ne.symm hne) hread, run_wrong (Ne.symm hne) hread]
        have hle : ¬ k + 1 + front.length < k + 1 := by omega
        simp [Except.mapError, TunnelError.behind, hle]

end Reading

/-! ### Replies -/

/-- **A reply is read if and only if no line of it fails it.** -/
theorem exists_ofText_iff (name s : String) :
    (∃ st, ofText name s = .ok st) ↔ Sound (opening s) := by
  rw [← soundFrom_false_iff]
  exact Reading.exists_run_iff (lines s) _ 1

/-- What a reader of replies promises to devices of any age. -/
structure Lenient (name : String) : Prop where
  /-- A line with a key that is not known changes nothing but the numbers of the lines behind it. -/
  skips : ∀ s t front after key value, lines s = front ++ after →
    lines t = front ++ (key ++ "=" ++ value) :: after → "" ∉ front → '=' ∉ key.toList →
    key ∉ StatusLine.keys → ofText name t = (ofText name s).mapError (TunnelError.behind front.length)
  /-- An error number other than zero fails the reply, wherever it stands. -/
  fails : ∀ s line n, line ∈ opening s → Reports n line → ∃ e, ofText name s = .error e
  /-- The first such number is the error, if the lines before it are well formed. -/
  reports : ∀ s front line after n, lines s = front ++ line :: after → Reports n line →
    (∀ l ∈ front, ∀ m, ¬ Reports m l) →
    (∀ before l rest, front = before ++ l :: rest → WellFormed (before.any opensPeer) l) →
    ofText name s = .error (.errno name n)

theorem lenient_ofText (name : String) : Lenient name where
  skips s t front after key value hs ht hfront heq hkey := by
    have hline := fun inPeer => StatusLine.read_unknown heq hkey inPeer value
    have hrun := Reading.run_insert hline after hfront ⟨{ name := name }, none⟩ 0
    rw [Nat.zero_add, Nat.zero_add] at hrun
    rw [ofText, ofText, hs, ht, hrun]
  fails s line n hmem hreports := by
    cases h : ofText name s with
    | error e => exact ⟨e, rfl⟩
    | ok st =>
        obtain ⟨before, after, hsplit⟩ := List.append_of_mem hmem
        have hsound := (exists_ofText_iff name s).mp ⟨st, h⟩ before line after hsplit
        exact absurd hreports (hsound.2 n)
  reports s front line after n hs hreports hnone hformed := by
    have hsound : Sound front := by
      intro before l rest hsplit
      refine ⟨hformed before l rest hsplit, hnone l ?_⟩
      rw [hsplit]
      simp
    obtain ⟨r, hname, hrun⟩ := Reading.run_append front ⟨{ name := name }, none⟩ 1
      (soundFrom_false_iff.mpr hsound)
    rw [ofText, hs, hrun, Reading.run_failure (StatusLine.read_eq_failure_iff.mpr hreports), hname]

/-- A line of a newer device moves the fault behind it. -/
example : ofText "wm0" "protocol_version=1\nlisten_port=x\n" =
    .error (.line 2 (.badValue "listen_port" "x")) := rfl

end InterfaceStatus

end TunnelMesh

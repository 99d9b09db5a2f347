/-
Round trips measured by the program `ping`.

The round trip is the number behind the first `time=` of the program's output, in
milliseconds; without one it is the time that the program took.  A number that no
span of time can hold breaks the probe off.
-/
import TunnelMesh.Host.Command
import TunnelMesh.Net.Address
import TunnelMesh.Probe.Source
import TunnelMesh.Text.Digits
import TunnelMesh.Time.Duration

namespace TunnelMesh

open Host Net

/-- The span of a number of seconds, to the nearest nanosecond; none where it is no span. -/
def Duration.ofSeconds? (x : Float) : Option Duration :=
  match Decimal.Parts.ofFloat x with
  | .finite false m q =>
    let (num, den) := Decimal.fraction m q
    if num < Nat.pow 2 64 * den then some ⟨Decimal.divNearest (num * second) den⟩ else none
  | .finite true 0 _ => some ⟨0⟩
  | _ => none

namespace Ping

/-- The command that asks an address once and waits at least a second. -/
def command (ip : Address) (timeout : Duration) : Except CommandError Command :=
  Command.mk? .ping
    ["-n", "-c", "1", "-W", toString (Nat.max timeout.secs 1), ip.toText]

/-- What follows the first occurrence of a word. -/
def after? (word : List Char) : List Char → Option (List Char)
  | [] => if word.isEmpty then some [] else none
  | c :: rest =>
    if word.isPrefixOf (c :: rest) then some ((c :: rest).drop word.length) else after? word rest

/-- Digits with at most one point, as a number over a power of ten. -/
def decimal? (cs : List Char) : Option (Nat × Nat) :=
  let (whole, rest) := Text.takeDigits 10 cs
  let places := match rest with
    | '.' :: rest => Text.takeDigits 10 rest
    | rest => ([], rest)
  let digits := whole ++ places.1
  if digits.isEmpty || !places.2.isEmpty then none
  else some (Text.ofDigits 10 digits, places.1.length)

/-- The decimal behind the first `time=` of an output. -/
def time? (stdout : String) : Option (Nat × Nat) := do
  let rest ← after? "time=".toList stdout.toList
  decimal? (rest.takeWhile fun c => c.isDigit || c == '.')

/-- The milliseconds that an output tells, to the nearest floating point number. -/
def millis? (stdout : String) : Option Float := do
  let (n, k) ← time? stdout
  let x := Float.ofScientific n true k
  if x.isFinite then some x else none

/-- What a successful run tells that took some time. -/
def ofOutput (stdout : String) (elapsed : Duration) : Except ProbeFault Duration :=
  match millis? stdout with
  | none => .ok elapsed
  | some ms =>
    match Duration.ofSeconds? (ms / 1000.0) with
    | some rtt => .ok rtt
    | none => .error .overflow

/-- What a run tells that took some time; it may take a second longer than the ping itself. -/
def ofRun (timeout elapsed : Duration) (r : Except CommandError Output) :
    Except ProbeFault (Option Duration) :=
  if timeout.nanos + Duration.second < elapsed.nanos then .ok none
  else
    match r with
    | .ok output => if output.success then (ofOutput output.stdout elapsed).map some else .ok none
    | .error _ => .ok none

end Ping

end TunnelMesh

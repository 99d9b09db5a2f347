/-
Addresses of relays: the schemes `ws` and `wss`.

An address is read leniently and written in one form: scheme and host in lower
case, the scheme's own port left out, dots resolved in the path, and characters
that may not stand for themselves written as bytes.
-/
import TunnelMesh.Url.Host

namespace TunnelMesh

open Url

/-- The address of a relay. -/
structure RelayUrl where
  /-- Whether the scheme is the encrypted one. -/
  secure : Bool
  username : String
  password : String
  host : Host
  /-- The port, unless it is the scheme's own. -/
  port : Option UInt16
  /-- The parts of the path between slashes; there is at least one. -/
  path : List String
  query : Option String
  fragment : Option String
deriving DecidableEq

namespace RelayUrl

/-- What an address holds in words. -/
def texts (u : RelayUrl) : List (List String) :=
  [[u.username, u.password], u.path, u.query.toList, u.fragment.toList, u.host.name?.toList]

/-- What an address holds in numbers. -/
def numbers (u : RelayUrl) : List (List Nat) :=
  [[if u.secure then 1 else 0], u.port.toList.map UInt16.toNat, u.host.numbers]

/-- Words and numbers tell addresses apart. -/
theorem eq_of_texts_numbers {a b : RelayUrl} (h : a.texts = b.texts) (h' : a.numbers = b.numbers) :
    a = b := by
  simp only [texts, numbers, List.cons.injEq, and_true] at h h'
  obtain ⟨⟨hu, hp⟩, hpath, hq, hf, hn⟩ := h
  obtain ⟨hs, hport, hh⟩ := h'
  have inj {x y : Option String} (e : x.toList = y.toList) : x = y := by
    cases x <;> cases y <;> simp_all
  have host : a.host = b.host := Host.eq_of_name_numbers (inj hn) hh
  have query : a.query = b.query := inj hq
  have fragment : a.fragment = b.fragment := inj hf
  have port : a.port = b.port := by
    cases ha : a.port <;> cases hb : b.port <;> simp_all [UInt16.toNat_inj]
  have secure : a.secure = b.secure := by
    cases ha : a.secure <;> cases hb : b.secure <;> simp_all
  cases a
  cases b
  simp_all

/-- Addresses go by their words, then by their numbers. -/
instance : Ord RelayUrl := ⟨compareLex (compareOn texts) (compareOn numbers)⟩

instance : Std.TransOrd RelayUrl :=
  inferInstanceAs (Std.TransCmp (compareLex (compareOn texts) (compareOn numbers)))

instance : Std.LawfulEqOrd RelayUrl :=
  Order.lawful_compareLex (f := texts) (g := numbers) fun _ _ => eq_of_texts_numbers

/-- The port of a scheme. -/
def defaultPort (secure : Bool) : UInt16 := if secure then 443 else 80

/-- The port, the scheme's own if none is named. -/
def effectivePort (u : RelayUrl) : UInt16 := u.port.getD (defaultPort u.secure)

/-- Name and password before the host. -/
def credentialsText (u : RelayUrl) : String :=
  if u.username.isEmpty && u.password.isEmpty then ""
  else u.username ++ (if u.password.isEmpty then "" else ":" ++ u.password) ++ "@"

/-- The path. -/
def pathText (u : RelayUrl) : String := String.join (u.path.map ("/" ++ ·))

/-- The text of an address. -/
def toText (u : RelayUrl) : String :=
  (if u.secure then "wss" else "ws") ++ "://" ++ u.credentialsText ++ u.host.toText ++
    (match u.port with | some p => ":" ++ toString p.toNat | none => "") ++ u.pathText ++
    (match u.query with | some q => "?" ++ q | none => "") ++
    (match u.fragment with | some f => "#" ++ f | none => "")

/-- The scheme in front of a colon, in lower case, and what follows. -/
def splitScheme (cs : List Char) : Option (String × List Char) :=
  let word := cs.takeWhile fun c => c.isAlphanum || c == '+' || c == '-' || c == '.'
  match word, cs.drop word.length with
  | c :: _, ':' :: rest => if c.isAlpha then some ((String.ofList word).toLower, rest) else none
  | _, _ => none

/-- Whether a character ends the part before the path. -/
def endsAuthority (c : Char) : Bool := c == '/' || c == '\\' || c == '?' || c == '#'

/-- Splits at the last occurrence of a character. -/
def splitLast (mark : Char) (cs : List Char) : Option (List Char × List Char) :=
  let after := (cs.reverse.takeWhile (· != mark)).reverse
  if after.length = cs.length then none
  else some (cs.take (cs.length - after.length - 1), after)

/-- Splits at the first occurrence of a character; the character goes with the second part. -/
def splitFirst (p : Char → Bool) (cs : List Char) : List Char × List Char :=
  (cs.takeWhile fun c => !p c, cs.dropWhile fun c => !p c)

/-- The host at the start and what follows: a colon inside brackets belongs to the host. -/
def splitHost (inside : Bool) : List Char → List Char × List Char
  | [] => ([], [])
  | c :: rest =>
    if c == ':' && !inside then ([], c :: rest)
    else
      let (host, rest') := splitHost (if c == '[' then true else if c == ']' then false else inside) rest
      (c :: host, rest')

/-- Reads what follows the host: nothing, or a colon and a port that may be missing. -/
def readPort? (secure : Bool) : List Char → Option (Option UInt16)
  | [] => some none
  | ':' :: digits =>
    match Text.takeDigits 10 digits with
    | ([], []) => some none
    | (ds, []) =>
      let n := Text.ofDigits 10 ds
      if n < 65536 then
        let p := UInt16.ofNat n
        some (if p = defaultPort secure then none else some p)
      else none
    | _ => none
  | _ => none

/-- Splits at slashes of either kind. -/
def splitPath : List Char → List (List Char)
  | [] => [[]]
  | c :: rest =>
    if c == '/' || c == '\\' then [] :: splitPath rest
    else
      match splitPath rest with
      | [] => [[c]]
      | s :: ss => (c :: s) :: ss

/-- Whether a part of a path stands for the directory itself. -/
def isDot (s : String) : Bool := [".", "%2e"].contains s.toLower

/-- Whether a part of a path stands for the directory above. -/
def isDotDot (s : String) : Bool := ["..", "%2e.", ".%2e", "%2e%2e"].contains s.toLower

/-- Whether a part of a path is a letter and a colon or bar; the directory above it is itself. -/
def isDrive (s : String) : Bool :=
  match s.toList with
  | [a, b] => a.isAlpha && (b == ':' || b == '|')
  | _ => false

/-- Drops the last part of a path. -/
def climb (path : List String) : List String :=
  if path.getLast?.any isDrive then path else path.dropLast

/-- Resolves the dots among the parts of a path. -/
def resolvePath (done : List String) : List String → List String
  | [] => done
  | s :: rest =>
    let last := if rest.isEmpty then [""] else []
    if isDotDot s then resolvePath (climb done ++ last) rest
    else if isDot s then resolvePath (done ++ last) rest
    else resolvePath (done ++ [s]) rest

/-- Reads the part between the slashes and the path. -/
def readAuthority? (secure : Bool) (cs : List Char) :
    Option (String × String × Host × Option UInt16) := do
  let (credentials, rest) := (splitLast '@' cs).getD ([], cs)
  let (name, password) := splitFirst (· == ':') credentials
  let (host, port) := splitHost false rest
  if host.isEmpty then none
  else
    let host ← Host.ofText? host
    let port ← readPort? secure port
    return (escape hiddenInCredentials name, escape hiddenInCredentials (password.drop 1), host, port)

/-- Reads an address with one of the two schemes. -/
def ofText? (s : String) : Option RelayUrl := do
  let blank (c : Char) : Bool := c.toNat ≤ 32
  let cs := ((s.toList.dropWhile blank).reverse.dropWhile blank).reverse
  let cs := cs.filter fun c => !(c == '\t' || c == '\n' || c == '\r')
  let (scheme, rest) ← splitScheme cs
  let secure ← if scheme == "ws" then some false else if scheme == "wss" then some true else none
  let rest := rest.dropWhile fun c => c == '/' || c == '\\'
  let (authority, rest) := splitFirst endsAuthority rest
  let (username, password, host, port) ← readAuthority? secure authority
  let (path, rest) := splitFirst (fun c => c == '?' || c == '#') rest
  let (query, fragment) := splitFirst (· == '#') rest
  let parts := match path with
    | [] => [[]]
    | _ :: rest => splitPath rest
  return {
    secure, username, password, host, port
    path := resolvePath [] (parts.map (escape hiddenInPath))
    query := query.head?.map fun _ => escape hiddenInQuery (query.drop 1)
    fragment := fragment.head?.map fun _ => escape hiddenInFragment (fragment.drop 1) }

end RelayUrl

end TunnelMesh

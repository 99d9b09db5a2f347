/-
What it takes for a request over a control socket to count as done.

A reply is read up to its first empty line, or up to where it was cut off, and is then
judged like the answer to a question about the status.  So a request is done if and only
if the socket was served and no line of the reply speaks against it: each is well formed,
and each error number is zero.  That there is an error number is not asked for, and a far
end that goes away without a word has taken the request.
-/
import TunnelMesh.Proofs.Tunnel.Status
import TunnelMesh.Tunnel.Control

namespace TunnelMesh

open Text
open StatusLine (WellFormed Reports opensPeer)

namespace ControlSocket

/-! ### Replies -/

/-- Reading stops at an empty line between line feeds; an open line is one that is not empty. -/
theorem takeWhile_replyChars (cs : List Char) : ∀ cur : List Char,
    (linesFrom cur (replyChars cur.isEmpty cs ++ ['\n'])).takeWhile (· ≠ "") =
      (linesFrom cur (cs ++ ['\n'])).takeWhile (· ≠ "") := by
  induction cs with
  | nil => intro cur; rfl
  | cons c cs ih =>
      intro cur
      by_cases hc : c = '\n'
      · subst hc
        cases cur with
        | nil =>
            -- The reply ends here, and so does the reading of the text as a whole.
            have hstop : replyChars true ('\n' :: cs) = [] := by simp [replyChars]
            rw [List.isEmpty_nil, hstop]
            simp [linesFrom, dropReturn]
        | cons d cur =>
            have hgo : replyChars false ('\n' :: cs) = '\n' :: replyChars true cs := by
              simp [replyChars]
            have hrest := ih []
            rw [List.isEmpty_nil] at hrest
            rw [List.isEmpty_cons, hgo, List.cons_append, List.cons_append, linesFrom, linesFrom,
              List.takeWhile_cons, List.takeWhile_cons, hrest]
      · have hgo : replyChars cur.isEmpty (c :: cs) = c :: replyChars false cs := by
          simp [replyChars, hc]
        have hrest := ih (c :: cur)
        rw [List.isEmpty_cons] at hrest
        rw [hgo, List.cons_append, List.cons_append, linesFrom.eq_3 _ _ _ hc,
          linesFrom.eq_3 _ _ _ hc, hrest]

/-- **Of a reply the lines before its first empty one are read; a cut-off line is closed.** -/
theorem opening_readReply (sent : String) : opening (readReply sent) = opening (sent ++ "\n") := by
  have hchars := takeWhile_replyChars sent.toList []
  rw [List.isEmpty_nil] at hchars
  rw [opening, opening, lines, lines, readReply, String.toList_append, String.toList_append,
    String.toList_ofList]
  exact hchars

/-- Nothing in a reply speaks against the request. -/
structure Unopposed (reply : String) : Prop where
  /-- Each line is well formed in its place. -/
  wellFormed : ∀ before line after, opening (reply ++ "\n") = before ++ line :: after →
    WellFormed (before.any opensPeer) line
  /-- Each error number is zero. -/
  zero : ∀ value, "errno=" ++ value ∈ opening (reply ++ "\n") → int? errnoBound value = some 0

theorem sound_iff_unopposed {reply : String} :
    InterfaceStatus.Sound (opening (reply ++ "\n")) ↔ Unopposed reply := by
  constructor
  · intro h
    refine ⟨fun before line after hsplit => (h before line after hsplit).1, ?_⟩
    intro value hmem
    obtain ⟨before, after, hsplit⟩ := List.append_of_mem hmem
    obtain ⟨⟨key, value', hline, heq, hsuits⟩, hnone⟩ := h before _ after hsplit
    have hsame : "errno" ++ "=" ++ value = key ++ "=" ++ value' := hline
    obtain ⟨rfl, rfl⟩ := eq_of_split hsame (by decide) heq
    obtain ⟨n, hn⟩ := hsuits.errno rfl
    by_cases hzero : n = 0
    · rwa [hzero] at hn
    · exact absurd ⟨hzero, value, rfl, hn⟩ (hnone n)
  · intro h before line after hsplit
    refine ⟨h.wellFormed before line after hsplit, ?_⟩
    rintro n ⟨hne, value, rfl, hn⟩
    have hzero := h.zero value (by rw [hsplit]; simp)
    rw [hzero] at hn
    exact hne (Option.some.inj hn).symm

/-! ### Requests -/

section Requests

variable {σ : Type} [ControlPeer σ]

/-- What the far end sends back for a request. -/
def replyTo (far : σ) (body : String) : String :=
  (ControlPeer.exchange far ("set=1\n" ++ body)).1

/-- **A request is done if and only if the socket is served and nothing in the reply speaks against
it.** -/
theorem set_eq_ok_iff (s : ControlSocket) (far : σ) (body : String) :
    (s.set far body).1 = .ok () ↔
      ControlPeer.listening far = true ∧ Unopposed (replyTo far body) := by
  rw [← sound_iff_unopposed, ← opening_readReply]
  cases hlisten : ControlPeer.listening far with
  | false => simp [set, send, hlisten, Except.map]
  | true =>
      rw [← InterfaceStatus.exists_ofText_iff s.interface]
      simp [set, send, hlisten, replyTo, map_eq_ok_iff]

/-- A far end that answers nothing has taken the request, though no error number tells so. -/
theorem set_of_silence :
    (set ⟨"wm0", defaultDirectory⟩ (⟨true, [""], []⟩ : ScriptedPeer) "listen_port=51820\n\n").1 =
        .ok () ∧
      ¬ ∃ value, "errno=" ++ value ∈
        opening (replyTo (⟨true, [""], []⟩ : ScriptedPeer) "listen_port=51820\n\n") := by
  refine ⟨rfl, ?_⟩
  have hopening : opening (replyTo (⟨true, [""], []⟩ : ScriptedPeer) "listen_port=51820\n\n") = [] :=
    rfl
  simp [hopening]

end Requests

end ControlSocket

end TunnelMesh

/-
A link that follows a script. It expects frames in a set order and makes the response to each readable
once the frame is complete; any other frame is refused. It keeps a log of what was written. Reads do
not wait: when nothing is readable they time out at once, and no time passes.
-/
import RigControl.Link.Basic
import RigControl.Text.Quoted

namespace RigControl

/-- A frame that a script expects, and what answers it; an empty response is silence. -/
structure Expectation where
  frame : List UInt8
  response : List UInt8 := []
deriving DecidableEq, Repr

/-- A link that follows a script. -/
structure ScriptedLink where
  script : List Expectation := []
  /-- What can be read. -/
  unread : List UInt8 := []
  /-- The first bytes of a frame that is being written in pieces. -/
  started : List UInt8 := []
  /-- The frames that were written, those refused included. -/
  sent : List (List UInt8) := []
  /-- Number of writes, in pieces or not. -/
  writes : Nat := 0
  /-- Number of times that input was discarded. -/
  flushes : Nat := 0
  /-- Whether every write fails. -/
  failing : Bool := false
  connected : Bool := true
  clock : Nat := 0
deriving DecidableEq, Repr

namespace ScriptedLink

/-- Adds to the end of the script. -/
def expect (l : ScriptedLink) (frame response : List UInt8) : ScriptedLink :=
  { l with script := l.script ++ [⟨frame, response⟩] }

/-- Makes bytes readable that answer nothing. -/
def inject (l : ScriptedLink) (bytes : List UInt8) : ScriptedLink :=
  { l with unread := l.unread ++ bytes }

/-- Refuses while the link is down. -/
def connectedOnly {α : Type} (x : Action ScriptedLink α) : Action ScriptedLink α := fun l =>
  if l.connected then x l else (.error .notConnected, l)

/-- Logs the frame that has been written so far. -/
def finish (l : ScriptedLink) : ScriptedLink :=
  { l with sent := l.sent ++ [l.started], started := [] }

/-- Compares what has been written so far with the script. -/
def follow : Action ScriptedLink Unit := fun l =>
  match l.script with
  | [] =>
    (.error (.protocol s!"no more expectations in mock transport, got {Text.hexList l.started}"),
      l.finish)
  | next :: rest =>
    if l.started.isPrefixOf next.frame then
      if l.started.length < next.frame.length then (.ok (), l)
      else (.ok (), { l.finish with script := rest, unread := l.unread ++ next.response })
    else
      (.error (.protocol
        s!"unexpected send data: expected {Text.hexList next.frame}, got {Text.hexList l.started}"),
        l.finish)

def send (bytes : List UInt8) : Action ScriptedLink Unit :=
  connectedOnly fun l =>
    if l.failing then (.error (.io "injected send failure"), l)
    else follow { l with writes := l.writes + 1, started := l.started ++ bytes }

def receive (room : Nat) : Action ScriptedLink (List UInt8) :=
  connectedOnly fun l =>
    if l.unread = [] then (.error .timeout, l)
    else (.ok (l.unread.take room), { l with unread := l.unread.drop room })

def clearInput : Action ScriptedLink Unit :=
  connectedOnly fun l => (.ok (), { l with flushes := l.flushes + 1, unread := [] })

theorem receive_unread {room : Nat} {l m : ScriptedLink} {bytes : List UInt8}
    (h : (receive room).run l = (.ok bytes, m)) : l.unread ≠ [] ∧ l.unread = bytes ++ m.unread ∧
      bytes = l.unread.take room := by
  simp only [Action.run, receive, connectedOnly] at h
  split at h
  · split at h
    · simp at h
    · rename_i hne
      simp only [Prod.mk.injEq, Except.ok.injEq] at h
      obtain ⟨rfl, rfl⟩ := h
      exact ⟨hne, (List.take_append_drop ..).symm, rfl⟩
  · simp at h

instance : Link ScriptedLink where
  send := send
  receive room _ := receive room
  clearInput := clearInput
  close := .update fun l => { l with connected := false, unread := [] }
  isConnected := ScriptedLink.connected
  now := ScriptedLink.clock
  sleep ms := .update fun l => { l with clock := l.clock + ms }
  budget l := l.unread.length
  receive_budget := by
    intro room _ l m bytes hroom h
    obtain ⟨hne, heq, htake⟩ := receive_unread h
    have := congrArg List.length heq
    have := congrArg List.length htake
    have := List.length_pos_iff.2 hne
    simp only [List.length_append, List.length_take] at *
    omega

end ScriptedLink

end RigControl

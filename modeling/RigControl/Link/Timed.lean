/-
A link that delivers chunks at set times. A chunk counts its delay from the moment it becomes the first
in the queue, and only while somebody waits for it. Writes always succeed and may add chunks.
-/
import RigControl.Link.Basic

namespace RigControl

/-- Bytes or a failure that arrive after a delay. -/
structure Chunk where
  after : Nat := 0
  content : Outcome (List UInt8)
deriving Repr

/-- A bound on what a chunk delivers; a chunk without bytes counts as well. -/
def Chunk.weight (c : Chunk) : Nat :=
  match c.content with
  | .ok bytes => bytes.length + 1
  | .error _ => 1

/-- A queue of chunks. -/
structure TimedLink where
  queue : List Chunk := []
  /-- What each of the coming writes adds to the queue. -/
  onSend : List (List Chunk) := []
  connected : Bool := true
  clock : Nat := 0
deriving Repr

namespace TimedLink

/-- Waits in vain. -/
def waitFor (timeout : Nat) (queue : List Chunk) (l : TimedLink) :
    Outcome (List UInt8) × TimedLink :=
  (.error .timeout, { l with clock := l.clock + timeout, queue := queue })

def receive (room timeout : Nat) : Action TimedLink (List UInt8) := fun l =>
  match l.queue with
  | [] => waitFor timeout [] l
  | c :: rest =>
    if timeout < c.after then waitFor timeout ({ c with after := c.after - timeout } :: rest) l
    else
      let arrived := { l with clock := l.clock + c.after, queue := rest }
      match c.content with
      | .error e => (.error e, arrived)
      | .ok bytes =>
        if bytes.length ≤ room then (.ok bytes, arrived)
        else (.ok (bytes.take room), { arrived with queue := ⟨0, .ok (bytes.drop room)⟩ :: rest })

/-- Discards the chunks that are there without waiting, up to the first empty one. -/
def discard : List Chunk → Outcome Unit × List Chunk
  | [] => (.ok (), [])
  | c :: rest =>
    if 0 < c.after then (.ok (), c :: rest)
    else
      match c.content with
      | .error e => (.error e, rest)
      | .ok [] => (.ok (), rest)
      | .ok _ => discard rest

/-- A bound on what a queue delivers. -/
def weight : List Chunk → Nat
  | [] => 0
  | c :: rest => c.weight + weight rest

theorem receive_weight {room timeout : Nat} {l m : TimedLink} {bytes : List UInt8}
    (hroom : 0 < room) (h : (receive room timeout).run l = (.ok bytes, m)) :
    weight m.queue + bytes.length ≤ weight l.queue ∧ weight m.queue < weight l.queue := by
  simp only [Action.run, receive, waitFor] at h
  split at h
  · simp at h
  · rename_i c rest hq
    split at h
    · simp at h
    · split at h
      · simp at h
      · rename_i content hc
        split at h
        · simp only [Prod.mk.injEq, Except.ok.injEq] at h
          obtain ⟨rfl, rfl⟩ := h
          simp [weight, hq, Chunk.weight, hc]
          omega
        · simp only [Prod.mk.injEq, Except.ok.injEq] at h
          obtain ⟨rfl, rfl⟩ := h
          have : (content.take room).length = room := by
            rw [List.length_take]
            omega
          simp only [weight, hq, Chunk.weight, hc, this, List.length_drop]
          omega

instance : Link TimedLink where
  send _ := .update fun l =>
    { l with queue := l.queue ++ l.onSend.headD [], onSend := l.onSend.tail }
  receive := receive
  clearInput := fun l =>
    let (r, queue) := discard l.queue
    (r, { l with queue := queue })
  close := .update ({ · with connected := false })
  isConnected := TimedLink.connected
  now := TimedLink.clock
  sleep ms := .update fun l => { l with clock := l.clock + ms }
  budget l := weight l.queue
  receive_budget := by
    intro _ _ _ _ _ hroom h
    exact receive_weight hroom h

end TimedLink

end RigControl

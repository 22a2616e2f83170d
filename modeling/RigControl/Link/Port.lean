/-
A port: a link together with what has been read ahead and the pauses between writes. Blocks of input
end at a terminator or after a set number of bytes; whatever follows stays for the next block.
-/
import RigControl.Capability.Line
import RigControl.Link.Basic

namespace RigControl

/-- Where a block of input ends. -/
inductive Extent where
  /-- After a number of bytes. -/
  | exact (length : Nat)
  /-- After the terminator, or after `limit` bytes without one. -/
  | upTo (terminator : UInt8) (limit : Nat)
deriving DecidableEq, Repr

/-- The length of the block at the front of some input, if all of it is there. -/
def Extent.cut? : Extent → List UInt8 → Option Nat
  | exact length, input => if input.length < length then none else some length
  | upTo terminator limit, input =>
    match (input.take limit).idxOf? terminator with
    | some i => some (i + 1)
    | none => if input.length < limit then none else some limit

/-- A link with a buffer and pauses. -/
structure Port (σ : Type) where
  link : σ
  /-- What has been read and not yet been handed out. -/
  pending : List UInt8 := []
  pacing : Pacing := {}
deriving Repr

namespace Port

variable {σ α : Type} [Link σ]

def onLink (x : Action σ α) : Action (Port σ) α :=
  x.on Port.link fun p l => { p with link := l }

def isConnected (p : Port σ) : Bool := Link.isConnected p.link

/-- Discards all unread input, at hand and on the link. -/
def flush : Action (Port σ) Unit := do
  .update ({ · with pending := [] })
  onLink Link.clearInput

/-- Sends bytes one at a time, with a pause between two of them. -/
def sendApart (pause : Nat) : List UInt8 → Action σ Unit
  | [] => pure ()
  | [b] => Link.send [b]
  | b :: rest => do
    Link.send [b]
    Link.sleep pause
    sendApart pause rest

/-- Writes a frame: as a whole, or byte by byte if there is a pause between bytes. -/
def write (frame : List UInt8) : Action (Port σ) Unit := do
  let pacing := (← .current).pacing
  if pacing.writeDelay = 0 then onLink (Link.send frame)
  else onLink (sendApart pacing.writeDelay frame)
  if pacing.postWriteDelay ≠ 0 then onLink (Link.sleep pacing.postWriteDelay)

/-- Takes the link down. -/
def close : Action (Port σ) Unit := do
  .update ({ · with pending := [] })
  onLink Link.close

/-- Bytes that one call asks of the link. -/
def room : Nat := 256

/-- Reads more input from the link before the deadline. -/
def fill (deadline : Nat) : Action (Port σ) Unit := fun p =>
  if deadline ≤ Link.now p.link then (.error .timeout, p)
  else
    match (Link.receive room (deadline - Link.now p.link)).run p.link with
    | (.ok bytes, l) => (.ok (), { p with link := l, pending := p.pending ++ bytes })
    | (.error e, l) => (.error e, { p with link := l })

/-- A bound on what can still be read: what is at hand and what the link has. -/
def stock (p : Port σ) : Nat := p.pending.length + Link.budget p.link

theorem fill_ok {deadline : Nat} {p q : Port σ} (h : fill deadline p = (.ok (), q)) :
    q.stock ≤ p.stock ∧ Link.budget q.link < Link.budget p.link := by
  unfold fill at h
  split at h
  · simp at h
  · split at h
    · rename_i bytes l hr
      obtain ⟨hle, hlt⟩ := Link.receive_budget (by decide) hr
      simp only [Prod.mk.injEq, true_and] at h
      subst h
      simp only [stock, List.length_append]
      omega
    · simp at h

/-- Reads a block before the deadline. -/
def readBy (deadline : Nat) (extent : Extent) (p : Port σ) : Outcome (List UInt8) × Port σ :=
  match extent.cut? p.pending with
  | some n => (.ok (p.pending.take n), { p with pending := p.pending.drop n })
  | none =>
    match _filled : fill deadline p with
    | (.ok (), q) => readBy deadline extent q
    | (.error e, q) => (.error e, q)
termination_by Link.budget p.link
decreasing_by exact (fill_ok _filled).2

/-- Reads a block, waiting for it up to `timeout`. -/
def read (extent : Extent) (timeout : Nat) : Action (Port σ) (List UInt8) := fun p =>
  readBy (Link.now p.link + timeout) extent p

theorem readBy_stock {deadline : Nat} {extent : Extent} {p q : Port σ} {block : List UInt8}
    (h : readBy deadline extent p = (.ok block, q)) : q.stock + block.length ≤ p.stock := by
  fun_induction readBy deadline extent p with
  | case1 p n hn =>
    simp only [Prod.mk.injEq, Except.ok.injEq] at h
    obtain ⟨rfl, rfl⟩ := h
    simp only [stock, List.length_take, List.length_drop]
    omega
  | case2 p _ r hf ih =>
    have := (fill_ok hf).1
    have := ih h
    omega
  | case3 => simp at h

theorem read_stock {extent : Extent} {timeout : Nat} {p q : Port σ} {block : List UInt8}
    (h : read extent timeout p = (.ok block, q)) : q.stock + block.length ≤ p.stock :=
  readBy_stock h

end Port

end RigControl

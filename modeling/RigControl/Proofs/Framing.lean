/-
What a read up to a terminator answers. It goes by the bytes that are pending or come before the deadline
(`Port.Hears`) and by nothing else: the input up to its first terminator if that is near enough, or as much
of it as a block may hold, or a timeout (`read_by_content`). In what chunks the bytes come, and over which
link, makes no difference.
-/
import RigControl.Proofs.Echoes

namespace RigControl

/-! ## What can be heard -/

/-- A read with this timeout has these bytes to go by: what is pending, and then what the link gives
before the deadline. -/
def Port.Hears {σ : Type} [Link σ] (timeout : Nat) (p : Port σ) (input : List UInt8) : Prop :=
  ∃ chunks l, Link.Arrives (Link.now p.link + timeout) p.link chunks l ∧
    Link.SilentUntil (Link.now p.link + timeout) l ∧ p.pending ++ chunks.flatten = input

/-- Nothing comes before a chunk that takes too long. -/
theorem TimedLink.silentUntil {deadline : Nat} {l : TimedLink}
    (h : ∀ c ∈ l.queue.head?, deadline < l.clock + c.after) : Link.SilentUntil deadline l := by
  intro hahead
  have hahead : l.clock < deadline := hahead
  show (TimedLink.receive Port.room (deadline - l.clock) l).1 = _
  cases hqueue : l.queue with
  | nil =>
    rw [TimedLink.receive, hqueue]
    rfl
  | cons c rest =>
    have hlate : deadline < l.clock + c.after := h c (by rw [hqueue]; rfl)
    have hwait : deadline - l.clock < c.after := by omega
    simp only [TimedLink.receive, hqueue, hwait, if_true]
    rfl

/-- A link of timed chunks gives those that come in time, up to one that does not. -/
theorem TimedLink.hears {timeout : Nat} (pieces : List (Nat × List UInt8)) (late : List Chunk)
    {l : TimedLink} (hqueue : l.queue = pieces.map (fun c => ⟨c.1, .ok c.2⟩) ++ late)
    (hsize : ∀ c ∈ pieces, c.2.length ≤ Port.room) (htime : total pieces < timeout)
    (hlate : ∀ c ∈ late.head?, timeout < total pieces + c.after) (pending : List UInt8)
    (pacing : Pacing) :
    Port.Hears timeout ⟨l, pending, pacing⟩ (pending ++ (pieces.map (·.2)).flatten) := by
  refine ⟨_, _, TimedLink.arrives pieces late hqueue hsize (Nat.add_lt_add_left htime _), ?_, rfl⟩
  refine TimedLink.silentUntil fun c hc => ?_
  have := hlate c hc
  show l.clock + timeout < l.clock + total pieces + c.after
  omega

/-! ## Reading -/

namespace Port

variable {σ : Type} [Link σ] {timeout : Nat} {p : Port σ} {input : List UInt8}

/-- A read answers with the block at the front of what it hears. -/
theorem read_of_hears (x : Extent) (h : p.Hears timeout input) :
    (read x timeout p).1 = match x.cut? input with
      | some n => .ok (input.take n)
      | none => .error .timeout := by
  obtain ⟨link, pending, pacing⟩ := p
  obtain ⟨chunks, l, harrive, hsilent, hinput⟩ := h
  have hinput : pending ++ chunks.flatten = input := hinput
  subst hinput
  cases hcut : x.cut? (pending ++ chunks.flatten) with
  | some n =>
    obtain ⟨q, left, hread, -⟩ := readBy_arrives pacing harrive (Nat.le_refl _) hcut
    exact congrArg Prod.fst hread
  | none =>
    obtain ⟨q, hread⟩ := readBy_silent pacing harrive (Nat.le_refl _) hsilent hcut
    exact congrArg Prod.fst hread

/-- **What is read depends on the bytes alone.** If the first terminator is among the first `limit` of
them, the block ends with it; otherwise the block is those `limit` bytes, and if there are not as many
the read times out. Any other port that hears the same bytes, in whatever chunks, reads the same. -/
theorem read_by_content (h : p.Hears timeout input) (terminator : UInt8) (limit : Nat) :
    let answer := (read (.upTo terminator limit) timeout p).1
    (∀ front rest, input = front ++ terminator :: rest → terminator ∉ front → front.length < limit →
      answer = .ok (front ++ [terminator])) ∧
    (terminator ∉ input.take limit → limit ≤ input.length → answer = .ok (input.take limit)) ∧
    (terminator ∉ input.take limit → input.length < limit → answer = .error .timeout) ∧
    ∀ {τ : Type} [Link τ] {q : Port τ} {wait : Nat}, q.Hears wait input →
      (read (.upTo terminator limit) wait q).1 = answer := by
  intro answer
  have hanswer : answer = _ := read_of_hears (.upTo terminator limit) h
  have hcut : terminator ∉ input.take limit → (Extent.upTo terminator limit).cut? input =
      if input.length < limit then none else some limit := by
    intro hmem
    rw [Extent.cut?, List.idxOf?_eq_none_iff.2 hmem]
  refine ⟨fun front rest hinput hfirst hnear => ?_, fun hmem hlong => ?_, fun hmem hshort => ?_,
    fun hq => ?_⟩
  · have hblock : Block terminator limit (front ++ [terminator]) := by
      refine ⟨front, hfirst, rfl, ?_⟩
      rw [List.length_append, List.length_singleton]
      omega
    rw [hanswer, hinput, List.append_cons, hblock.cut? rest]
    exact congrArg Except.ok List.take_left
  · rw [hanswer, hcut hmem, if_neg (Nat.not_lt.2 hlong)]
  · rw [hanswer, hcut hmem, if_pos hshort]
  · exact (read_of_hears (.upTo terminator limit) hq).trans hanswer.symm

/-- A terminator comes as the last byte that a block may hold, behind an empty chunk and in front of one
that is late. With one byte less the block is cut off, and for another terminator the read times out. -/
theorem read_by_content_at_limit :
    let pieces : List (Nat × List UInt8) := [(3, [0x42]), (0, []), (4, [0xFD, 0x43])]
    let late : List Chunk := [⟨10, .ok [0x99]⟩]
    let link : TimedLink := { queue := pieces.map (fun c => ⟨c.1, .ok c.2⟩) ++ late }
    let p : Port TimedLink := { link := link, pending := [0x41] }
    p.Hears 9 [0x41, 0x42, 0xFD, 0x43] ∧
      (read (.upTo 0xFD 3) 9 p).1 = .ok [0x41, 0x42, 0xFD] ∧
      (read (.upTo 0xFD 2) 9 p).1 = .ok [0x41, 0x42] ∧
      (read (.upTo 0x99 5) 9 p).1 = .error .timeout := by
  intro pieces late link p
  have hears : p.Hears 9 [0x41, 0x42, 0xFD, 0x43] :=
    TimedLink.hears pieces late rfl (by decide) (by decide) (by decide) [0x41] {}
  refine ⟨hears, ?_, ?_, ?_⟩
  · exact (read_by_content hears 0xFD 3).1 [0x41, 0x42] [0x43] rfl (by decide) (by decide)
  · exact (read_by_content hears 0xFD 2).2.1 (by decide) (by decide)
  · exact (read_by_content hears 0x99 5).2.2.1 (by decide) (by decide)

end Port

end RigControl

/-
Echoes. A bus repeats each frame to its sender, so that in front of the answer to a frame come copies
of it, and they come in chunks that end anywhere. The answer is found behind any number of copies, and
what follows it is left for later (`transact_skips_echoes`). Copies alone are no answer: the attempt has
met silence.
-/
import RigControl.Civ.Bus
import RigControl.Link.Timed
import RigControl.Proofs.Attempts
import RigControl.Proofs.Reading
import RigControl.Proofs.Writing

namespace RigControl

/-- These bytes end with their only terminator, within the limit. -/
def Block (terminator : UInt8) (limit : Nat) (bytes : List UInt8) : Prop :=
  ∃ front, terminator ∉ front ∧ bytes = front ++ [terminator] ∧ bytes.length ≤ limit

instance {terminator : UInt8} {limit : Nat} {bytes : List UInt8} :
    Decidable (Block terminator limit bytes) :=
  decidable_of_iff (bytes.getLast? = some terminator ∧ terminator ∉ bytes.dropLast ∧
    bytes.length ≤ limit) <| by
    constructor
    · rintro ⟨hlast, hfront, hlimit⟩
      obtain ⟨front, rfl⟩ := List.getLast?_eq_some_iff.1 hlast
      rw [List.dropLast_concat] at hfront
      exact ⟨front, hfront, rfl, hlimit⟩
    · rintro ⟨front, hfront, rfl, hlimit⟩
      rw [List.dropLast_concat]
      exact ⟨by simp, hfront, hlimit⟩

namespace Block

variable {terminator : UInt8} {limit : Nat} {block : List UInt8}

theorem ne_nil (h : Block terminator limit block) : block ≠ [] := by
  obtain ⟨front, -, rfl, -⟩ := h
  simp

theorem cut? (h : Block terminator limit block) (more : List UInt8) :
    (Extent.upTo terminator limit).cut? (block ++ more) = some block.length := by
  obtain ⟨front, hfront, rfl, hlimit⟩ := h
  have hidx : (front ++ [terminator]).idxOf? terminator = some front.length := by
    rw [List.idxOf?_eq_some_iff]
    refine ⟨by simp, by simp, fun j hj => ?_⟩
    rw [List.getElem_append_left hj]
    intro hjt
    exact hfront (hjt ▸ List.getElem_mem hj)
  have htake : ((front ++ [terminator]) ++ more).take limit =
      (front ++ [terminator]) ++ more.take (limit - (front ++ [terminator]).length) := by
    rw [List.take_append, List.take_of_length_le hlimit]
  rw [Extent.cut?, htake, Extent.idxOf?_append hidx]
  simp

end Block

/-! ## A link of timed chunks -/

/-- How long all these chunks take to come. -/
def TimedLink.total (pieces : List (Nat × List UInt8)) : Nat :=
  pieces.foldr (fun c n => c.1 + n) 0

/-- Chunks that come one after another before the moment `limit` arrive, whatever their delays. -/
theorem TimedLink.arrives {limit : Nat} (pieces : List (Nat × List UInt8)) (rest : List Chunk)
    {l : TimedLink} (hqueue : l.queue = pieces.map (fun c => ⟨c.1, .ok c.2⟩) ++ rest)
    (hsize : ∀ c ∈ pieces, c.2.length ≤ Port.room) (hlimit : l.clock + total pieces < limit) :
    Link.Arrives limit l (pieces.map (·.2))
      { l with queue := rest, clock := l.clock + total pieces } := by
  induction pieces generalizing l with
  | nil =>
    obtain ⟨queue, onSend, connected, clock⟩ := l
    cases hqueue
    exact .nil _
  | cons c pieces ih =>
    obtain ⟨after, bytes⟩ := c
    have htotal : total ((after, bytes) :: pieces) = after + total pieces := rfl
    rw [htotal] at hlimit ⊢
    have hrest := ih (l := { l with
        queue := pieces.map (fun c => ⟨c.1, .ok c.2⟩) ++ rest, clock := l.clock + after }) rfl
      (fun c hc => hsize c (List.mem_cons_of_mem _ hc)) (by dsimp only; omega)
    rw [← Nat.add_assoc]
    refine .cons (show l.clock < limit by omega) (fun wait hwait => ?_) (Nat.le_add_right _ _) hrest
    have hwait : limit ≤ l.clock + wait := hwait
    have hlen : bytes.length ≤ Port.room := hsize _ List.mem_cons_self
    have hsoon : ¬ wait < after := by omega
    show TimedLink.receive Port.room wait l = _
    rw [TimedLink.receive, hqueue]
    simp only [List.map_cons, List.cons_append, hsoon, if_false, hlen, if_true]

theorem TimedLink.silent {timeout : Nat} {l : TimedLink} (h : l.queue = []) :
    Link.Silent timeout l := by
  intro wait _
  show (TimedLink.receive Port.room wait l).1 = _
  rw [TimedLink.receive, h]
  rfl

/-- Echoes of the frame are skipped, the frame has no bytes, and no more are read for a reply. Waiting for it
meets an echo again and again. -/
def Request.Endless (r : Request) : Prop :=
  r.skipEcho = true ∧ r.frame = [] ∧ ∃ x, r.reply.extent? = some x ∧ ∀ input, x.cut? input = some 0

/-! ## Behind the echoes -/

namespace Port

variable {σ : Type} [Link σ] {r : Request} {x : Extent} {timeout limit n : Nat} {terminator : UInt8}
  {p q : Port σ} {l m : σ} {block answer further pending : List UInt8} {pacing : Pacing}
  {chunks : List (List UInt8)} {e : Error}

theorem isEcho_iff : r.isEcho block = true ↔ r.skipEcho = true ∧ block = r.frame := by
  simp [Request.isEcho]

theorem awaitBlock_read (h : read x timeout p = (.ok block, q)) : awaitBlock r x timeout p =
    if r.isEcho block then
      if block = [] then (.error (.halt .endless), q) else awaitBlock r x timeout q
    else (.ok block, q) := by
  rw [awaitBlock]
  split
  · rename_i hread
    rw [h] at hread
    cases hread
    rfl
  · rename_i hread
    rw [h] at hread
    cases hread

theorem awaitBlock_other (h : read x timeout p = (.ok block, q))
    (hother : ¬ (r.skipEcho = true ∧ block = r.frame)) :
    awaitBlock r x timeout p = (.ok block, q) := by
  rw [awaitBlock_read h, if_neg (mt isEcho_iff.1 hother)]

theorem awaitBlock_echo (h : read x timeout p = (.ok block, q))
    (hecho : r.skipEcho = true ∧ block = r.frame) (hframe : r.frame ≠ []) :
    awaitBlock r x timeout p = awaitBlock r x timeout q := by
  rw [awaitBlock_read h, if_pos (isEcho_iff.2 hecho), if_neg (hecho.2 ▸ hframe)]

theorem awaitBlock_failed (h : read x timeout p = (.error e, q)) :
    awaitBlock r x timeout p = (.error e, q) := by
  rw [awaitBlock]
  split
  · rename_i hread
    rw [h] at hread
    cases hread
  · rename_i hread
    rw [h] at hread
    cases hread
    rfl

theorem run_awaitReply (hreply : r.reply.extent? = some x) :
    (awaitReply r timeout).run p = awaitBlock r x timeout p := by
  rw [awaitReply, hreply]
  rfl

/-- An endless wait meets the same echo each time and takes nothing. -/
theorem awaitReply_endless (hends : r.Endless) :
    (awaitReply r timeout).run p = (.error (.halt .endless), p) := by
  obtain ⟨hskip, hframe, x, hreply, hcut⟩ := hends
  have hread : read x timeout p = (.ok [], p) := readBy_cut (hcut p.pending)
  rw [run_awaitReply hreply, awaitBlock_read hread, if_pos (isEcho_iff.2 ⟨hskip, hframe.symm⟩), if_pos rfl]

/-- A whole block in front is what a read hands out. -/
theorem read_block (pacing : Pacing) (hblock : Block terminator limit block)
    (harrive : Link.Arrives n l chunks m) (htime : n ≤ Link.now l + timeout)
    (hbytes : pending ++ chunks.flatten = block ++ further) : ∃ q left,
      read (.upTo terminator limit) timeout ⟨l, pending, pacing⟩ = (.ok block, q) ∧
      Link.Arrives n q.link left m ∧ Link.now l ≤ Link.now q.link ∧
      q.pending ++ left.flatten = further := by
  have hcut := hbytes ▸ hblock.cut? further
  obtain ⟨q, left, hread, hleft, hlater, hkept⟩ :=
    readBy_arrives pacing harrive htime hcut
  rw [hbytes, List.take_left] at hread
  rw [hbytes, List.drop_left] at hkept
  exact ⟨q, left, hread, hleft, hlater, hkept⟩

/-- Any number of echoes in front makes no difference. -/
theorem awaitBlock_skips (pacing : Pacing) (hskip : r.skipEcho = true)
    (hframe : Block terminator limit r.frame) (k : Nat) (harrive : Link.Arrives n l chunks m)
    (htime : n ≤ Link.now l + timeout)
    (hbytes : pending ++ chunks.flatten = (List.replicate k r.frame).flatten ++ further) :
    ∃ q left, awaitBlock r (.upTo terminator limit) timeout ⟨l, pending, pacing⟩ =
        awaitBlock r (.upTo terminator limit) timeout q ∧
      Link.Arrives n q.link left m ∧ n ≤ Link.now q.link + timeout ∧
      q.pending ++ left.flatten = further := by
  induction k generalizing l chunks pending pacing with
  | zero => exact ⟨_, chunks, rfl, harrive, htime, hbytes⟩
  | succ k ih =>
    rw [List.replicate_succ, List.flatten_cons, List.append_assoc] at hbytes
    obtain ⟨⟨l', pending', pacing'⟩, left, hread, hleft, hlater, hkept⟩ :=
      read_block pacing hframe harrive htime hbytes
    have hlater : Link.now l ≤ Link.now l' := hlater
    rw [awaitBlock_echo hread ⟨hskip, rfl⟩ hframe.ne_nil]
    exact ih pacing' hleft (by omega) hkept

/-- The answer is found behind any number of echoes. -/
theorem awaitBlock_answer (pacing : Pacing) (hskip : r.skipEcho = true)
    (hframe : Block terminator limit r.frame) (hanswer : Block terminator limit answer)
    (hne : answer ≠ r.frame) (k : Nat) (harrive : Link.Arrives n l chunks m)
    (htime : n ≤ Link.now l + timeout)
    (hbytes : pending ++ chunks.flatten =
      (List.replicate k r.frame).flatten ++ (answer ++ further)) : ∃ q left,
      awaitBlock r (.upTo terminator limit) timeout ⟨l, pending, pacing⟩ = (.ok answer, q) ∧
      Link.Arrives n q.link left m ∧ q.pending ++ left.flatten = further := by
  obtain ⟨⟨l', pending', pacing'⟩, chunks', hecho, harrive', htime', hbytes'⟩ :=
    awaitBlock_skips pacing hskip hframe k harrive htime hbytes
  obtain ⟨q, left, hread, hleft, -, hkept⟩ := read_block pacing' hanswer harrive' htime' hbytes'
  refine ⟨q, left, ?_, hleft, hkept⟩
  rw [hecho, awaitBlock_other hread fun hsame => hne hsame.2]

theorem cut?_nil (h : limit ≠ 0) : (Extent.upTo terminator limit).cut? [] = none := by
  have : 0 < limit := by omega
  simp [Extent.cut?, this]

/-- Echoes alone are no answer. -/
theorem awaitBlock_echoes (pacing : Pacing) (hskip : r.skipEcho = true)
    (hframe : Block terminator limit r.frame) (k : Nat) (harrive : Link.Arrives n l chunks m)
    (htime : n ≤ Link.now l + timeout) (hsilent : Link.Silent timeout m)
    (hbytes : pending ++ chunks.flatten = (List.replicate k r.frame).flatten) :
    ∃ q, awaitBlock r (.upTo terminator limit) timeout ⟨l, pending, pacing⟩ =
      (.error .timeout, q) := by
  rw [← List.append_nil (List.replicate k r.frame).flatten] at hbytes
  obtain ⟨⟨l', pending', pacing'⟩, chunks', hecho, harrive', htime', hbytes'⟩ :=
    awaitBlock_skips pacing hskip hframe k harrive htime hbytes
  have hlimit : limit ≠ 0 := by
    obtain ⟨front, -, hfront, hle⟩ := hframe
    rw [hfront, List.length_append, List.length_singleton] at hle
    omega
  have hcut : (Extent.upTo terminator limit).cut? (pending' ++ chunks'.flatten) = none := by
    rw [hbytes']
    exact cut?_nil hlimit
  have hquiet : Link.SilentUntil (Link.now l' + timeout) m :=
    hsilent.until (Nat.add_le_add_right harrive'.now_le timeout)
  obtain ⟨q, hread⟩ := readBy_silent pacing' harrive' htime' hquiet hcut
  exact ⟨q, by rw [hecho, awaitBlock_failed hread]⟩

end Port

namespace Engine

variable {σ : Type} [Link σ] {r : Request} {terminator : UInt8} {limit timeout i : Nat}
  {e : Engine σ} {p t : Port σ} {l : σ} {chunks : List (List UInt8)}

/-- An attempt whose frame is out ends as the wait for its reply does. -/
theorem attempt_of_sent (hsent : (Port.send r.frame).run p = (.ok (), t)) (hr : r.reply ≠ .none) :
    attempt r timeout p = match (Port.awaitReply r timeout).run t with
      | (.error e, q) => (.notRead e, q)
      | (.ok reply, q) => (.replied reply, q) := by
  obtain ⟨q, hflush, hwrite⟩ := Port.run_send_ok.1 hsent
  match h : (Port.awaitReply r timeout).run t with
  | (.error e, q) => simp only [attempt, hflush, hwrite, if_neg hr, h]
  | (.ok reply, q) => simp only [attempt, hflush, hwrite, if_neg hr, h]

theorem run_awaitReply (hreply : r.reply = .terminated terminator limit) :
    (Port.awaitReply r timeout).run t = Port.awaitBlock r (.upTo terminator limit) timeout t := by
  refine Port.run_awaitReply ?_
  rw [hreply]
  rfl

/-- An attempt whose frame is out finds the answer behind the echoes and leaves what follows. -/
theorem attempt_behind_echoes (hreply : r.reply = .terminated terminator limit)
    (hskip : r.skipEcho = true) (hframe : Block terminator limit r.frame)
    (hsent : (Port.send r.frame).run p = (.ok (), t))
    (harrive : Link.Arrives (Link.now t.link + timeout) t.link chunks l) {k : Nat}
    {answer further : List UInt8} (hdiffers : answer ≠ r.frame)
    (hblock : Block terminator limit answer)
    (hbytes : chunks.flatten = (List.replicate k r.frame).flatten ++ (answer ++ further)) :
    ∃ q left, attempt r timeout p = (.replied answer, q) ∧
      Link.Arrives (Link.now t.link + timeout) q.link left l ∧ q.pending ++ left.flatten = further := by
  have hne : r.reply ≠ .none := by rw [hreply]; nofun
  have hpending : t.pending = [] := Port.pending_send hsent
  obtain ⟨link, pending, pacing⟩ := t
  obtain rfl : pending = [] := hpending
  obtain ⟨q, left, hawait, hleft, hkept⟩ :=
    Port.awaitBlock_answer pacing hskip hframe hblock hdiffers k harrive (Nat.le_refl _)
      (show [] ++ chunks.flatten = _ from hbytes)
  refine ⟨q, left, ?_, hleft, hkept⟩
  rw [attempt_of_sent hsent hne, run_awaitReply hreply, hawait]

/-- **The answer is found behind the echoes**, however many there are and however they are cut into
chunks, and what follows stays unread. If there are only echoes the frame is sent again. The first `i`
attempts are over by then, and the frame of the next is out. -/
theorem transact_skips_echoes (hreply : r.reply = .terminated terminator limit)
    (hskip : r.skipEcho = true) (hframe : Block terminator limit r.frame) (hi : i < e.attempts)
    (hbefore : Attempts r e.timeout e.port (List.replicate i (.notRead .timeout)) p)
    (hsent : (Port.send r.frame).run p = (.ok (), t))
    (harrive : Link.Arrives (Link.now t.link + e.timeout) t.link chunks l) :
    (∀ k answer further, answer ≠ r.frame → Block terminator limit answer →
      chunks.flatten = (List.replicate k r.frame).flatten ++ (answer ++ further) →
      ∃ q left, attempt r e.timeout p = (.replied answer, q) ∧
        ((transact r).run e).1 = .ok answer ∧ ((transact r).run e).2.port = q ∧
        Link.Arrives (Link.now t.link + e.timeout) q.link left l ∧
        q.pending ++ left.flatten = further) ∧
    ∀ k, chunks.flatten = (List.replicate k r.frame).flatten → Link.Silent e.timeout l →
      ∃ q, attempt r e.timeout p = (.notRead .timeout, q) ∧
        (i + 1 < e.attempts →
          let rest := (transact r).run { e with port := q, repeats := e.repeats - (i + 1) }
          ((transact r).run e).1 = rest.1 ∧ ((transact r).run e).2.port = rest.2.port) ∧
        (i + 1 = e.attempts → ((transact r).run e).1 = .error .timeout) := by
  have hne : r.reply ≠ .none := by rw [hreply]; nofun
  have hrequired : ∃ extent, r.reply = .required extent := ⟨_, hreply⟩
  have hpending : t.pending = [] := Port.pending_send hsent
  obtain ⟨link, pending, pacing⟩ := t
  obtain rfl : pending = [] := hpending
  have hi : i ≤ e.repeats := by
    have : e.attempts = e.repeats + 1 := rfl
    omega
  obtain ⟨hanswer, hport⟩ := transact_answer r e
  rw [answer_after_silence hbefore hrequired hi] at hanswer hport
  refine ⟨fun k answer further hdiffers hblock hbytes => ?_, fun k hbytes hsilent => ?_⟩
  · obtain ⟨q, left, hattempt, hleft, hkept⟩ :=
      attempt_behind_echoes hreply hskip hframe hsent harrive hdiffers hblock hbytes
    have hdecided : (attempt r e.timeout p).1.isSilence r = false := by rw [hattempt]; rfl
    rw [answer_decided hdecided, hattempt] at hanswer hport
    exact ⟨q, left, hattempt, hanswer, hport, hleft, hkept⟩
  · obtain ⟨q, hawait⟩ :=
      Port.awaitBlock_echoes pacing hskip hframe k harrive (Nat.le_refl _) hsilent
        (show [] ++ chunks.flatten = _ from hbytes)
    have hattempt : attempt r e.timeout p = (.notRead .timeout, q) := by
      rw [attempt_of_sent hsent hne, run_awaitReply hreply, hawait]
    have hsilence : (attempt r e.timeout p).1.isSilence r = true := by
      rw [hattempt]
      exact isSilence_iff.2 ⟨rfl, hrequired⟩
    refine ⟨q, hattempt, fun hmore => ?_, fun hlast => ?_⟩
    · obtain ⟨m, hm⟩ : ∃ m, e.repeats - i = m + 1 := by
        have : e.attempts = e.repeats + 1 := rfl
        exact ⟨e.repeats - i - 1, by omega⟩
      obtain rfl : m = e.repeats - (i + 1) := by omega
      rw [hm, answer, if_pos hsilence, hattempt] at hanswer hport
      obtain ⟨hrest, hrestPort⟩ :=
        transact_answer r { e with port := q, repeats := e.repeats - (i + 1) }
      exact ⟨hanswer.trans hrest.symm, hport.trans hrestPort.symm⟩
    · have hzero : e.repeats - i = 0 := by
        have : e.attempts = e.repeats + 1 := rfl
        omega
      rw [hzero, answer, outcome_of_silence hsilence] at hanswer
      exact hanswer

/-- Two echoes and an answer come in pieces that end in the middle of each, and the preamble of
another frame follows. -/
theorem transact_skips_echoes_split :
    let r := (Civ.Bus.mk 0x6A 0xE0).request "get_freq" 0x03 []
    let answer := (Civ.Bus.mk 0xE0 0x6A).frame 0x03 [0x00, 0x40, 0x07, 0x14, 0x00]
    let pieces : List (Nat × List UInt8) := [(5, [0xFE, 0xFE, 0x6A]),
      (10, [0xE0, 0x03, 0xFD, 0xFE, 0xFE]), (0, [0x6A, 0xE0, 0x03, 0xFD, 0xFE, 0xFE, 0xE0, 0x6A]),
      (20, [0x03, 0x00, 0x40, 0x07, 0x14, 0x00, 0xFD, 0xFE, 0xFE])]
    let e : Engine TimedLink := .create
      { link := { onSend := [pieces.map fun c => ⟨c.1, .ok c.2⟩] }, pending := [0x55] } 3 100
    r.frame ≠ answer ∧ (pieces.map (·.2)).flatten = r.frame ++ r.frame ++ answer ++ [0xFE, 0xFE] ∧
      ((transact r).run e).1 = .ok answer := by
  intro r answer pieces e
  have hsent : (Port.send r.frame).run e.port = (.ok (), ((Port.send r.frame).run e.port).2) := rfl
  have harrive : Link.Arrives 100 ((Port.send r.frame).run e.port).2.link (pieces.map (·.2)) _ :=
    TimedLink.arrives pieces [] rfl (by decide) (by decide)
  have hskips := transact_skips_echoes (e := e) (r := r) (i := 0) rfl rfl (by decide) (by decide)
    (.nil e.port) hsent harrive
  obtain ⟨q, left, -, hanswer, -⟩ := hskips.1 2 answer [0xFE, 0xFE] (by decide) (by decide) (by decide)
  exact ⟨by decide, by decide, hanswer⟩

end Engine

end RigControl

/-
Paced and unpaced writes. A frame is handed to the link in pieces, one piece without a pause between
bytes and single bytes with one, up to the first piece that is refused (`write_hands`). On a link that
follows a script and expects the frame next, the pauses make no difference but for the number of
writes and the time; if its writes are made to fail, the first one does, and nothing else happens
(`write_agrees`).
-/
import RigControl.Proofs.Script
import RigControl.Proofs.Writing

namespace RigControl

namespace Port

/-- The pieces in which a frame is written. -/
def pieces (pause : Nat) (frame : List UInt8) : List (List UInt8) :=
  if pause = 0 then [frame] else frame.map ([·])

theorem flatten_pieces {pause : Nat} {frame : List UInt8} : (pieces pause frame).flatten = frame := by
  unfold pieces
  split
  · exact List.flatten_singleton
  · induction frame with
    | nil => rfl
    | cons b rest ih => rw [List.map_cons, List.flatten_cons, ih, List.singleton_append]

variable {σ : Type} [Link σ]

/-- Pieces are handed to a link one after another, with a pause between two of them: all but the last
are taken, and the last one ends it, well or not. -/
inductive Hands (pause : Nat) : σ → List (List UInt8) → Outcome Unit → σ → Prop
  | last {l m : σ} {piece : List UInt8} {o : Outcome Unit}
    (hsend : (Link.send piece).run l = (o, m)) : Hands pause l [piece] o m
  | more {l m n k : σ} {piece : List UInt8} {pieces : List (List UInt8)} {o : Outcome Unit}
    (hsend : (Link.send piece).run l = (.ok (), m)) (hsleep : (Link.sleep pause).run m = (.ok (), n))
    (hrest : Hands pause n pieces o k) : Hands pause l (piece :: pieces) o k

/-- A pause, if there is one. -/
def Pauses (ms : Nat) (l m : σ) : Prop :=
  if ms = 0 then m = l else (Link.sleep ms).run l = (.ok (), m)

variable {p : Port σ} {frame : List UInt8}

theorem sendApart_hands (hsleep : ∀ ms (l : σ), ∃ m, (Link.sleep ms).run l = (.ok (), m))
    (hframe : frame ≠ []) (pause : Nat) (l : σ) : ∃ handed left o m,
      frame.map ([·]) = handed ++ left ∧ Hands pause l handed o m ∧ (o = .ok () → left = []) ∧
      (sendApart pause frame).run l = (o, m) := by
  induction frame generalizing l with
  | nil => exact absurd rfl hframe
  | cons b rest ih =>
    match hsend : (Link.send [b]).run l, rest with
    | (o, m), [] => exact ⟨[[b]], [], o, m, rfl, .last hsend, fun _ => rfl, hsend⟩
    | (.error e, m), c :: rest =>
      refine ⟨[[b]], (c :: rest).map ([·]), .error e, m, rfl, .last hsend, fun ho => ?_, ?_⟩
      · cases ho
      · exact Action.run_bind_error hsend
    | (.ok (), m), c :: rest =>
      obtain ⟨n, hpause⟩ := hsleep pause m
      obtain ⟨handed, left, o, k, hpieces, hhands, hleft, hrun⟩ := ih (List.cons_ne_nil c rest) n
      refine ⟨[b] :: handed, left, o, k, ?_, .more hsend hpause hhands, hleft, ?_⟩
      · rw [List.map_cons, hpieces, List.cons_append]
      · rw [sendApart, Action.run_bind_ok hsend, Action.run_bind_ok hpause, hrun]
        exact List.cons_ne_nil c rest

theorem run_write_error {e : Error} {l : σ}
    (h : (handOver p.pacing.writeDelay frame).run p.link = (.error e, l)) :
    (write frame).run p = (.error e, { p with link := l }) := by
  rw [run_write, Action.run_bind_error (run_onLink h)]

theorem run_write_ok {l m : σ}
    (h : (handOver p.pacing.writeDelay frame).run p.link = (.ok (), l))
    (hpause : Pauses p.pacing.postWriteDelay l m) :
    (write frame).run p = (.ok (), { p with link := m }) := by
  rw [run_write, Action.run_bind_ok (run_onLink h)]
  unfold Pauses at hpause
  unfold pauseAfter
  split at hpause
  · rename_i hzero
    rw [if_neg (not_not_intro hzero), hpause]
    rfl
  · rename_i hpos
    rw [if_pos hpos]
    exact run_onLink (p := { p with link := l }) hpause

/-- **A frame is written in pieces**, in order and up to the first one that is refused. What that one
is refused with is the outcome, and nothing is done afterwards; if none is refused, all pieces have
been handed over, and the pause after a frame follows. -/
theorem write_hands (hsleep : ∀ ms (l : σ), ∃ m, (Link.sleep ms).run l = (.ok (), m))
    (hframe : frame ≠ []) (p : Port σ) : ∃ handed left o l,
      pieces p.pacing.writeDelay frame = handed ++ left ∧
      Hands p.pacing.writeDelay p.link handed o l ∧
      (∀ e, o = .error e → (write frame).run p = (.error e, { p with link := l })) ∧
      (o = .ok () → left = [] ∧ ∃ m, Pauses p.pacing.postWriteDelay l m ∧
        (write frame).run p = (.ok (), { p with link := m })) := by
  have hhands : ∃ handed left o l, pieces p.pacing.writeDelay frame = handed ++ left ∧
      Hands p.pacing.writeDelay p.link handed o l ∧ (o = .ok () → left = []) ∧
      (handOver p.pacing.writeDelay frame).run p.link = (o, l) := by
    unfold pieces handOver
    split
    · exact ⟨[frame], [], _, _, rfl, .last rfl, fun _ => rfl, rfl⟩
    · exact sendApart_hands hsleep hframe _ _
  obtain ⟨handed, left, o, l, hpieces, hhanded, hleft, hrun⟩ := hhands
  refine ⟨handed, left, o, l, hpieces, hhanded, ?_, ?_⟩
  · rintro e rfl
    exact run_write_error hrun
  · rintro rfl
    obtain ⟨m, hpause⟩ : ∃ m, Pauses p.pacing.postWriteDelay l m := by
      unfold Pauses
      split
      · exact ⟨l, rfl⟩
      · exact hsleep _ l
    exact ⟨hleft rfl, m, hpause, run_write_ok hrun hpause⟩

end Port

/-! ## On a link that follows a script -/

namespace ScriptedLink

variable {l : ScriptedLink} {bytes : List UInt8} {next : Expectation} {rest : List Expectation}

/-- The rest of a frame, byte by byte. -/
theorem run_sendApart (hc : l.connected = true) (hf : l.failing = false)
    (hs : l.script = next :: rest) (hbytes : bytes ≠ []) (hwhole : l.started ++ bytes = next.frame)
    {pause : Nat} : (Port.sendApart pause bytes).run l = (.ok (),
      { l.answered next rest with
        writes := l.writes + bytes.length
        clock := l.clock + pause * (bytes.length - 1) }) := by
  induction bytes generalizing l with
  | nil => exact absurd rfl hbytes
  | cons b tail ih =>
    cases tail with
    | nil =>
      have hsend : (send [b]).run l = (.ok (), l.answered next rest) :=
        run_send_whole hc hf hs hwhole
      exact hsend
    | cons c tail =>
      have hsplit : l.started ++ [b] ++ c :: tail = next.frame := by
        rw [List.append_assoc, List.singleton_append, hwhole]
      have hne : l.started ++ [b] ≠ next.frame := fun heq => by
        have := congrArg List.length (hsplit.trans heq.symm)
        simp at this
      have hsend : (Link.send [b] : Action ScriptedLink Unit).run l = (.ok (), l.took [b]) :=
        run_send_part hc hf hs ⟨c :: tail, hsplit⟩ hne
      have hsleep : (Link.sleep pause : Action ScriptedLink Unit).run (l.took [b]) =
          (.ok (), { l.took [b] with clock := l.clock + pause }) := rfl
      have hrest := ih (l := { l.took [b] with clock := l.clock + pause }) hc hf hs
        (List.cons_ne_nil c tail) hsplit
      have hwrites : l.writes + 1 + (c :: tail).length = l.writes + (b :: c :: tail).length := by
        simp only [List.length_cons]
        omega
      have hclock : l.clock + pause + pause * ((c :: tail).length - 1) =
          l.clock + pause * ((b :: c :: tail).length - 1) := by
        simp only [List.length_cons, Nat.add_sub_cancel]
        rw [Nat.mul_succ, Nat.add_assoc, Nat.add_comm pause]
      rw [Port.sendApart, Action.run_bind_ok hsend, Action.run_bind_ok hsleep, hrest, ← hwrites,
        ← hclock]
      · rfl
      · exact List.cons_ne_nil c tail

end ScriptedLink

namespace Port

variable {p : Port ScriptedLink} {frame response : List UInt8} {rest : List Expectation}

theorem run_handOver (hc : p.link.connected = true) (hf : p.link.failing = false)
    (hframe : frame ≠ []) (hstarted : p.link.started = [])
    (hs : p.link.script = ⟨frame, response⟩ :: rest) {pause : Nat} :
    (handOver pause frame).run p.link = (.ok (),
      { p.link.answered ⟨frame, response⟩ rest with
        writes := p.link.writes + (pieces pause frame).length
        clock := p.link.clock + pause * (frame.length - 1) }) := by
  have hwhole : p.link.started ++ frame = frame := by rw [hstarted, List.nil_append]
  unfold handOver pieces
  split
  · rename_i hzero
    subst hzero
    have hsend : (Link.send frame : Action ScriptedLink Unit).run p.link =
        (.ok (), p.link.answered ⟨frame, response⟩ rest) :=
      ScriptedLink.run_send_whole hc hf hs hwhole
    rw [hsend, Nat.zero_mul]
    rfl
  · rw [ScriptedLink.run_sendApart hc hf hs hframe hwhole, List.length_map]

theorem pauses_scripted {ms : Nat} {l : ScriptedLink} :
    Pauses ms l { l with clock := l.clock + ms } := by
  unfold Pauses
  split
  · rename_i hzero
    rw [hzero]
    rfl
  · rfl

/-- A link whose writes are made to fail fails the first one. -/
theorem run_handOver_failing (hc : p.link.connected = true) (hf : p.link.failing = true)
    (hframe : frame ≠ []) {pause : Nat} : (handOver pause frame).run p.link =
      (.error (.io "injected send failure"), p.link) := by
  have hsend : ∀ bytes, (Link.send bytes : Action ScriptedLink Unit).run p.link =
      (.error (.io "injected send failure"), p.link) := by
    intro bytes
    simp only [Link.send, Action.run, ScriptedLink.send, ScriptedLink.connectedOnly, hc, hf, if_true]
  unfold handOver
  split
  · exact hsend frame
  · cases frame with
    | nil => exact absurd rfl hframe
    | cons b rest =>
      cases rest with
      | nil => exact hsend [b]
      | cons c rest => exact Action.run_bind_error (hsend [b])

/-- **Pauses make no difference.** A frame is handed over in pieces that make it up, a single one without
a pause between bytes and single bytes with one, in order and up to the first that is refused, whose
refusal is the outcome. A link that follows a script and expects the frame next takes it however the
write is paced, and is then the same but for the number of writes and the time, unless its writes are
made to fail: then the first one fails, and all stays as it was. -/
theorem write_agrees (hframe : frame ≠ []) :
    (∀ pause, (pieces pause frame).flatten = frame) ∧
    (∀ {σ : Type} [Link σ], (∀ ms (l : σ), ∃ m, (Link.sleep ms).run l = (.ok (), m)) →
      ∀ p : Port σ, ∃ handed left o l,
        pieces p.pacing.writeDelay frame = handed ++ left ∧
        Hands p.pacing.writeDelay p.link handed o l ∧
        (∀ e, o = .error e → (write frame).run p = (.error e, { p with link := l })) ∧
        (o = .ok () → left = [] ∧ ∃ m, Pauses p.pacing.postWriteDelay l m ∧
          (write frame).run p = (.ok (), { p with link := m }))) ∧
    ∀ (p : Port ScriptedLink) response rest, p.link.connected = true → p.link.started = [] →
      p.link.script = ⟨frame, response⟩ :: rest →
      (p.link.failing = false → (write frame).run p = (.ok (), { p with link := { p.link with
        script := rest
        unread := p.link.unread ++ response
        started := []
        sent := p.link.sent ++ [frame]
        writes := p.link.writes + (pieces p.pacing.writeDelay frame).length
        clock := p.link.clock + p.pacing.writeDelay * (frame.length - 1) +
          p.pacing.postWriteDelay } })) ∧
      (p.link.failing = true →
        (write frame).run p = (.error (.io "injected send failure"), p)) := by
  refine ⟨fun pause => flatten_pieces, fun hsleep p => write_hands hsleep hframe p, ?_⟩
  intro p response rest hc hstarted hs
  refine ⟨fun hf => ?_, fun hf => ?_⟩
  · exact run_write_ok (run_handOver hc hf hframe hstarted hs) pauses_scripted
  · exact run_write_error (run_handOver_failing hc hf hframe)

/-- Four bytes with pauses between them, and a response behind what was left to read. -/
theorem write_agrees_paced :
    let p : Port ScriptedLink :=
      { link := { script := [⟨[0x56, 0x46, 0x41, 0x3B], [0x31]⟩], unread := [0x30] }
        pacing := { writeDelay := 3, postWriteDelay := 20 } }
    let frame : List UInt8 := [0x56, 0x46, 0x41, 0x3B]
    frame ≠ [] ∧ (pieces 3 frame).flatten = frame ∧
    (∀ ms (l : ScriptedLink), ∃ m, (Link.sleep ms : Action ScriptedLink Unit).run l = (.ok (), m)) ∧
    (∃ handed left o l, pieces 3 frame = handed ++ left ∧ Hands 3 p.link handed o l ∧
      (∀ e, o = .error e → (write frame).run p = (.error e, { p with link := l })) ∧
      (o = .ok () → left = [] ∧ ∃ m, Pauses 20 l m ∧
        (write frame).run p = (.ok (), { p with link := m }))) ∧
    (write frame).run p = (.ok (), { p with link :=
      { unread := [0x30, 0x31], sent := [frame], writes := 4, clock := 29 } }) := by
  intro p frame
  have hframe : frame ≠ [] := by decide
  have hsleep : ∀ ms (l : ScriptedLink), ∃ m,
      (Link.sleep ms : Action ScriptedLink Unit).run l = (.ok (), m) := fun ms l => ⟨_, rfl⟩
  obtain ⟨hpieces, hhands, hscripted⟩ := write_agrees hframe
  exact ⟨hframe, hpieces 3, hsleep, hhands hsleep p, (hscripted p [0x31] [] rfl rfl rfl).1 rfl⟩

/-- A link whose writes are made to fail is connected and expects the frame, but does not take it. -/
theorem write_failing :
    let p : Port ScriptedLink :=
      { link := { script := [⟨[0x56, 0x46, 0x41, 0x3B], []⟩], failing := true } }
    p.link.connected = true ∧ p.link.started = [] ∧
    p.link.script = [⟨[0x56, 0x46, 0x41, 0x3B], []⟩] ∧
    ((write [0x56, 0x46, 0x41, 0x3B]).run p).1 ≠ .ok () := by
  refine ⟨rfl, rfl, rfl, fun hok => ?_⟩
  cases hok

end Port

end RigControl

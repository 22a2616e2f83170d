/-
Links to simulated rigs. A device says when the bytes so far are a whole frame, what a frame does to the
rig, and what the rig sends back. The link passes it every byte in turn, so that a frame is heard once
however its writing is paced. It answers at once and fails only when it is down.

What may come of a request is the turn of the rig (`Device.Turn`). A frame is heard once for each attempt
(`Turn.heard`), and a block that is read is the front of an answer (`Turn.read`).

Over a link that is up, a request ends in one way (`Device.Ends`) if it is only written, if the rig answers
it, or if it answers behind echoes. The first attempt decides it then, and the frame is heard once.
-/
import RigControl.Proofs.Echoes
import RigControl.Proofs.Freshness

namespace RigControl

/-- How a rig with states `S` goes on. -/
structure Device (S : Type) where
  /-- Whether the bytes since the last frame are a whole one. -/
  isWhole : List UInt8 → Bool
  /-- What a frame does to the rig. -/
  next : S → List UInt8 → S
  /-- What the rig sends back. -/
  answer : S → List UInt8 → List UInt8

namespace Device

variable {S : Type}

/-- The bytes are one frame, which is whole with its last byte and not before. -/
structure Framed (D : Device S) (frame : List UInt8) : Prop where
  ne_nil : frame ≠ []
  whole_iff : ∀ front rest, frame = front ++ rest → front ≠ [] → (D.isWhole front = true ↔ rest = [])

/-- A frame with the terminator at its end and nowhere else is one to a rig that goes by the terminator. -/
theorem framed_of_terminated {D : Device S} {terminator : UInt8} {frame body : List UInt8}
    (hwhole : ∀ bytes, D.isWhole bytes = (bytes.getLast? == some terminator))
    (hframe : frame = body ++ [terminator]) (hbody : terminator ∉ body) : D.Framed frame where
  ne_nil := by simp [hframe]
  whole_iff := by
    intro front rest h hfront
    rw [hwhole, beq_iff_eq]
    constructor
    · intro hlast
      obtain ⟨init, rfl⟩ := List.getLast?_eq_some_iff.1 hlast
      -- A terminator in front of the rest would stand inside the frame.
      rcases List.eq_nil_or_concat rest with rfl | ⟨middle, last, rfl⟩
      · rfl
      · rw [hframe, List.concat_eq_append, ← List.append_assoc] at h
        have hinner := (List.append_inj' h rfl).1
        rw [hinner] at hbody
        simp at hbody
    · rintro rfl
      rw [List.append_nil] at h
      rw [← h, hframe, List.getLast?_concat]

/-- The state after the same frame so many times. -/
def again (D : Device S) (frame : List UInt8) : Nat → S → S
  | 0, s => s
  | n + 1, s => D.again frame n (D.next s frame)

/-- What a frame keeps it keeps however often it is heard. -/
theorem again_keeps {D : Device S} {frame : List UInt8} {P : S → Prop}
    (h : ∀ s, P s → P (D.next s frame)) (n : Nat) {s : S} (hs : P s) : P (D.again frame n s) := by
  induction n generalizing s with
  | zero => exact hs
  | succ n ih => exact ih (h s hs)

end Device

/-- A link to a simulated rig. -/
structure Simulated (S : Type) where
  device : Device S
  rig : S
  /-- The first bytes of a frame. -/
  started : List UInt8 := []
  /-- What can be read. -/
  unread : List UInt8 := []
  connected : Bool := true

namespace Simulated

variable {S : Type}

/-- Refuses while the link is down. -/
def connectedOnly {α : Type} (x : Action (Simulated S) α) : Action (Simulated S) α := fun l =>
  if l.connected then x l else (.error .notConnected, l)

/-- The rig has heard a frame and can be read. -/
def hear (l : Simulated S) (frame : List UInt8) : Simulated S :=
  { l with
    rig := l.device.next l.rig frame
    started := []
    unread := l.unread ++ l.device.answer l.rig frame }

/-- A byte gets to the rig. -/
def take (l : Simulated S) (b : UInt8) : Simulated S :=
  if l.device.isWhole (l.started ++ [b]) then l.hear (l.started ++ [b])
  else { l with started := l.started ++ [b] }

def send (bytes : List UInt8) : Action (Simulated S) Unit :=
  connectedOnly (.update fun l => bytes.foldl take l)

def receive (room : Nat) : Action (Simulated S) (List UInt8) :=
  connectedOnly fun l =>
    if l.unread = [] then (.error .timeout, l)
    else (.ok (l.unread.take room), { l with unread := l.unread.drop room })

def clearInput : Action (Simulated S) Unit :=
  connectedOnly (.update ({ · with unread := [] }))

/-- What is received was there to be read. -/
theorem receive_ok {room : Nat} {l m : Simulated S} {bytes : List UInt8}
    (h : (receive room).run l = (.ok bytes, m)) : l.unread ≠ [] ∧ bytes = l.unread.take room ∧
      m = { l with unread := l.unread.drop room } := by
  simp only [Action.run, receive, connectedOnly] at h
  split at h
  · split at h
    · cases h
    · rename_i hne
      cases h
      exact ⟨hne, rfl, rfl⟩
  · cases h

theorem receive_failed {room : Nat} {l m : Simulated S} {e : Error}
    (h : (receive room).run l = (.error e, m)) : m = l := by
  simp only [Action.run, receive, connectedOnly] at h
  split at h
  · split at h
    · cases h
      rfl
    · cases h
  · cases h
    rfl

instance : Link (Simulated S) where
  send := send
  receive room _ := receive room
  clearInput := clearInput
  close := .update ({ · with connected := false, unread := [] })
  isConnected := Simulated.connected
  now _ := 0
  sleep _ := pure ()
  budget l := l.unread.length
  receive_budget := by
    intro room _ l m bytes hroom h
    obtain ⟨hne, rfl, rfl⟩ := receive_ok h
    have := List.length_pos_iff.2 hne
    simp only [List.length_take, List.length_drop]
    omega

/-! ## Sending -/

section

variable {l : Simulated S} {frame front rest : List UInt8}

/-- The rest of a frame completes it. -/
theorem foldl_take (hframed : l.device.Framed (l.started ++ rest)) (hrest : rest ≠ []) :
    rest.foldl take l = l.hear (l.started ++ rest) := by
  -- Every byte moves from what is missing to what has started, up to the last.
  induction rest generalizing l with
  | nil => exact absurd rfl hrest
  | cons b rest ih =>
    have hsplit : l.started ++ b :: rest = (l.started ++ [b]) ++ rest := by simp
    have hwhole := hframed.whole_iff _ _ hsplit (by simp)
    rw [List.foldl_cons, take]
    cases rest with
    | nil => rw [if_pos (hwhole.2 rfl), List.foldl_nil]
    | cons c rest =>
      have hpart : ¬ l.device.isWhole (l.started ++ [b]) = true := fun h => nomatch hwhole.1 h
      rw [if_neg hpart, hsplit]
      rw [hsplit] at hframed
      exact ih (l := { l with started := l.started ++ [b] }) hframed (by simp)

theorem foldl_take_frame (hframed : l.device.Framed frame) (hstarted : l.started = []) :
    frame.foldl take l = l.hear frame := by
  have hall : [] ++ frame = frame := List.nil_append frame
  have htaken : frame.foldl take l = l.hear (l.started ++ frame) :=
    foldl_take (by rwa [hstarted, hall]) hframed.ne_nil
  rwa [hstarted, hall] at htaken

theorem take_frame (l : Simulated S) (b : UInt8) :
    (l.take b).device = l.device ∧ (l.take b).connected = l.connected := by
  unfold take
  split <;> exact ⟨rfl, rfl⟩

theorem run_send (hc : l.connected = true) (bytes : List UInt8) :
    (Link.send bytes).run l = (.ok (), bytes.foldl take l) := by
  show connectedOnly _ l = _
  rw [connectedOnly, if_pos hc]
  rfl

/-- Pauses between the bytes make no difference. -/
theorem run_sendApart (hc : l.connected = true) (pause : Nat) (bytes : List UInt8) :
    (Port.sendApart pause bytes).run l = (.ok (), bytes.foldl take l) := by
  induction bytes generalizing l with
  | nil => rfl
  | cons b rest ih =>
    cases rest with
    | nil => exact run_send hc [b]
    | cons c rest =>
      have hsent := run_send hc [b]
      have hsleep : (Link.sleep pause : Action (Simulated S) Unit).run (l.take b) =
          (.ok (), l.take b) := rfl
      rw [Port.sendApart, Action.run_bind_ok hsent, List.foldl_cons, List.foldl_nil,
        Action.run_bind_ok hsleep]
      · exact ih ((take_frame l b).2.trans hc)
      · nofun

end

end Simulated

namespace Port

variable {S : Type} {p q : Port (Simulated S)} {frame : List UInt8}

/-- A frame that is written is heard, however the writing is paced. -/
theorem write_heard (hc : p.link.connected = true) (hframed : p.link.device.Framed frame)
    (hstarted : p.link.started = []) :
    (write frame).run p = (.ok (), { p with link := p.link.hear frame }) := by
  have hheard := Simulated.foldl_take_frame hframed hstarted
  have hcurrent : Action.current.run p = (.ok p, p) := rfl
  have hpause : ∀ q : Port (Simulated S), (if p.pacing.postWriteDelay ≠ 0 then
      onLink (Link.sleep p.pacing.postWriteDelay) else pure () :
        Action (Port (Simulated S)) Unit).run q = (.ok (), q) := by
    intro q
    split <;> rfl
  rw [write, Action.run_bind_ok hcurrent]
  dsimp only
  split
  · have hsent : (onLink (Link.send frame)).run p = (.ok (), { p with link := p.link.hear frame }) :=
      hheard ▸ run_onLink (Simulated.run_send hc frame)
    rw [Action.run_bind_ok hsent, hpause]
  · have hsent : (onLink (sendApart p.pacing.writeDelay frame)).run p =
        (.ok (), { p with link := p.link.hear frame }) :=
      hheard ▸ run_onLink (Simulated.run_sendApart hc p.pacing.writeDelay frame)
    rw [Action.run_bind_ok hsent, hpause]

/-- The port with nothing left to read. -/
def cleared (p : Port (Simulated S)) : Port (Simulated S) :=
  { p with pending := [], link := { p.link with unread := [] } }

theorem flush_up (hc : p.link.connected = true) : flush.run p = (.ok (), p.cleared) := by
  simp only [flush, cleared, bind, Action.run, Action.update, onLink, Action.on, Link.clearInput,
    Simulated.clearInput, Simulated.connectedOnly, hc, if_true]

theorem flush_down (hc : p.link.connected = false) :
    flush.run p = (.error .notConnected, { p with pending := [] }) := by
  simp only [flush, bind, Action.run, Action.update, onLink, Action.on, Link.clearInput,
    Simulated.clearInput, Simulated.connectedOnly, hc, Bool.false_eq_true, if_false]

theorem received_unread {l m : Simulated S} {bytes : List UInt8} (h : Link.Received l bytes m) :
    m = { l with unread := m.unread } ∧ l.unread = bytes ++ m.unread := by
  induction h with
  | nil => exact ⟨rfl, rfl⟩
  | @got l m n room wait chunk bytes h _ ih =>
    obtain ⟨-, rfl, rfl⟩ := Simulated.receive_ok h
    obtain ⟨hframe, hunread⟩ := ih
    refine ⟨hframe, ?_⟩
    rw [List.append_assoc, ← hunread]
    exact (List.take_append_drop room l.unread).symm
  | missed h _ ih =>
    obtain rfl := Simulated.receive_failed h
    exact ih

end Port

/-- What can be read from a rig is there at once. -/
theorem Simulated.arrives {S : Type} {limit : Nat} (hlimit : 0 < limit) {l : Simulated S}
    (hc : l.connected = true) : ∃ chunks m, Link.Arrives limit l chunks m ∧ chunks.flatten = l.unread := by
  -- Every call takes as much as it has room for, so that less and less is left.
  induction hn : l.unread.length using Nat.strongRecOn generalizing l with
  | ind n ih =>
    by_cases hempty : l.unread = []
    · exact ⟨[], l, .nil l, by rw [hempty, List.flatten_nil]⟩
    · have hpos := List.length_pos_iff.2 hempty
      have hless : (l.unread.drop Port.room).length < n := by
        rw [List.length_drop]
        have : 0 < Port.room := by decide
        omega
      obtain ⟨chunks, m, hrest, hflatten⟩ :=
        ih _ hless (l := { l with unread := l.unread.drop Port.room }) hc rfl
      refine ⟨l.unread.take Port.room :: chunks, m, .cons hlimit (fun wait _ => ?_) ?_ hrest, ?_⟩
      · show receive Port.room l = _
        simp only [receive, connectedOnly, if_pos hc, if_neg hempty]
      · exact Nat.le_refl 0
      · rw [List.flatten_cons, hflatten]
        exact List.take_append_drop Port.room l.unread

namespace Port

variable {σ : Type} [Link σ] {r : Request} {extent : Extent} {timeout : Nat}

/-- Without echoes to skip, the first block is the answer. -/
theorem awaitReply_read (hskip : r.skipEcho = false) (hr : r.reply = .required extent)
    (p : Port σ) : (awaitReply r timeout).run p = read extent timeout p := by
  have hother : ∀ block, ¬ (r.skipEcho = true ∧ block = r.frame) := by simp [hskip]
  unfold awaitReply
  rw [hr]
  show awaitBlock r extent timeout p = _
  cases hread : read extent timeout p with
  | mk o q =>
    cases o with
    | ok block => rw [awaitBlock_other hread (hother block)]
    | error e => rw [awaitBlock_failed hread]

end Port

/-! ## Attempts -/

namespace Engine

variable {S : Type} {r : Request} {timeout : Nat} {p q : Port (Simulated S)} {x : Ending}
  {xs : List Ending}

/-- The port after a frame was heard with nothing else to read. -/
def sent (frame : List UInt8) (p : Port (Simulated S)) : Port (Simulated S) :=
  { p.cleared with link := p.cleared.link.hear frame }

theorem attempt_down (hc : p.link.connected = false) :
    attempt r timeout p = (.notFlushed .notConnected, { p with pending := [] }) := by
  simp only [attempt, Port.flush_down hc]

theorem run_send_heard (hc : p.link.connected = true) (hframed : p.link.device.Framed r.frame)
    (hstarted : p.link.started = []) : (Port.send r.frame).run p = (.ok (), sent r.frame p) := by
  rw [run_send_flushed (Port.flush_up hc)]
  exact Port.write_heard (p := p.cleared) hc hframed hstarted

/-- An attempt over a link that is up: the frame is heard, and from then on there is only reading. -/
theorem attempt_up (hc : p.link.connected = true) (hframed : p.link.device.Framed r.frame)
    (hstarted : p.link.started = []) : attempt r timeout p =
      if r.reply = .none then (.written, sent r.frame p)
      else match (Port.awaitReply r timeout).run (sent r.frame p) with
        | (.error e, q) => (.notRead e, q)
        | (.ok reply, q) => (.replied reply, q) := by
  by_cases hr : r.reply = .none
  · have hwrite : (Port.write r.frame).run p.cleared = (.ok (), sent r.frame p) :=
      Port.write_heard (p := p.cleared) hc hframed hstarted
    simp only [attempt, Port.flush_up hc, hwrite, if_pos hr]
  · rw [if_neg hr, attempt_of_sent (run_send_heard hc hframed hstarted) hr]
    cases (Port.awaitReply r timeout).run (sent r.frame p) with
    | mk o q =>
      cases o with
      | error e => rfl
      | ok reply => rfl

/-- Whatever is read, the rig has heard the frame once. -/
theorem attempt_heard (hc : p.link.connected = true) (hframed : p.link.device.Framed r.frame)
    (hstarted : p.link.started = []) (h : attempt r timeout p = (x, q)) :
    q.link = { p.link.hear r.frame with unread := q.link.unread } := by
  have hread : ∀ {o q}, (Port.awaitReply r timeout).run (sent r.frame p) = (o, q) →
      q.link = { p.link.hear r.frame with unread := q.link.unread } := by
    intro o q hawait
    obtain ⟨bytes, -, hreceived, -⟩ := Port.awaitReply_received hawait
    obtain ⟨hlink, -⟩ := Port.received_unread hreceived
    rw [hlink]
    rfl
  rw [attempt_up hc hframed hstarted] at h
  split at h
  · cases h
    rfl
  · split at h
    all_goals
      rename_i hawait
      cases h
      exact hread hawait

/-- A row of attempts over a link that is up is heard as often. -/
theorem attempts_heard (hc : p.link.connected = true) (hframed : p.link.device.Framed r.frame)
    (hstarted : p.link.started = []) (h : Attempts r timeout p xs q) :
    q.link = { p.link with
      rig := p.link.device.again r.frame xs.length p.link.rig
      unread := q.link.unread } := by
  induction h with
  | nil => rfl
  | @cons p q t x xs hfirst _ ih =>
    have hq := attempt_heard hc hframed hstarted hfirst
    obtain ⟨link, pending, pacing⟩ := q
    have hq : link = { p.link.hear r.frame with unread := link.unread } := hq
    rw [hq] at ih
    have ht := ih hc hframed rfl
    rw [ht]
    have hempty : (p.link.hear r.frame).started = p.link.started := hstarted.symm
    simp only [hempty]
    rfl

/-- A row of attempts over a link that is down is over at once. -/
theorem attempts_down {silent : Nat} {last : Ending} (hc : p.link.connected = false)
    (h : Attempts r timeout p (row silent last) q) :
    last = .notFlushed .notConnected ∧ q.link = p.link := by
  cases silent with
  | zero =>
    cases h with
    | cons hfirst hrest =>
      rw [attempt_down hc] at hfirst
      cases hfirst
      cases hrest
      exact ⟨rfl, rfl⟩
  | succ silent =>
    rw [row, List.replicate_succ] at h
    cases h with
    | cons hfirst hrest =>
      rw [attempt_down hc] at hfirst
      cases hfirst

/-- What an attempt has read without skipping echoes is the front of the answer of the rig. -/
theorem attempt_read {extent : Extent} {reply : List UInt8} (hc : p.link.connected = true)
    (hframed : p.link.device.Framed r.frame) (hstarted : p.link.started = [])
    (hskip : r.skipEcho = false) (hr : r.reply = .required extent)
    (h : (attempt r timeout p).1.outcome r = .ok reply) :
    ∃ rest, p.link.device.answer p.link.rig r.frame = reply ++ rest := by
  have hne : r.reply ≠ .none := by rw [hr]; nofun
  rw [attempt_up hc hframed hstarted, if_neg hne, Port.awaitReply_read hskip hr] at h
  match hread : Port.read extent timeout (sent r.frame p) with
  | (.error e, q) =>
    rw [hread] at h
    simp only [Ending.outcome, hr] at h
    cases h
  | (.ok block, q) =>
    rw [hread] at h
    obtain rfl : block = reply := Except.ok.inj h
    obtain ⟨bytes, hreceived, hkept⟩ := Port.readBy_received hread
    obtain ⟨-, hunread⟩ := Port.received_unread hreceived
    have hunread : p.link.device.answer p.link.rig r.frame = bytes ++ q.link.unread := hunread
    have hkept : bytes = block ++ q.pending := hkept
    exact ⟨q.pending ++ q.link.unread, by rw [hunread, hkept, List.append_assoc]⟩

/-! ## Turns -/

/-- The engine is at a simulated rig, between two frames. -/
structure Attends (e : Engine (Simulated S)) (D : Device S) (timeout : Nat) (s : S) : Prop where
  device : e.port.link.device = D
  rig : e.port.link.rig = s
  started : e.port.link.started = []
  timeout : e.timeout = timeout

end Engine

namespace Device

open Engine

variable {S : Type} {D : Device S} {timeout : Nat} {r : Request} {s s' : S} {e : Engine (Simulated S)}
  {o : Outcome (List UInt8)}

/-- What may come of a request to a rig in the state `s`, and the state after that. -/
def Turn (D : Device S) (timeout : Nat) (r : Request) (s : S) (o : Outcome (List UInt8)) (s' : S) :
    Prop :=
  ∃ e, Attends e D timeout s ∧ ((transact r).run e).1 = o ∧
    ((transact r).run e).2.port.link.rig = s'

/-- A transaction over a link that is up: the frame is heard once for each attempt. -/
theorem transact_up (h : Attends e D timeout s) (hc : e.port.link.connected = true)
    (hframed : D.Framed r.frame) : ∃ n, Attends ((transact r).run e).2 D timeout
      (D.again r.frame (n + 1) s) := by
  obtain ⟨hdevice, hrig, hstarted, htimeout⟩ := h
  obtain ⟨silent, last, port, phase, -, hrow, hrun⟩ := transact_run r e
  have hheard := attempts_heard hc (hdevice ▸ hframed) hstarted hrow
  rw [length_row, hdevice, hrig] at hheard
  rw [hrun]
  refine ⟨silent, ?_, ?_, ?_, htimeout⟩
  · show port.link.device = D
    rw [hheard]
    exact hdevice
  · show port.link.rig = _
    rw [hheard]
  · show port.link.started = []
    rw [hheard]
    exact hstarted

/-- A transaction over a link that is down comes to nothing. -/
theorem transact_down (h : Attends e D timeout s) (hc : e.port.link.connected = false) :
    ((transact r).run e).1 = .error .notConnected ∧
      Attends ((transact r).run e).2 D timeout s := by
  obtain ⟨hdevice, hrig, hstarted, htimeout⟩ := h
  obtain ⟨silent, last, port, phase, -, hrow, hrun⟩ := transact_run r e
  obtain ⟨rfl, hlink⟩ := attempts_down hc hrow
  rw [hrun]
  refine ⟨rfl, ?_, ?_, ?_, htimeout⟩
  · exact (congrArg Simulated.device hlink).trans hdevice
  · exact (congrArg Simulated.rig hlink).trans hrig
  · exact (congrArg Simulated.started hlink).trans hstarted

/-- The rig attends to the next request as it did to this one. -/
theorem attends_transact (h : Attends e D timeout s) (hframed : D.Framed r.frame) :
    Attends ((transact r).run e).2 D timeout ((transact r).run e).2.port.link.rig := by
  have hat : ∀ {t}, Attends ((transact r).run e).2 D timeout t →
      Attends ((transact r).run e).2 D timeout ((transact r).run e).2.port.link.rig :=
    fun ht => ⟨ht.device, rfl, ht.started, ht.timeout⟩
  cases hc : e.port.link.connected with
  | false => exact hat (transact_down h hc).2
  | true =>
    obtain ⟨n, hup⟩ := transact_up h hc hframed
    exact hat hup

/-- The first attempt decides a transaction that meets no silence in it. -/
theorem transact_decided (h : Attends e D timeout s) (hc : e.port.link.connected = true)
    (hframed : D.Framed r.frame)
    (hdecided : (attempt r e.timeout e.port).1.isSilence r = false) :
    ((transact r).run e).1 = (attempt r e.timeout e.port).1.outcome r ∧
      ((transact r).run e).2.port.link.rig = D.next s r.frame := by
  obtain ⟨hdevice, hrig, hstarted, -⟩ := h
  obtain ⟨houtcome, hport⟩ := transact_answer r e
  rw [answer_decided hdecided] at houtcome hport
  match hattempt : attempt r e.timeout e.port with
  | (x, q) =>
    rw [hattempt] at houtcome hport
    have hheard := attempt_heard hc (hdevice ▸ hframed) hstarted hattempt
    refine ⟨houtcome, ?_⟩
    rw [hport, hheard]
    show e.port.link.device.next e.port.link.rig r.frame = _
    rw [hdevice, hrig]

theorem transact_connected (h : Attends e D timeout s) (hc : e.port.link.connected = true)
    (hframed : D.Framed r.frame) : ((transact r).run e).2.port.link.connected = true := by
  obtain ⟨silent, last, port, phase, -, hrow, hrun⟩ := transact_run r e
  have hheard := attempts_heard hc (h.device ▸ hframed) h.started hrow
  rw [hrun]
  show port.link.connected = true
  rw [hheard]
  exact hc

/-- What comes of a request to a rig in the state `s` over a link that is up, and the state after that. -/
def Ends (D : Device S) (timeout : Nat) (r : Request) (s : S) (o : Outcome (List UInt8)) (s' : S) :
    Prop :=
  ∀ e, Attends e D timeout s → e.port.link.connected = true →
    ((transact r).run e).1 = o ∧ Attends ((transact r).run e).2 D timeout s' ∧
      ((transact r).run e).2.port.link.connected = true

namespace Ends

variable {terminator : UInt8} {limit k : Nat} {answer further : List UInt8}

/-- The first attempt decides, unless it meets silence. -/
theorem of_attempt (hframed : D.Framed r.frame)
    (h : ∀ e, Attends e D timeout s → e.port.link.connected = true →
      ∃ x q, attempt r e.timeout e.port = (x, q) ∧ x.isSilence r = false ∧ x.outcome r = o) :
    D.Ends timeout r s o (D.next s r.frame) := by
  intro e he hc
  obtain ⟨x, q, hattempt, hdecided, rfl⟩ := h e he hc
  obtain ⟨houtcome, hrig⟩ := transact_decided he hc hframed (by rwa [hattempt])
  rw [hattempt] at houtcome
  have hafter := attends_transact he hframed
  rw [hrig] at hafter
  exact ⟨houtcome, hafter, transact_connected he hc hframed⟩

/-- What is only written is heard. -/
theorem written (hframed : D.Framed r.frame) (hr : r.reply = .none) :
    D.Ends timeout r s (.ok []) (D.next s r.frame) := by
  refine of_attempt hframed fun e he hc => ⟨.written, sent r.frame e.port, ?_, rfl, rfl⟩
  rw [attempt_up hc (he.device ▸ hframed) he.started, if_pos hr]

/-- If there is any time to wait, the whole answer arrives in it. -/
theorem answer_arrives (he : Attends e D timeout s) (hc : e.port.link.connected = true)
    (htimeout : 0 < timeout) : ∃ chunks l,
    Link.Arrives (Link.now (sent r.frame e.port).link + e.timeout) (sent r.frame e.port).link chunks l ∧
      chunks.flatten = D.answer s r.frame := by
  have hlimit : 0 < Link.now (sent r.frame e.port).link + e.timeout := by
    rw [he.timeout]
    exact Nat.lt_of_lt_of_le htimeout (Nat.le_add_left timeout _)
  obtain ⟨chunks, l, harrive, hflatten⟩ :=
    Simulated.arrives hlimit (l := (sent r.frame e.port).link) hc
  refine ⟨chunks, l, harrive, ?_⟩
  rw [hflatten, ← he.device, ← he.rig]
  rfl

/-- An answer behind echoes is found if there is any time to wait. -/
theorem answered (hframed : D.Framed r.frame) (htimeout : 0 < timeout)
    (hreply : r.reply = .terminated terminator limit) (hskip : r.skipEcho = true)
    (hblock : Block terminator limit r.frame) (hanswer : Block terminator limit answer)
    (hne : answer ≠ r.frame)
    (hdevice : D.answer s r.frame = (List.replicate k r.frame).flatten ++ (answer ++ further)) :
    D.Ends timeout r s (.ok answer) (D.next s r.frame) := by
  refine of_attempt hframed fun e he hc => ?_
  have hsent := run_send_heard hc (he.device ▸ hframed) he.started
  obtain ⟨chunks, l, harrive, hflatten⟩ := answer_arrives he hc htimeout
  obtain ⟨q, left, hattempt, -⟩ := attempt_behind_echoes hreply hskip hblock hsent harrive hne hanswer
    (hflatten.trans hdevice)
  exact ⟨_, q, hattempt, rfl, rfl⟩

/-- Where no echoes are skipped, the block in front of the answer is the reply. -/
theorem replied (hframed : D.Framed r.frame) (htimeout : 0 < timeout)
    (hreply : r.reply = .terminated terminator limit) (hskip : r.skipEcho = false)
    (hanswer : Block terminator limit answer) (hdevice : D.answer s r.frame = answer ++ further) :
    D.Ends timeout r s (.ok answer) (D.next s r.frame) := by
  refine of_attempt hframed fun e he hc => ?_
  have hne : r.reply ≠ .none := by rw [hreply]; nofun
  obtain ⟨chunks, l, harrive, hflatten⟩ := answer_arrives he hc htimeout
  obtain ⟨q, left, hread, -⟩ := Port.read_block e.port.pacing hanswer harrive (Nat.le_refl _)
    (show [] ++ chunks.flatten = _ from hflatten.trans hdevice)
  have hread : Port.read (.upTo terminator limit) e.timeout (sent r.frame e.port) = (.ok answer, q) :=
    hread
  refine ⟨.replied answer, q, ?_, rfl, rfl⟩
  rw [attempt_up hc (he.device ▸ hframed) he.started, if_neg hne, Port.awaitReply_read hskip hreply,
    hread]

end Ends

namespace Turn

/-- If the link is up the request ends as it does then, and if it is down nothing comes of it. -/
theorem of_ends {o' : Outcome (List UInt8)} {s'' : S} (h : D.Turn timeout r s o s')
    (hends : D.Ends timeout r s o' s'') :
    (o = o' ∧ s' = s'') ∨ (o = .error .notConnected ∧ s' = s) := by
  obtain ⟨e, he, rfl, rfl⟩ := h
  cases hc : e.port.link.connected with
  | false =>
    obtain ⟨herror, hafter⟩ := transact_down (r := r) he hc
    exact .inr ⟨herror, hafter.rig⟩
  | true =>
    obtain ⟨houtcome, hafter, -⟩ := hends e he hc
    exact .inl ⟨houtcome, hafter.rig⟩

variable (h : D.Turn timeout r s o s') (hframed : D.Framed r.frame)
include h hframed

/-- The rig has heard the frame some times. -/
theorem heard : ∃ n, s' = D.again r.frame n s := by
  obtain ⟨e, he, -, rfl⟩ := h
  cases hc : e.port.link.connected with
  | false => exact ⟨0, (transact_down he hc).2.rig⟩
  | true =>
    obtain ⟨n, hup⟩ := transact_up he hc hframed
    exact ⟨n + 1, hup.rig⟩

/-- What a frame keeps its request keeps, whatever comes of it. -/
theorem keeps {P : S → Prop} (hP : ∀ s, P s → P (D.next s r.frame)) (hs : P s) : P s' := by
  obtain ⟨n, rfl⟩ := heard h hframed
  exact D.again_keeps hP n hs

/-- What is only written is heard once if the link is up. -/
theorem written (hr : r.reply = .none) :
    (o = .ok [] ∧ s' = D.next s r.frame) ∨ (o = .error .notConnected ∧ s' = s) :=
  h.of_ends (.written hframed hr)

/-- A block that is read where no echoes are skipped is the front of an answer to the frame. -/
theorem read {extent : Extent} {reply : List UInt8} (hskip : r.skipEcho = false)
    (hr : r.reply = .required extent) (ho : o = .ok reply) :
    ∃ n rest, D.answer (D.again r.frame n s) r.frame = reply ++ rest := by
  obtain ⟨e, he, houtcome, -⟩ := h
  rw [ho] at houtcome
  cases hc : e.port.link.connected with
  | false =>
    rw [(transact_down he hc).1] at houtcome
    cases houtcome
  | true =>
    obtain ⟨silent, last, port, phase, -, hrow, hrun⟩ := transact_run r e
    obtain ⟨p, hbefore, hlast⟩ := attempts_concat hrow
    have hp := attempts_heard hc (he.device ▸ hframed) he.started hbefore
    have hdevice : p.link.device = D := by
      rw [hp]
      exact he.device
    have hrig : p.link.rig = D.again r.frame silent s := by
      rw [hp, List.length_replicate, he.device, he.rig]
    have hok : (attempt r e.timeout p).1.outcome r = .ok reply := by
      rw [hlast, ← houtcome, hrun]
    have hread := attempt_read (by rw [hp]; exact hc) (hdevice ▸ hframed)
      (by rw [hp]; exact he.started) hskip hr hok
    rw [hdevice, hrig] at hread
    exact ⟨silent, hread⟩

/-- An answer behind echoes is found at once if the link is up and there is any time to wait. -/
theorem answered {terminator : UInt8} {limit k : Nat} {answer further : List UInt8}
    (htimeout : 0 < timeout) (hreply : r.reply = .terminated terminator limit)
    (hskip : r.skipEcho = true) (hblock : Block terminator limit r.frame)
    (hanswer : Block terminator limit answer) (hne : answer ≠ r.frame)
    (hdevice : D.answer s r.frame = (List.replicate k r.frame).flatten ++ (answer ++ further)) :
    (o = .ok answer ∧ s' = D.next s r.frame) ∨ (o = .error .notConnected ∧ s' = s) :=
  h.of_ends (.answered hframed htimeout hreply hskip hblock hanswer hne hdevice)

end Turn

end Device

end RigControl

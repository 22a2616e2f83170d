/-
Links that follow a script, used in any way. As long as no write is refused, such a link keeps its
books (`applyAll_faithful`): its log has the frames of the script that were met, in order; what has
been written beyond them is the beginning of the next one; and what was read, what was discarded and
what is still unread make up, in order, all that was queued, where the response to a frame is queued by
the write that completes it.

What a write can do is said once (`send_cases`). From it follows that every single use is booked
(`apply_balanced`), and a run adds the books up.
-/
import RigControl.Link.Scripted

namespace RigControl

namespace ScriptedLink

variable {l m n : ScriptedLink} {bytes : List UInt8} {next : Expectation} {rest : List Expectation}

/-! ## Writing and reading -/

/-- After a write that leaves the next frame incomplete. -/
def took (l : ScriptedLink) (bytes : List UInt8) : ScriptedLink :=
  { l with writes := l.writes + 1, started := l.started ++ bytes }

/-- After a write that completes the next frame. -/
def answered (l : ScriptedLink) (next : Expectation) (rest : List Expectation) : ScriptedLink :=
  { l with
    writes := l.writes + 1
    started := []
    sent := l.sent ++ [next.frame]
    script := rest
    unread := l.unread ++ next.response }

theorem run_send (hc : l.connected = true) (hf : l.failing = false) :
    (send bytes).run l = follow.run (l.took bytes) := by
  simp only [Action.run, send, connectedOnly, hc, hf, if_true, took]
  rfl

theorem run_send_part (hc : l.connected = true) (hf : l.failing = false)
    (hs : l.script = next :: rest) (hpart : l.started ++ bytes <+: next.frame)
    (hne : l.started ++ bytes ≠ next.frame) : (send bytes).run l = (.ok (), l.took bytes) := by
  have hlt : (l.started ++ bytes).length < next.frame.length :=
    Nat.lt_of_not_le fun hle => hne (hpart.eq_of_length_le hle)
  rw [run_send hc hf]
  simp only [Action.run, follow, took, hs, List.isPrefixOf_iff_prefix.2 hpart, if_true, if_pos hlt]

theorem run_send_whole (hc : l.connected = true) (hf : l.failing = false)
    (hs : l.script = next :: rest) (hwhole : l.started ++ bytes = next.frame) :
    (send bytes).run l = (.ok (), l.answered next rest) := by
  rw [run_send hc hf]
  simp only [Action.run, follow, took, hs, hwhole, List.isPrefixOf_iff_prefix.2 (List.prefix_refl _),
    if_true, Nat.lt_irrefl, if_false]
  rfl

theorem run_send_astray (hc : l.connected = true) (hf : l.failing = false)
    (hs : ∀ next rest, l.script = next :: rest → ¬ l.started ++ bytes <+: next.frame) :
    ∃ e, (send bytes).run l = (.error e, (l.took bytes).finish) := by
  rw [run_send hc hf]
  simp only [Action.run, follow]
  split
  · exact ⟨_, rfl⟩
  · rename_i next rest hscript
    have hnot : ¬ (l.took bytes).started.isPrefixOf next.frame = true := fun hpart =>
      hs next rest hscript (List.isPrefixOf_iff_prefix.1 hpart)
    rw [if_neg hnot]
    exact ⟨_, rfl⟩

/-- **What a write can do**: it goes on with the next frame, it completes it, or it is refused, which
leaves all as it was or logs what has been written as a frame. -/
theorem send_cases (l : ScriptedLink) (bytes : List UInt8) :
    (∃ next rest, l.script = next :: rest ∧ l.started ++ bytes <+: next.frame ∧
      (send bytes).run l = (.ok (), l.took bytes)) ∨
    (∃ next rest, l.script = next :: rest ∧ l.started ++ bytes = next.frame ∧
      (send bytes).run l = (.ok (), l.answered next rest)) ∨
    ∃ e m, (send bytes).run l = (.error e, m) ∧ (m = l ∨ m = (l.took bytes).finish) := by
  by_cases hc : l.connected = true
  case neg =>
    exact .inr (.inr ⟨.notConnected, l, by simp [Action.run, send, connectedOnly, hc], .inl rfl⟩)
  by_cases hf : l.failing = false
  case neg =>
    exact .inr (.inr ⟨.io "injected send failure", l,
      by simp [Action.run, send, connectedOnly, hc, hf], .inl rfl⟩)
  by_cases hs : ∃ next rest, l.script = next :: rest ∧ l.started ++ bytes <+: next.frame
  case neg =>
    obtain ⟨e, hrun⟩ := run_send_astray hc hf fun next rest hscript hpart =>
      hs ⟨next, rest, hscript, hpart⟩
    exact .inr (.inr ⟨e, _, hrun, .inr rfl⟩)
  obtain ⟨next, rest, hscript, hpart⟩ := hs
  by_cases hwhole : l.started ++ bytes = next.frame
  · exact .inr (.inl ⟨next, rest, hscript, hwhole, run_send_whole hc hf hscript hwhole⟩)
  · exact .inl ⟨next, rest, hscript, hpart, run_send_part hc hf hscript hpart hwhole⟩

theorem receive_cases (l : ScriptedLink) (room : Nat) :
    (receive room).run l = (.ok (l.unread.take room), { l with unread := l.unread.drop room }) ∨
    ∃ e, (receive room).run l = (.error e, l) := by
  simp only [Action.run, receive, connectedOnly]
  split
  · split
    · exact .inr ⟨_, rfl⟩
    · exact .inl rfl
  · exact .inr ⟨_, rfl⟩

theorem clearInput_cases (l : ScriptedLink) :
    clearInput.run l = (.ok (), { l with flushes := l.flushes + 1, unread := [] }) ∨
    ∃ e, clearInput.run l = (.error e, l) := by
  simp only [Action.run, clearInput, connectedOnly]
  split
  · exact .inl rfl
  · exact .inr ⟨_, rfl⟩

/-! ## Uses -/

/-- A use of a link: what is prepared, and what is asked of it. -/
inductive Use where
  | expect (frame response : List UInt8)
  | inject (bytes : List UInt8)
  | send (bytes : List UInt8)
  | receive (room : Nat)
  | clearInput
deriving DecidableEq

/-- What comes of a use. -/
inductive Event where
  | expected (x : Expectation)
  | injected (bytes : List UInt8)
  /-- Bytes were written, which met these expectations. -/
  | wrote (bytes : List UInt8) (met : List Expectation)
  | refused (e : Error)
  /-- Bytes were read; none if there were none. -/
  | received (bytes : List UInt8)
  | discarded (bytes : List UInt8)
deriving DecidableEq

/-- The expectations that have gone from the front of the script between two states. -/
def metBetween (l m : ScriptedLink) : List Expectation :=
  l.script.take (l.script.length - m.script.length)

/-- Uses a link once. -/
def Use.apply (l : ScriptedLink) : Use → Event × ScriptedLink
  | expect frame response => (.expected ⟨frame, response⟩, l.expect frame response)
  | inject bytes => (.injected bytes, l.inject bytes)
  | send bytes =>
    match (ScriptedLink.send bytes).run l with
    | (.ok (), m) => (.wrote bytes (metBetween l m), m)
    | (.error e, m) => (.refused e, m)
  | receive room =>
    match (ScriptedLink.receive room).run l with
    | (.ok bytes, m) => (.received bytes, m)
    | (.error _, m) => (.received [], m)
  | clearInput =>
    match ScriptedLink.clearInput.run l with
    | (.ok (), m) => (.discarded l.unread, m)
    | (.error _, m) => (.discarded [], m)

/-- Uses a link several times. -/
def applyAll : List Use → ScriptedLink → List Event × ScriptedLink
  | [], l => ([], l)
  | u :: us, l =>
    let (events, m) := applyAll us (u.apply l).2
    ((u.apply l).1 :: events, m)

/-- A link as it can come about: from a new one by uses of any kind, refused writes included. -/
inductive Reached : ScriptedLink → Prop
  | new : Reached {}
  | used {l : ScriptedLink} (h : Reached l) (u : Use) : Reached (u.apply l).2
  | switched {l : ScriptedLink} (h : Reached l) (connected : Bool) :
    Reached { l with connected := connected }
  | broken {l : ScriptedLink} (h : Reached l) : Reached { l with failing := true }
  | closed {l : ScriptedLink} (h : Reached l) :
    Reached ((Link.close : Action ScriptedLink Unit).run l).2
  | slept {l : ScriptedLink} (h : Reached l) (ms : Nat) :
    Reached ((Link.sleep ms : Action ScriptedLink Unit).run l).2

/-! ## What has been begun -/

/-- What has been begun is the beginning of the next frame; nothing has if none is expected. -/
def Aligned (l : ScriptedLink) : Prop :=
  match l.script with
  | [] => l.started = []
  | next :: _ => l.started <+: next.frame

theorem aligned_of_nil (h : l.started = []) : l.Aligned := by
  unfold Aligned
  split
  · exact h
  · rw [h]
    exact List.nil_prefix

theorem Aligned.of_same (hl : l.Aligned) (hscript : m.script = l.script)
    (hstarted : m.started = l.started) : m.Aligned := by
  unfold Aligned at hl ⊢
  rwa [hscript, hstarted]

theorem Aligned.expect (hl : l.Aligned) {frame response : List UInt8} :
    (l.expect frame response).Aligned := by
  unfold Aligned at hl ⊢
  cases hs : l.script with
  | nil =>
    rw [hs] at hl
    simp only [ScriptedLink.expect, hs, List.nil_append, hl]
    exact List.nil_prefix
  | cons next rest =>
    rw [hs] at hl
    simpa only [ScriptedLink.expect, hs, List.cons_append] using hl

theorem Aligned.apply (hl : l.Aligned) (u : Use) : (u.apply l).2.Aligned := by
  cases u with
  | expect frame response => exact hl.expect
  | inject bytes => exact hl.of_same rfl rfl
  | send bytes =>
    rcases send_cases l bytes with ⟨next, rest, hs, hpart, hrun⟩ | ⟨next, rest, -, -, hrun⟩ |
      ⟨e, m, hrun, hm⟩
    · simp only [Use.apply, hrun]
      unfold Aligned
      rw [took, hs]
      exact hpart
    · simp only [Use.apply, hrun]
      exact aligned_of_nil rfl
    · simp only [Use.apply, hrun]
      rcases hm with rfl | rfl
      · exact hl
      · exact aligned_of_nil rfl
  | receive room =>
    rcases receive_cases l room with hrun | ⟨e, hrun⟩
    · simp only [Use.apply, hrun]
      exact hl.of_same rfl rfl
    · simpa only [Use.apply, hrun] using hl
  | clearInput =>
    rcases clearInput_cases l with hrun | ⟨e, hrun⟩
    · simp only [Use.apply, hrun]
      exact hl.of_same rfl rfl
    · simpa only [Use.apply, hrun] using hl

theorem Aligned.applyAll (hl : l.Aligned) (us : List Use) : (applyAll us l).2.Aligned := by
  induction us generalizing l with
  | nil => exact hl
  | cons u us ih => exact ih (hl.apply u)

theorem Reached.aligned (h : Reached l) : l.Aligned := by
  induction h with
  | new => rfl
  | used _ u ih => exact ih.apply u
  | switched _ _ ih => exact ih.of_same rfl rfl
  | broken _ ih => exact ih.of_same rfl rfl
  | closed _ ih => exact ih.of_same rfl rfl
  | slept _ _ ih => exact ih.of_same rfl rfl

/-! ## The books -/

namespace Event

/-- What is added to the script. -/
@[simp] def prepared : Event → List Expectation
  | expected x => [x]
  | _ => []

@[simp] def met : Event → List Expectation
  | wrote _ met => met
  | _ => []

@[simp] def written : Event → List UInt8
  | wrote bytes _ => bytes
  | _ => []

/-- What can be read in addition. -/
@[simp] def queued : Event → List UInt8
  | injected bytes => bytes
  | wrote _ met => met.flatMap Expectation.response
  | _ => []

/-- What cannot be read any more. -/
@[simp] def taken : Event → List UInt8
  | received bytes => bytes
  | discarded bytes => bytes
  | _ => []

@[simp] def isRefused : Event → Bool
  | refused _ => true
  | _ => false

end Event

/-- How the books stand after some events. -/
structure Balanced (l : ScriptedLink) (events : List Event) (m : ScriptedLink) : Prop where
  /-- The log has the frames that were met. -/
  log : m.sent = l.sent ++ (events.flatMap Event.met).map Expectation.frame
  /-- What was met comes from the front of the script, and what was prepared has been added to it. -/
  script : l.script ++ events.flatMap Event.prepared = events.flatMap Event.met ++ m.script
  /-- What was written makes up the frames that were met, and what has been begun. -/
  written : l.started ++ events.flatMap Event.written =
    (events.flatMap Event.met).flatMap Expectation.frame ++ m.started
  /-- What was queued has been taken or is still there, in order. -/
  input : l.unread ++ events.flatMap Event.queued = events.flatMap Event.taken ++ m.unread

theorem Balanced.nil (l : ScriptedLink) : Balanced l [] l := by
  constructor <;> simp

theorem Balanced.append {es fs : List Event} (h : Balanced l es m) (h' : Balanced m fs n) :
    Balanced l (es ++ fs) n where
  log := by
    rw [h'.log, h.log, List.flatMap_append, List.map_append, List.append_assoc]
  script := by
    rw [List.flatMap_append, List.flatMap_append, ← List.append_assoc, h.script, List.append_assoc,
      h'.script, List.append_assoc]
  written := by
    rw [List.flatMap_append, List.flatMap_append, List.flatMap_append, ← List.append_assoc, h.written,
      List.append_assoc, h'.written, List.append_assoc]
  input := by
    rw [List.flatMap_append, List.flatMap_append, ← List.append_assoc, h.input, List.append_assoc,
      h'.input, List.append_assoc]

theorem metBetween_took : metBetween l (l.took bytes) = [] := by
  simp [metBetween, took]

theorem metBetween_answered (hs : l.script = next :: rest) :
    metBetween l (l.answered next rest) = [next] := by
  simp [metBetween, answered, hs]

/-- **Every use is booked.** -/
theorem apply_balanced {u : Use} (h : (u.apply l).1.isRefused = false) :
    Balanced l [(u.apply l).1] (u.apply l).2 := by
  cases u with
  | expect frame response =>
    constructor <;> simp [Use.apply, ScriptedLink.expect]
  | inject bytes =>
    constructor <;> simp [Use.apply, ScriptedLink.inject]
  | send bytes =>
    rcases send_cases l bytes with ⟨next, rest, hs, hpart, hrun⟩ | ⟨next, rest, hs, hwhole, hrun⟩ |
      ⟨e, m, hrun, hm⟩
    · simp only [Use.apply, hrun, metBetween_took]
      constructor <;> simp [took]
    · simp only [Use.apply, hrun, metBetween_answered hs]
      constructor <;> simp [answered, hs, hwhole]
    · simp [Use.apply, hrun] at h
  | receive room =>
    rcases receive_cases l room with hrun | ⟨e, hrun⟩
    all_goals
      simp only [Use.apply, hrun]
      constructor <;> simp
  | clearInput =>
    rcases clearInput_cases l with hrun | ⟨e, hrun⟩
    all_goals
      simp only [Use.apply, hrun]
      constructor <;> simp

theorem applyAll_balanced {us : List Use} (h : ∀ e ∈ (applyAll us l).1, e.isRefused = false) :
    Balanced l (applyAll us l).1 (applyAll us l).2 := by
  induction us generalizing l with
  | nil => exact .nil l
  | cons u us ih =>
    obtain ⟨hfirst, hrest⟩ := List.forall_mem_cons.1 h
    exact .append (apply_balanced hfirst) (ih hrest)

/-- A write meets at most one frame, and when it meets one, nothing is left begun. -/
theorem apply_met {u : Use} {met : List Expectation} (h : (u.apply l).1 = .wrote bytes met)
    (hmet : met ≠ []) : ∃ x, met = [x] ∧ (u.apply l).2.started = [] := by
  cases u with
  | expect frame response => cases h
  | inject bytes => cases h
  | send bytes =>
    rcases send_cases l bytes with ⟨next, rest, hs, hpart, hrun⟩ | ⟨next, rest, hs, hwhole, hrun⟩ |
      ⟨e, m, hrun, hm⟩
    · simp only [Use.apply, hrun, metBetween_took, Event.wrote.injEq] at h
      exact absurd h.2.symm hmet
    · simp only [Use.apply, hrun, metBetween_answered hs, Event.wrote.injEq] at h
      exact ⟨next, h.2.symm, by simp only [Use.apply, hrun, answered]⟩
    · simp only [Use.apply, hrun] at h
      cases h
  | receive room =>
    rcases receive_cases l room with hrun | ⟨e, hrun⟩
    all_goals
      simp only [Use.apply, hrun] at h
      cases h
  | clearInput =>
    rcases clearInput_cases l with hrun | ⟨e, hrun⟩
    all_goals
      simp only [Use.apply, hrun] at h
      cases h

/-- When a frame is met, all that has been written is the frames that have been met, this one last. -/
theorem applyAll_met {us : List Use} {before after : List Event} {met : List Expectation}
    (h : ∀ e ∈ (applyAll us l).1, e.isRefused = false)
    (hevents : (applyAll us l).1 = before ++ .wrote bytes met :: after) (hmet : met ≠ []) :
    ∃ x, met = [x] ∧ l.started ++ before.flatMap Event.written ++ bytes =
      (before.flatMap Event.met ++ [x]).flatMap Expectation.frame := by
  induction us generalizing l before with
  | nil => exact absurd hevents (by simp [applyAll])
  | cons u us ih =>
    obtain ⟨hfirst, hrest⟩ := List.forall_mem_cons.1 h
    have hwritten := (apply_balanced hfirst).written
    cases before with
    | nil =>
      obtain ⟨hevent, -⟩ := List.cons.inj hevents
      obtain ⟨x, rfl, hstarted⟩ := apply_met hevent hmet
      rw [hevent, hstarted] at hwritten
      exact ⟨x, rfl, by simpa using hwritten⟩
    | cons e before =>
      obtain ⟨hevent, htail⟩ := List.cons.inj hevents
      obtain ⟨x, hx, hall⟩ := ih hrest htail
      rw [hevent, List.flatMap_singleton, List.flatMap_singleton] at hwritten
      refine ⟨x, hx, ?_⟩
      calc l.started ++ (e :: before).flatMap Event.written ++ bytes
        _ = e.met.flatMap Expectation.frame ++
            ((u.apply l).2.started ++ before.flatMap Event.written ++ bytes) := by
          rw [List.flatMap_cons, ← List.append_assoc, hwritten]
          simp only [List.append_assoc]
        _ = ((e :: before).flatMap Event.met ++ [x]).flatMap Expectation.frame := by
          rw [hall]
          simp only [List.flatMap_cons, List.flatMap_append, List.append_assoc]

/-- **A link that follows a script is faithful to it.** However it is used, in pieces of any size, if no
write is refused: the books balance, what has been begun is the beginning of the next frame, and a
response is queued only by the write with which all that was written is the frames that were met, the
frame of the response being the last of them. -/
theorem applyAll_faithful {us : List Use} {events : List Event} (hl : Reached l)
    (hrun : applyAll us l = (events, m)) (hsent : ∀ e ∈ events, e.isRefused = false) :
    Balanced l events m ∧ m.Aligned ∧
    ∀ before bytes met after, events = before ++ .wrote bytes met :: after → met ≠ [] →
      ∃ x, met = [x] ∧ l.started ++ before.flatMap Event.written ++ bytes =
        (before.flatMap Event.met ++ [x]).flatMap Expectation.frame := by
  obtain rfl : (applyAll us l).1 = events := congrArg Prod.fst hrun
  obtain rfl : (applyAll us l).2 = m := congrArg Prod.snd hrun
  exact ⟨applyAll_balanced hsent, hl.aligned.applyAll us, fun before bytes met after hevents hmet =>
    applyAll_met hsent hevents hmet⟩

/-- A frame in two pieces, with a read and an injection between them, and the beginning of another. -/
theorem applyAll_faithful_in_pieces :
    let us : List Use := [.inject [0x33], .expect [1, 2, 3] [0xAA, 0xBB], .expect [4, 5] [], .send [1],
      .receive 8, .send [2, 3], .inject [0x44], .receive 1, .clearInput, .send [4]]
    let met : List Expectation := [⟨[1, 2, 3], [0xAA, 0xBB]⟩]
    let events : List Event := [.injected [0x33], .expected ⟨[1, 2, 3], [0xAA, 0xBB]⟩,
      .expected ⟨[4, 5], []⟩, .wrote [1] [], .received [0x33], .wrote [2, 3] met, .injected [0x44],
      .received [0xAA], .discarded [0xBB, 0x44], .wrote [4] []]
    let m : ScriptedLink :=
      { script := [⟨[4, 5], []⟩], started := [4], sent := [[1, 2, 3]], writes := 3, flushes := 1 }
    Reached {} ∧ applyAll us {} = (events, m) ∧ (∀ e ∈ events, e.isRefused = false) ∧
    Balanced {} events m ∧ m.Aligned := by
  intro us met events m
  have hrun : applyAll us {} = (events, m) := by decide +kernel
  have hsent : ∀ e ∈ events, e.isRefused = false := by decide
  obtain ⟨hbalanced, haligned, -⟩ := applyAll_faithful .new hrun hsent
  exact ⟨.new, hrun, hsent, hbalanced, haligned⟩

end ScriptedLink

end RigControl

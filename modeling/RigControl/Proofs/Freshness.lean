/-
Stale input. Every attempt starts with a flush, so that on a link that follows a script nothing depends
on what was left to read before, at the port or on the link; and a reply is cut out of what the script
answered after the flush of the attempt that got it (`transact_fresh`).

The first is said of two runs but proved of one: a run is the run without the leftovers.
-/
import RigControl.Proofs.Attempts
import RigControl.Proofs.Reading
import RigControl.Proofs.Script
import RigControl.Proofs.Writing

namespace RigControl

/-! ## What a script answers -/

namespace ScriptedLink

variable {l m n : ScriptedLink} {bytes : List UInt8}

/-- From the one state to the other these expectations have been met, and what answers them can be
read in addition. -/
def Met (met : List Expectation) (l m : ScriptedLink) : Prop :=
  l.script = met ++ m.script ∧ m.unread = l.unread ++ met.flatMap Expectation.response

/-- From the one state to the other nothing has happened to the script and the input but that frames
were met. -/
def Follows (l m : ScriptedLink) : Prop :=
  ∃ met, Met met l m

theorem follows_refl (l : ScriptedLink) : Follows l l :=
  ⟨[], rfl, (List.append_nil _).symm⟩

theorem follows_trans (h : Follows l m) (h' : Follows m n) : Follows l n := by
  obtain ⟨met, hscript, hunread⟩ := h
  obtain ⟨more, hscript', hunread'⟩ := h'
  refine ⟨met ++ more, ?_, ?_⟩
  · rw [hscript, hscript', List.append_assoc]
  · rw [hunread', hunread, List.flatMap_append, List.append_assoc]

theorem send_follows (bytes : List UInt8) : (send bytes).Leads Follows := by
  intro l
  rcases send_cases l bytes with ⟨next, rest, -, -, hrun⟩ | ⟨next, rest, hs, -, hrun⟩ |
    ⟨e, m, hrun, hm⟩
  · rw [hrun]
    exact follows_refl l
  · rw [hrun]
    refine ⟨[next], hs, ?_⟩
    rw [List.flatMap_singleton]
    rfl
  · rw [hrun]
    rcases hm with rfl | rfl
    · exact follows_refl m
    · exact follows_refl l

theorem receive_failed {room : Nat} {e : Error} (h : (receive room).run l = (.error e, m)) :
    m = l := by
  rcases receive_cases l room with hrun | ⟨e', hrun⟩
  · rw [hrun] at h
    cases h
  · rw [hrun] at h
    cases h
    rfl

theorem unread_of_received (h : Link.Received l bytes m) : l.unread = bytes ++ m.unread := by
  induction h with
  | nil => rfl
  | got h _ ih =>
    obtain ⟨-, hunread, -⟩ := receive_unread h
    rw [hunread, ih, List.append_assoc]
  | missed h _ ih =>
    rw [← receive_failed h]
    exact ih

end ScriptedLink

/-! ## Waiting for a reply -/

namespace Port

theorem awaitBlock_received {σ : Type} [Link σ] {r : Request} {x : Extent} {timeout : Nat}
    {p q : Port σ} {o : Outcome (List UInt8)} (h : awaitBlock r x timeout p = (o, q)) :
    ∃ bytes skipped, Link.Received p.link bytes q.link ∧
      p.pending ++ bytes = skipped ++ handed o ++ q.pending := by
  fun_induction awaitBlock r x timeout p with
  | case1 p t hread hecho =>
    cases h
    obtain ⟨bytes, hbytes, hcut⟩ := readBy_received hread
    exact ⟨bytes, [], hbytes, hcut⟩
  | case2 p block t hread hecho hne ih =>
    obtain ⟨first, hfirst, hcut⟩ := readBy_received hread
    obtain ⟨bytes, skipped, hbytes, heq⟩ := ih h
    refine ⟨first ++ bytes, block ++ skipped, hfirst.append hbytes, ?_⟩
    calc p.pending ++ (first ++ bytes)
      _ = block ++ t.pending ++ bytes := by rw [← List.append_assoc, hcut]; rfl
      _ = block ++ skipped ++ handed o ++ q.pending := by
        rw [List.append_assoc, heq]
        simp only [List.append_assoc]
  | case3 p block t hread hother =>
    cases h
    obtain ⟨bytes, hbytes, hcut⟩ := readBy_received hread
    exact ⟨bytes, [], hbytes, hcut⟩
  | case4 p err t hread =>
    cases h
    obtain ⟨bytes, hbytes, hcut⟩ := readBy_received hread
    exact ⟨bytes, [], hbytes, hcut⟩

theorem awaitReply_received {σ : Type} [Link σ] {r : Request} {timeout : Nat} {p q : Port σ}
    {o : Outcome (List UInt8)} (h : (awaitReply r timeout).run p = (o, q)) :
    ∃ bytes skipped, Link.Received p.link bytes q.link ∧
      p.pending ++ bytes = skipped ++ handed o ++ q.pending := by
  unfold awaitReply at h
  split at h
  · exact awaitBlock_received h
  · cases h
    exact ⟨[], [], .nil _, List.append_nil _⟩

variable {p q t : Port ScriptedLink} {frame : List UInt8}

/-- The port without the input that is left at hand and on the link. -/
def emptied (p : Port ScriptedLink) : Port ScriptedLink :=
  { p with pending := [], link := { p.link with unread := [] } }

theorem flush_emptied (hc : p.link.connected = true) : flush.run p = flush.run p.emptied := by
  simp only [flush, emptied, bind, Action.run, Action.update, onLink, Action.on, Link.clearInput,
    ScriptedLink.clearInput, ScriptedLink.connectedOnly, hc, if_true]

theorem unread_of_flushed (h : flush.run p = (.ok (), q)) : q.link.unread = [] := by
  simp only [flush, bind, Action.run, Action.update, onLink, Action.on, Link.clearInput,
    ScriptedLink.clearInput, ScriptedLink.connectedOnly] at h
  split at h
  · cases h
    rfl
  · cases h

theorem write_follows (h : (write frame).run q = (.ok (), t)) :
    ScriptedLink.Follows q.link t.link := by
  have hleads : Through ScriptedLink.Follows q ((write frame).run q).2 :=
    write_leads ScriptedLink.follows_refl ScriptedLink.follows_trans ScriptedLink.send_follows
      (fun _ l => ScriptedLink.follows_refl l) q
  rw [h] at hleads
  exact hleads.2

end Port

/-! ## Transactions -/

namespace Engine

section

variable {σ : Type} [Link σ] {r : Request} {timeout n : Nat} {p q : Port σ} {x : Ending}
  {xs : List Ending} {reply : List UInt8}

theorem attempts_concat (h : Attempts r timeout p (xs ++ [x]) q) :
    ∃ t, Attempts r timeout p xs t ∧ attempt r timeout t = (x, q) := by
  induction xs generalizing p with
  | nil =>
    cases h with
    | cons hx hrest =>
      cases hrest
      exact ⟨p, .nil p, hx⟩
  | cons y ys ih =>
    cases h with
    | cons hy hrest =>
      obtain ⟨t, hys, hx⟩ := ih hrest
      exact ⟨t, .cons hy hys, hx⟩

/-- An attempt that gives a reply got through to waiting for it. -/
theorem attempt_ok (h : (attempt r timeout p).1.outcome r = .ok reply) : ∃ q t o,
    Port.flush.run p = (.ok (), q) ∧ (Port.write r.frame).run q = (.ok (), t) ∧
      (Port.awaitReply r timeout).run t = (o, (attempt r timeout p).2) ∧ Port.handed o = reply := by
  match hf : Port.flush.run p with
  | (.error err, q) =>
    simp only [attempt, hf] at h
    cases h
  | (.ok (), q) =>
    match hw : (Port.write r.frame).run q with
    | (.error err, t) =>
      simp only [attempt, hf, hw] at h
      cases h
    | (.ok (), t) =>
      by_cases hr : r.reply = .none
      · simp only [attempt, hf, hw, hr, if_true] at h ⊢
        cases h
        refine ⟨q, t, .ok [], rfl, hw, ?_, rfl⟩
        rw [Port.awaitReply, hr]
        rfl
      · match ha : (Port.awaitReply r timeout).run t with
        | (.ok reply', s) =>
          simp only [attempt, hf, hw, hr, if_false, ha] at h ⊢
          cases h
          exact ⟨q, t, .ok _, rfl, hw, ha, rfl⟩
        | (.error err, s) =>
          simp only [attempt, hf, hw, hr, if_false, ha, Ending.outcome] at h ⊢
          refine ⟨q, t, .error err, rfl, hw, ha, ?_⟩
          split at h <;> cases h
          rfl

end

variable {r : Request} {e f : Engine ScriptedLink} {timeout : Nat} {p : Port ScriptedLink}
  {reply : List UInt8}

/-- The engine without the input that is left at hand and on the link. -/
def emptied (e : Engine ScriptedLink) : Engine ScriptedLink :=
  { e with port := e.port.emptied }

theorem sendOnce_emptied (hc : e.port.link.connected = true) :
    (sendOnce r).run e = (sendOnce r).run e.emptied := by
  have hsend : (Port.send r.frame).run e.emptied.port = (Port.send r.frame).run e.port :=
    (Action.run_bind_congr (Port.flush_emptied hc)).symm
  match h : (Port.send r.frame).run e.port with
  | (.error err, q) =>
    rw [sendOnce_error h, sendOnce_error (hsend.trans h)]
    rfl
  | (.ok (), q) =>
    rw [sendOnce_sent h, sendOnce_sent (hsend.trans h)]
    rfl

theorem transact_emptied (hc : e.port.link.connected = true) :
    (transact r).run e = (transact r).run e.emptied := by
  have hexchange : ∀ n, (exchange r n).run e = (exchange r n).run e.emptied := by
    intro n
    cases n <;> exact Action.run_bind_congr (sendOnce_emptied hc)
  have hcurrent : ∀ e : Engine ScriptedLink, Action.current.run e = (.ok e, e) := fun _ => rfl
  rw [transact, Action.run_bind_ok (hcurrent e), Action.run_bind_ok (hcurrent e.emptied)]
  exact Action.run_bind_congr (hexchange e.repeats)

/-- The reply of an attempt is cut out of what the script answered to its write. -/
theorem attempt_fresh (h : (attempt r timeout p).1.outcome r = .ok reply) : ∃ q t met skipped,
    Port.flush.run p = (.ok (), q) ∧ (Port.write r.frame).run q = (.ok (), t) ∧
      q.link.script = met ++ t.link.script ∧
      met.flatMap Expectation.response = skipped ++ reply ++
        ((attempt r timeout p).2.pending ++ (attempt r timeout p).2.link.unread) := by
  obtain ⟨q, t, o, hflush, hwrite, hawait, rfl⟩ := attempt_ok h
  obtain ⟨met, hscript, hunread⟩ := Port.write_follows hwrite
  obtain ⟨bytes, skipped, hbytes, hcut⟩ := Port.awaitReply_received hawait
  have hpending : t.pending = [] := Port.pending_send (Port.run_send_ok.2 ⟨q, hflush, hwrite⟩)
  rw [Port.unread_of_flushed hflush, List.nil_append] at hunread
  rw [hpending, List.nil_append] at hcut
  refine ⟨q, t, met, skipped, hflush, hwrite, hscript, ?_⟩
  rw [← hunread, ScriptedLink.unread_of_received hbytes, hcut, List.append_assoc]

/-- **Stale input makes no difference**: engines that differ in nothing else answer the same and end
in the same state, what was sent included, or neither comes to an outcome. And a reply is fresh: it is
cut out of what the script answered after the flush of the last attempt, with nothing left over from
before. -/
theorem transact_fresh (hc : e.port.link.connected = true) (hsame : e.emptied = f.emptied) :
    (transact r).run e = (transact r).run f ∧
    ∀ reply, ((transact r).run e).1 = .ok reply → ∃ i p q t met skipped,
      Attempts r e.timeout e.port (List.replicate i (.notRead .timeout)) p ∧
      (attempt r e.timeout p).1.outcome r = .ok reply ∧
      (attempt r e.timeout p).2 = ((transact r).run e).2.port ∧
      Port.flush.run p = (.ok (), q) ∧ q.pending = [] ∧ q.link.unread = [] ∧
      (Port.write r.frame).run q = (.ok (), t) ∧
      q.link.script = met ++ t.link.script ∧
      met.flatMap Expectation.response = skipped ++ reply ++
        (((transact r).run e).2.port.pending ++ ((transact r).run e).2.port.link.unread) := by
  have hconnected : f.port.link.connected = true := by
    have hemptied := congrArg (fun e => e.port.link.connected) hsame
    have : e.port.link.connected = f.port.link.connected := hemptied
    rw [← this]
    exact hc
  refine ⟨?_, fun reply hreply => ?_⟩
  · rw [transact_emptied hc, transact_emptied hconnected, hsame]
  · obtain ⟨silent, last, port, phase, -, hrow, hrun⟩ := transact_run r e
    obtain ⟨p, hbefore, hlast⟩ := attempts_concat hrow
    have hport : (attempt r e.timeout p).2 = ((transact r).run e).2.port := by
      rw [hlast, hrun]
    have hok : (attempt r e.timeout p).1.outcome r = .ok reply := by
      rw [hlast, ← hreply, hrun]
    obtain ⟨q, t, met, skipped, hflush, hwrite, hscript, hmet⟩ := attempt_fresh hok
    rw [hport] at hmet
    exact ⟨silent, p, q, t, met, skipped, hbefore, hok, hport, hflush,
      Port.pending_of_flushed hflush, Port.unread_of_flushed hflush, hwrite, hscript, hmet⟩

/-- The first attempt gets half a reply, which the second does not see, and neither sees what was
there before. -/
theorem transact_fresh_retried :
    let r : Request := { operation := "get", frame := [0x01, 0x02], reply := .terminated 0xFD 8 }
    let script : List Expectation := [⟨[0x01, 0x02], [0x09]⟩, ⟨[0x01, 0x02], [0x07, 0xFD]⟩]
    let e : Engine ScriptedLink :=
      .create { link := { script := script, unread := [0x33, 0xFD] }, pending := [0x44] } 2 100
    let f : Engine ScriptedLink := .create { link := { script := script } } 2 100
    ((transact r).run e).1.toOption = some [0x07, 0xFD] ∧ (transact r).run e = (transact r).run f := by
  intro r script e f
  obtain ⟨hruns, -⟩ := transact_fresh (r := r) (e := e) (f := f) rfl rfl
  exact ⟨by decide +kernel, hruns⟩

end Engine

end RigControl

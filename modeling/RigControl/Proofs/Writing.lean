/-
Writing to a port. However it is paced, a write does nothing but send and sleep, so that what these two
keep of a link every write keeps, and the port is the same but for its link (`write_leads`). Sending a
frame starts with a flush, which leaves nothing pending.
-/
import RigControl.Link.Engine

namespace RigControl

namespace Action

variable {σ α β : Type} {R : σ → σ → Prop} {x : Action σ α} {f : α → Action σ β}

theorem run_bind_eq_ok {s t : σ} {b : β} :
    (x >>= f).run s = (.ok b, t) ↔ ∃ a u, x.run s = (.ok a, u) ∧ (f a).run u = (.ok b, t) := by
  match h : x.run s with
  | (.ok a, u) =>
    rw [run_bind_ok h]
    constructor
    · intro hf
      exact ⟨a, u, rfl, hf⟩
    · rintro ⟨a', u', hx, hf⟩
      cases hx
      exact hf
  | (.error e, u) =>
    rw [run_bind_error h]
    constructor
    · intro hf
      cases hf
    · rintro ⟨a', u', hx, -⟩
      cases hx

/-- Whatever it answers, the computation leads from each state to a related one. -/
def Leads (R : σ → σ → Prop) (x : Action σ α) : Prop :=
  ∀ s, R s (x.run s).2

theorem Leads.bind (htrans : ∀ {s t u}, R s t → R t u → R s u) (hx : x.Leads R)
    (hf : ∀ a, (f a).Leads R) : (x >>= f).Leads R := by
  intro s
  have hs := hx s
  match h : x.run s with
  | (.ok a, t) =>
    rw [h] at hs
    rw [run_bind_ok h]
    exact htrans hs (hf a t)
  | (.error e, t) =>
    rw [h] at hs
    rw [run_bind_error h]
    exact hs

end Action

namespace Port

variable {σ : Type} [Link σ] {p q t : Port σ} {frame : List UInt8}

omit [Link σ] in
theorem run_onLink {α : Type} {x : Action σ α} {o : Outcome α} {l : σ} (h : x.run p.link = (o, l)) :
    (onLink x).run p = (o, { p with link := l }) := by
  simp only [Action.run] at h
  simp only [Action.run, onLink, Action.on, h]

/-- Hands a frame to a link, as a whole or byte by byte, without the pause after it. -/
def handOver (pause : Nat) (frame : List UInt8) : Action σ Unit :=
  if pause = 0 then Link.send frame else sendApart pause frame

/-- The pause after a frame, if there is one. -/
def pauseAfter (pause : Nat) : Action (Port σ) Unit :=
  if pause ≠ 0 then onLink (Link.sleep pause) else pure ()

/-- A write hands the frame over and makes the pause after it. -/
theorem run_write : (write frame).run p =
    (onLink (handOver p.pacing.writeDelay frame) >>= fun _ =>
      pauseAfter p.pacing.postWriteDelay).run p := by
  have hcurrent : Action.current.run p = (.ok p, p) := rfl
  rw [write, Action.run_bind_ok hcurrent]
  unfold handOver
  dsimp only
  split
  · rfl
  · rfl

/-- The port is the same but for its link, which is related to the one before. -/
def Through (R : σ → σ → Prop) (p q : Port σ) : Prop :=
  q = { p with link := q.link } ∧ R p.link q.link

section

variable {R : σ → σ → Prop}

omit [Link σ] in
theorem through_trans (htrans : ∀ {l m n}, R l m → R m n → R l n) (h : Through R p q)
    (h' : Through R q t) : Through R p t := by
  obtain ⟨hq, hpq⟩ := h
  obtain ⟨ht, hqt⟩ := h'
  rw [hq] at ht
  exact ⟨ht, htrans hpq hqt⟩

omit [Link σ] in
theorem onLink_leads {α : Type} {x : Action σ α} (hx : x.Leads R) : (onLink x).Leads (Through R) :=
  fun p => ⟨rfl, hx p.link⟩

theorem sendApart_leads (hrefl : ∀ l, R l l) (htrans : ∀ {l m n}, R l m → R m n → R l n)
    (hsend : ∀ bytes, (Link.send bytes : Action σ Unit).Leads R)
    (hsleep : ∀ ms, (Link.sleep ms : Action σ Unit).Leads R) {pause : Nat} :
    (sendApart pause frame : Action σ Unit).Leads R := by
  induction frame with
  | nil => exact hrefl
  | cons b rest ih =>
    cases rest with
    | nil => exact hsend [b]
    | cons => exact .bind htrans (hsend [b]) fun _ => .bind htrans (hsleep pause) fun _ => ih

theorem write_leads (hrefl : ∀ l, R l l) (htrans : ∀ {l m n}, R l m → R m n → R l n)
    (hsend : ∀ bytes, (Link.send bytes : Action σ Unit).Leads R)
    (hsleep : ∀ ms, (Link.sleep ms : Action σ Unit).Leads R) :
    (write frame : Action (Port σ) Unit).Leads (Through R) := by
  have hhand : ∀ pause, (handOver pause frame : Action σ Unit).Leads R := by
    intro pause
    unfold handOver
    split
    · exact hsend frame
    · exact sendApart_leads hrefl htrans hsend hsleep
  have hpause : ∀ pause, (pauseAfter pause : Action (Port σ) Unit).Leads (Through R) := by
    intro pause
    unfold pauseAfter
    split
    · exact onLink_leads (hsleep pause)
    · exact fun p => ⟨rfl, hrefl p.link⟩
  have htrans' : ∀ {p q t : Port σ}, Through R p q → Through R q t → Through R p t :=
    through_trans htrans
  intro p
  have hboth : (onLink (handOver p.pacing.writeDelay frame) >>= fun _ =>
      pauseAfter p.pacing.postWriteDelay : Action (Port σ) Unit).Leads (Through R) :=
    .bind htrans' (onLink_leads (hhand _)) fun _ => hpause _
  rw [run_write]
  exact hboth p

end

theorem pending_write : ((write frame).run p).2.pending = p.pending := by
  have h : Through (fun _ _ => True) p ((write frame).run p).2 :=
    write_leads (fun _ => trivial) (fun _ _ => trivial) (fun _ _ => trivial) (fun _ _ => trivial) p
  rw [h.1]

theorem pending_of_flushed {o : Outcome Unit} (h : flush.run p = (o, q)) : q.pending = [] := by
  have hflush : (flush.run p).2.pending = [] := rfl
  rw [h] at hflush
  exact hflush

theorem run_send_ok : (send frame).run p = (.ok (), t) ↔
    ∃ q, flush.run p = (.ok (), q) ∧ (write frame).run q = (.ok (), t) := by
  rw [send, Action.run_bind_eq_ok]
  exact ⟨fun ⟨(), q, h⟩ => ⟨q, h⟩, fun ⟨q, h⟩ => ⟨(), q, h⟩⟩

/-- Once a frame is out, nothing is pending. -/
theorem pending_send (h : (send frame).run p = (.ok (), t)) : t.pending = [] := by
  obtain ⟨q, hflush, hwrite⟩ := run_send_ok.1 h
  have ht : ((write frame).run q).2.pending = q.pending := pending_write
  rw [hwrite, pending_of_flushed hflush] at ht
  exact ht

end Port

end RigControl

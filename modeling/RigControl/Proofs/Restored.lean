/-
Settings that are put back. A newer Yaesu rig is asked at the start how its messages of its own are set,
and what it says is sent to it again at the end. No other operation touches what was said, whatever comes
of it. But the setting is read from up to two digits and sent in one: one above 9 cannot be sent, and then
the end fails with the link still up.
-/
import RigControl.Models.Yaesu
import RigControl.Proofs.Correlation
import RigControl.Proofs.NumberCommands
import RigControl.Proofs.Sending
import RigControl.Proofs.Simulated

namespace RigControl

/-- The operations between the start and the end of a session. -/
def Operation.Inner {α : Type} : Operation α → Prop
  | start | close => False
  | _ => True

variable {σ α : Type} {d : Descriptor} {config : Config} {k : Tracking} {v : Vfo}

/-! ## The setting -/

namespace Newcat

open Outcome

variable {γ : Type} {part : Tracking → γ} {setting : UInt8} {r : Request}

/-- The rig has named a setting at the start. -/
def Found (setting : UInt8) (h : List Event) : Prop :=
  ∃ body asked rest, Reported "AI" body asked ∧ parseIndex body = .ok setting ∧ h = asked ++ rest

theorem start_settles : start.Settles (fun _ => True) k fun h _ k' =>
    ∃ setting, Found setting h ∧ k'.savedAutoInfo = some setting := by
  refine .bind (ask_reported rfl) fun asked body k' hasked => ?_
  refine .lift_bind trivial fun setting hsetting => .lift_bind trivial fun r _ => ?_
  refine .tell_bind trivial fun _ => .known_bind (.learn ?_)
  exact ⟨setting, ⟨body, asked, _, hasked, hsetting, rfl⟩, rfl⟩

/-- **A setting of one digit can be sent**, and what is sent reads as the setting. -/
theorem setAutoInfo_of_lt (h : setting.toNat < 10) : ∃ r body, setAutoInfo setting = .ok r ∧
    r.reply = .none ∧ r.frame = Text.utf8 ("AI".toList ++ body ++ [';']) ∧
    parseIndex body = .ok setting :=
  ⟨_, _, command_num_eq_ok.2 ⟨⟨Nat.one_pos, h⟩, rfl⟩, rfl, rfl, parseIndex_zeroPadded h⟩

/-- A larger one has no room in the command. -/
theorem setAutoInfo_of_le (h : 10 ≤ setting.toNat) : setAutoInfo setting =
    .error (.invalidParameter s!"{setting.toNat} does not fit in 1 decimal digits") := by
  have hmessage : s!"{setting.toNat} does not fit in {1} decimal digits" =
      s!"{setting.toNat} does not fit in 1 decimal digits" := by
    simp only [String.append_assoc]
    rfl
  have hfield : Text.decimalField setting.toNat 1 =
      .error (.invalidParameter s!"{setting.toNat} does not fit in {1} decimal digits") :=
    Text.decimalField_of_le h
  rw [hmessage] at hfield
  rw [setAutoInfo, command, AsciiFrame.build, AsciiFrame.fieldsBytes, AsciiFrame.fieldBytes, hfield]
  rfl

/-! ## Between start and end -/

theorem ask_keeps {mnemonic : String} : (ask mnemonic r).Keeps part :=
  .bind .ask fun _ => .lift

theorem getLevel_keeps {l : Level} : (getLevel d l).Keeps part := by
  refine .bind .lift fun _ => ?_
  split
  · exact .bind ask_keeps fun _ => .bind .lift fun _ => .bind .lift fun _ => .lift
  · exact .bind ask_keeps fun _ => .bind .lift fun _ => .bind .lift fun _ => .lift
  · exact .bind ask_keeps fun _ => .bind .lift fun _ => .lift
  · refine .bind ask_keeps fun _ => .bind .lift fun _ => ?_
    split
    · exact .bind .lift fun _ => .lift
    · exact .lift
  · exact .lift

/-- No operation between start and end changes more than the selected VFO. -/
theorem respond_keeps (hpart : ∀ k v, part { k with vfo := v } = part k) (op : Operation α)
    (hop : op.Inner) : (respond d config op).Keeps part := by
  cases op with
  | start | close => exact hop.elim
  | getFrequency v =>
    refine .bind .lift fun _ => .bind .known fun _ => .bind .lift fun _ => .bind .lift fun _ => ?_
    exact .bind ask_keeps fun _ => .lift
  | setFrequency v hz =>
    refine .bind .lift fun _ => .bind .known fun _ => .bind .lift fun _ => ?_
    exact .bind .lift fun _ => .tell
  | getMode v =>
    refine .bind .lift fun _ => .bind .known fun _ => .bind .lift fun _ => .bind .lift fun _ => ?_
    exact .bind ask_keeps fun _ => .bind .lift fun _ => .lift
  | setMode v m width =>
    refine .bind .lift fun _ => .bind .lift fun _ => .bind (.bind .lift fun _ => .lift) fun _ => ?_
    exact .bind .known fun _ => .bind .lift fun _ => .tell
  | getVfo =>
    exact .bind ask_keeps fun _ => .bind .lift fun _ => .bind (.selected hpart) fun _ => .lift
  | setVfo v =>
    refine .bind .lift fun _ => .bind .known fun _ => .bind .lift fun _ => ?_
    exact .bind .tell fun _ => .selected hpart
  | getPtt v => exact .bind ask_keeps fun _ => .lift
  | setPtt v on => exact .bind .lift fun _ => .tell
  | getSplit v => exact .bind ask_keeps fun _ => .lift
  | setSplit v on => exact .bind .lift fun _ => .tell
  | getLevel v l => exact getLevel_keeps
  | setLevel v l value => exact .bind .lift fun _ => .bind .lift fun _ => .tell
  | _ => exact .lift

/-! ## The end -/

/-- What is left of the end once it is known what was saved. -/
def restore (config : Config) (saved : Option UInt8) : Dialogue Unit := do
  if config.restoreOnClose then
    if let some setting := saved then .tell (← setAutoInfo setting)
  .hangUp (pure ())

theorem run_close [Link σ] {s : Session σ} : (close config).run.run s =
    (restore config s.known.savedAutoInfo).run.run { s with known.savedAutoInfo := none } := rfl

theorem restore_off {saved : Option UInt8} (hc : config.restoreOnClose = false) :
    restore config saved = .hangUp (pure ()) := by
  unfold restore
  rw [hc]
  rfl

theorem restore_ok (hc : config.restoreOnClose = true) (hr : setAutoInfo setting = .ok r) :
    restore config (some setting) = .exchange r fun _ => .hangUp (pure ()) := by
  unfold restore
  rw [hc, if_pos rfl]
  dsimp only
  rw [hr]
  rfl

theorem restore_error {e : Error} (hc : config.restoreOnClose = true)
    (hr : setAutoInfo setting = .error e) : restore config (some setting) = .fail e := by
  unfold restore
  rw [hc, if_pos rfl]
  dsimp only
  rw [hr]
  rfl

section

variable [Link σ] {up : σ → Prop} (hup : Link.Willing up) {s : Session (Recorded σ)}
  (hs : up s.engine.port.link.link)
include hup hs

theorem run_restore_ok (hc : config.restoreOnClose = true) (hlt : setting.toNat < 10) :
    ∃ t body, parseIndex body = .ok setting ∧
      (restore config (some setting)).run.run s = (.ok (), t) ∧ t.isConnected = false ∧
      t.engine.port.link.sent =
        s.engine.port.link.sent ++ Text.utf8 ("AI".toList ++ body ++ [';']) := by
  obtain ⟨r, body, hr, hreply, hframe, hparsed⟩ := setAutoInfo_of_lt hlt
  obtain ⟨e, hsend, hstill, hsent⟩ := Session.run_transact hup hreply hs
  obtain ⟨t, hend, hdown, hquiet⟩ := Session.run_hangUp hup (s := { s with engine := e }) hstill
  refine ⟨t, body, hparsed, ?_, hdown, ?_⟩
  · rw [restore_ok hc hr, Dialogue.run_exchange_ok hsend, hend]
  · rw [hquiet, hsent, hframe]

end

/-- A rig that gives its setting in these characters, and is silent otherwise. -/
def reporting (body : List Char) : Device Unit where
  isWhole bytes := bytes.getLast? == some AsciiFrame.semicolon.terminator
  next s _ := s
  answer _ frame :=
    if frame = readAutoInfo.frame then Text.utf8 ("AI".toList ++ body ++ [';']) else []

end Newcat

/-- A simulated rig takes whatever it is given. -/
theorem Simulated.willing {S : Type} : Link.Willing fun l : Simulated S => l.connected = true where
  connected _ hl := hl
  send bytes l hl := by
    refine ⟨bytes.foldl take l, run_send hl bytes, ?_⟩
    have hkept : ∀ m : Simulated S, (bytes.foldl take m).connected = m.connected := by
      induction bytes with
      | nil => exact fun _ => rfl
      | cons b rest ih => exact fun m => (ih (m.take b)).trans (take_frame m b).2
    rw [hkept, hl]
  clearInput l hl := ⟨{ l with unread := [] }, if_pos hl, hl⟩
  sleep _ l hl := ⟨l, rfl, hl⟩
  close l _ := ⟨{ l with connected := false, unread := [] }, rfl, rfl⟩

namespace Rig

variable [Link σ]

/-- The states of a session that has not been ended or started again. In between, the link may change. -/
inductive Serves (r : Rig σ) : Rig σ → Prop
  | refl : Serves r r
  | perform {s : Rig σ} {α : Type} (op : Operation α) (hop : op.Inner) :
      Serves r s → Serves r ((Rig.perform op).run s).2
  | relink {s : Rig σ} (l : σ) : Serves r s → Serves r (s.withLink l)

variable {r s : Rig σ}

theorem Serves.reaches (h : r.Serves s) : r.Reaches s := by
  induction h with
  | refl => exact .refl
  | perform op _ _ ih => exact .perform op ih
  | relink l _ ih => exact .relink l ih

/-- What no operation in between changes stays through all of them. -/
theorem Serves.keeps {γ : Type} {part : Tracking → γ} (hr : r.backend = .newcat)
    (hpart : ∀ k v, part { k with vfo := v } = part k) (h : r.Serves s) :
    part s.session.known = part r.session.known := by
  -- The protocol is the same after every operation, so that each step is one of the same family.
  induction h with
  | refl => rfl
  | @perform s _ op hop hs ih =>
    have hbackend : s.backend = .newcat := hs.reaches.frame.1.trans hr
    have hkeep : (s.dialogue op).Keeps part := by
      rw [dialogue, hbackend]
      exact Newcat.respond_keeps hpart op hop
    have hstep := perform_wp (hkeep s.session.known)
    exact hstep.trans ih
  | relink l _ ih => exact ih

theorem run_dialogue {op : Operation α} {o : Outcome α} {t : Rig σ}
    (h : (Rig.perform op).run s = (o, t)) : (s.dialogue op).run.run s.session = (o, t.session) := by
  cases h
  rfl

/-- All bytes that the rig was sent. -/
def sent (r : Rig (Recorded σ)) : List UInt8 := r.session.engine.port.link.sent

section

variable {s t u w : Rig (Recorded σ)} {o : Outcome Unit} {up : σ → Prop}

/-- The setting that was found is still known at the end. -/
theorem Serves.saved (hs : s.backend = .newcat) (hopen : (Rig.perform .start).run s = (.ok (), t))
    (h : t.Serves u) : u.backend = .newcat ∧ u.session.config = s.session.config ∧
      ∃ setting, Newcat.Found setting (s.history .start) ∧
        u.session.known.savedAutoInfo = some setting := by
  have ht : s.Reaches t := by
    have hstep : s.Reaches ((Rig.perform .start).run s).2 := .perform .start .refl
    rwa [hopen] at hstep
  have hstart : s.dialogue .start = Newcat.start := by
    rw [dialogue, hs]
    rfl
  obtain ⟨setting, hfound, hsaved⟩ :=
    (perform_settles (hstart ▸ Newcat.start_settles) hopen).2 () rfl
  have htbackend : t.backend = .newcat := ht.frame.1.trans hs
  have hkept : u.session.known.savedAutoInfo = t.session.known.savedAutoInfo :=
    h.keeps htbackend fun _ _ => rfl
  obtain ⟨hbackend, -, hconfig⟩ := h.reaches.frame
  exact ⟨hbackend.trans htbackend, hconfig.trans ht.frame.2.2, setting, hfound, hkept.trans hsaved⟩

/-- **The setting is put back.** Over a link that takes what it is given, a session that has been opened
ends with the link down, and the rig has been sent the setting that it had named, in one command, or
nothing if that is not wanted. But a setting above 9 is refused, and then the link stays up. -/
theorem close_restores (hup : Link.Willing up) (hs : s.backend = .newcat)
    (hopen : (perform .start).run s = (.ok (), t)) (h : t.Serves u)
    (hu : up u.session.engine.port.link.link) (hclose : (perform .close).run u = (o, w)) :
    ∃ setting, Newcat.Found setting (s.history .start) ∧
      u.session.known.savedAutoInfo = some setting ∧
      (s.session.config.restoreOnClose = false →
        o = .ok () ∧ w.session.isConnected = false ∧ w.sent = u.sent) ∧
      (s.session.config.restoreOnClose = true → setting.toNat < 10 →
        ∃ body, Newcat.parseIndex body = .ok setting ∧ o = .ok () ∧
          w.session.isConnected = false ∧
          w.sent = u.sent ++ Text.utf8 ("AI".toList ++ body ++ [';'])) ∧
      (s.session.config.restoreOnClose = true → 10 ≤ setting.toNat →
        o = .error (.invalidParameter s!"{setting.toNat} does not fit in 1 decimal digits") ∧
          w.session.isConnected = true ∧ w.sent = u.sent) := by
  obtain ⟨hbackend, hconfig, setting, hfound, hsaved⟩ := Serves.saved hs hopen h
  refine ⟨setting, hfound, hsaved, ?_⟩
  have hdialogue : u.dialogue .close = Newcat.close s.session.config := by
    rw [dialogue, hbackend, hconfig]
    rfl
  -- The setting is forgotten before anything else, so that only what is left of the end counts.
  let ended : Session (Recorded σ) := { u.session with known.savedAutoInfo := none }
  have hended : (Newcat.restore s.session.config (some setting)).run.run ended = (o, w.session) := by
    rw [← run_dialogue hclose, hdialogue, Newcat.run_close, hsaved]
  refine ⟨?_, ?_, ?_⟩
  · intro hc
    obtain ⟨closed, hrun, hdown, hsent⟩ := Session.run_hangUp hup (s := ended) hu
    rw [Newcat.restore_off hc, hrun] at hended
    obtain ⟨ho, hw⟩ := Prod.mk.inj hended
    exact ⟨ho.symm, hw ▸ hdown, by rw [sent, ← hw]; exact hsent⟩
  · intro hc hlt
    obtain ⟨closed, body, hparsed, hrun, hdown, hsent⟩ :=
      Newcat.run_restore_ok hup (s := ended) hu hc hlt
    rw [hrun] at hended
    obtain ⟨ho, hw⟩ := Prod.mk.inj hended
    exact ⟨body, hparsed, ho.symm, hw ▸ hdown, by rw [sent, ← hw]; exact hsent⟩
  · intro hc hle
    rw [Newcat.restore_error hc (Newcat.setAutoInfo_of_le hle)] at hended
    obtain ⟨ho, hw⟩ := Prod.mk.inj hended
    have hconnected : u.session.isConnected = true := hup.connected _ hu
    exact ⟨ho.symm, hw ▸ hconnected, by rw [sent, ← hw]; rfl⟩

end

/-- An FT-DX101D gives its setting as 07, transmits on its other receiver meanwhile, and is sent a 7. -/
theorem close_restores_ft_dx101d :
    let link : Recorded (Simulated Unit) :=
      { link := { device := Newcat.reporting ['0', '7'], rig := () } }
    let s : Rig (Recorded (Simulated Unit)) := ⟨.newcat, .start Models.ftDx101d {} link⟩
    let opened := (perform .start).run s
    let split := (perform (.setSplit .current true)).run opened.2
    let closed := (perform .close).run split.2
    opened.1 = .ok () ∧ closed.1 = .ok () ∧ closed.2.session.isConnected = false ∧
      closed.2.sent = Text.utf8 "AI;AI0;FT3;AI7;".toList := by
  intro link s opened split closed
  have hopen : opened.1 = .ok () := by decide +kernel
  have hrun : (perform .start).run s = (.ok (), opened.2) := by rw [← hopen]
  have hserves : opened.2.Serves split.2 := .perform (.setSplit .current true) trivial .refl
  have hup : split.2.session.engine.port.link.link.connected = true := by decide +kernel
  obtain ⟨setting, -, hsaved, -, hshort, -⟩ :=
    close_restores Simulated.willing rfl hrun hserves hup (Prod.eta closed).symm
  have hseven : split.2.session.known.savedAutoInfo = some 7 := by decide +kernel
  obtain rfl : setting = 7 := Option.some.inj (hsaved.symm.trans hseven)
  obtain ⟨body, -, hok, hdown, -⟩ := hshort rfl (by decide)
  exact ⟨hopen, hok, hdown, by decide +kernel⟩

/-- An FT-DX101D that gives its setting as 10 cannot be closed: nothing is sent, and the link stays up. -/
theorem close_stuck_above_nine :
    let up : Simulated Unit → Prop := fun l => l.connected = true
    let link : Recorded (Simulated Unit) :=
      { link := { device := Newcat.reporting ['1', '0'], rig := () } }
    let s : Rig (Recorded (Simulated Unit)) := ⟨.newcat, .start Models.ftDx101d {} link⟩
    let opened := (perform .start).run s
    let closed := (perform .close).run opened.2
    Link.Willing up ∧ up opened.2.session.engine.port.link.link ∧
      s.session.config.restoreOnClose = true ∧ opened.1 = .ok () ∧
      Newcat.Found 10 (s.history .start) ∧
      closed.1 = .error (.invalidParameter "10 does not fit in 1 decimal digits") ∧
      closed.2.session.isConnected = true ∧ closed.2.sent = opened.2.sent := by
  intro up link s opened closed
  have hopen : opened.1 = .ok () := by decide +kernel
  have hclosed : closed.1 = .error (.invalidParameter "10 does not fit in 1 decimal digits") := by
    decide +kernel
  have hup : opened.2.session.engine.port.link.link.connected = true := by decide +kernel
  have hasked : Newcat.Reported "AI" ['1', '0'] ((s.history .start).take 1) :=
    ⟨s.session.known, Newcat.readAutoInfo, rfl, by decide +kernel⟩
  have hfound : Newcat.Found 10 (s.history .start) :=
    ⟨_, _, _, hasked, by decide +kernel, (List.take_append_drop 1 _).symm⟩
  exact ⟨Simulated.willing, hup, rfl, hopen, hfound, hclosed, by decide +kernel, by decide +kernel⟩

end Rig

end RigControl

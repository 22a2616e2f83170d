/-
The memory channels of the FT-840. The session keeps the channel that was seen or selected last, and memory
mode is called up with that one. A channel that a caller selects is checked, but one that the rig names is
taken as it is.

So every channel that the session keeps or recalls is vouched for, by the model or by an answer of the rig
before that (`channels_vouched`). While the rig names no channel but those of the model, none but those are
kept or recalled. But it can name 256 of them, and one that the model lacks is recalled all the same
(`channels_vouched_named`).
-/
import RigControl.Proofs.Mirror.Ft840
import RigControl.Proofs.Remembered

namespace RigControl

/-! ## Logs -/

namespace Rig

variable {σ : Type} [Link σ] {r s : Rig σ} {past : List Event}

/-- The state after some operations, with all that has passed in them. Between two of them, the link may
change. -/
inductive Passes (r : Rig σ) : List Event → Rig σ → Prop
  | refl : Passes r [] r
  | perform {past : List Event} {s : Rig σ} {α : Type} (op : Operation α) :
      Passes r past s → Passes r (past ++ s.history op) ((Rig.perform op).run s).2
  | relink {past : List Event} {s : Rig σ} (l : σ) : Passes r past s → Passes r past (s.withLink l)

theorem Passes.reaches (h : r.Passes past s) : r.Reaches s := by
  induction h with
  | refl => exact .refl
  | perform op _ ih => exact .perform op ih
  | relink l _ ih => exact .relink l ih

/-- What every operation keeps of the log and of what is known holds all along. -/
theorem Passes.invariant {P : List Event → Tracking → Prop}
    (keeps : ∀ {α : Type} (op : Operation α) (past : List Event) (k : Tracking), P past k →
      (r.dialogue op).wp (fun h _ k' => P (past ++ h) k') k)
    (h : r.Passes past s) (hr : P [] r.session.known) : P past s.session.known := by
  induction h with
  | refl => exact hr
  | @perform past s _ op hs ih =>
    have hkeep := keeps op past _ ih
    rw [← hs.reaches.dialogue_eq op] at hkeep
    exact perform_wp hkeep
  | relink l _ ih => exact ih

end Rig

namespace Ft840

variable {frame : List UInt8} {n : UInt8} {channel : Nat}

/-- The channel that a frame recalls. -/
def recalled? : List UInt8 → Option Nat
  | [_, _, _, channel, code] => if code = 0x02 then some channel.toNat else none
  | _ => none

theorem recalled?_recallMemory (h : recallMemory n = .ok frame) : recalled? frame = some n.toNat := by
  have hframe : recallMemory n = .ok [0, 0, 0, n, 0x02] := rfl
  rw [hframe] at h
  cases h
  rfl

/-- A frame that does not call up memory mode recalls nothing. -/
theorem recalled?_other (h : Display.of? frame ≠ some .memory) : recalled? frame = none := by
  unfold recalled?
  split
  · rename_i a b e channel code
    by_cases hcode : code = 0x02
    · have hmemory : Display.of? [a, b, e, channel, code] = some .memory := by
        simp [Display.of?, hcode]
      exact absurd hmemory h
    · exact if_neg hcode
  · rfl

theorem channelByte_ok (h : channelByte channel = .ok n) : n.toNat = channel := by
  unfold channelByte at h
  split at h
  · cases h
    rw [Nat.toUInt8, UInt8.toNat_ofNat']
    omega
  · cases h

end Ft840

/-- The channel that is recalled with a request. -/
def Event.recalled? : Event → Option Nat
  | exchange _ q _ => Ft840.recalled? q.frame
  | hangUp _ => none

namespace Ft840

variable {α β : Type} {d : Descriptor} {past : List Event} {k k' : Tracking} {c : Command} {v : Vfo}
  {frame : List UInt8} {n : UInt8} {channel : Nat}

/-- The model has the channel, or the rig has named it. -/
def Vouched (d : Descriptor) (past : List Event) (channel : Nat) : Prop :=
  d.checkMemoryChannel channel = .ok () ∨ ∃ x ∈ past, x.channel? = some channel

theorem Vouched.append {more : List Event} (h : Vouched d past channel) :
    Vouched d (past ++ more) channel := by
  rcases h with h | ⟨x, hx, hchannel⟩
  · exact .inl h
  · exact .inr ⟨x, List.mem_append_left more hx, hchannel⟩

/-- The channel that is known is vouched for by what has passed, and each channel that was recalled by what
had passed before. -/
structure Ledger (d : Descriptor) (past : List Event) (k : Tracking) : Prop where
  known : ∀ channel, k.channel = some channel → Vouched d past channel
  recalled : ∀ front x rest, past = front ++ x :: rest →
    ∀ channel, x.recalled? = some channel → Vouched d front channel

namespace Ledger

theorem nil (hk : k.channel = none) : Ledger d [] k where
  known channel hchannel := by
    rw [hk] at hchannel
    cases hchannel
  recalled front x rest h := by simp at h

/-- A further event takes a channel that is vouched for by then. -/
theorem snoc {x : Event} (h : Ledger d past k)
    (hx : ∀ channel, x.recalled? = some channel → Vouched d past channel) :
    Ledger d (past ++ [x]) k where
  known channel hchannel := (h.known channel hchannel).append
  recalled front y rest hsplit := by
    rcases List.eq_nil_or_concat rest with rfl | ⟨rest, z, rfl⟩
    · obtain ⟨rfl, hlast⟩ := List.append_inj' hsplit rfl
      cases hlast
      exact hx
    · rw [List.concat_eq_append, ← List.cons_append, ← List.append_assoc] at hsplit
      exact h.recalled front y rest (List.append_inj' hsplit rfl).1

theorem learn (h : Ledger d past k)
    (hk' : ∀ channel, k'.channel = some channel → Vouched d past channel) : Ledger d past k' :=
  ⟨hk', h.recalled⟩

end Ledger

/-- Whatever comes of it, the conversation keeps the ledger, and it answers as the condition says. -/
def Minds (d : Descriptor) (past : List Event) (k : Tracking) (x : Dialogue α)
    (R : List Event → α → Prop) : Prop :=
  Ledger d past k →
    x.wp (fun h o k' => Ledger d (past ++ h) k' ∧ ∀ a, o = .ok a → R (past ++ h) a) k

namespace Minds

variable {x : Dialogue α} {f : α → Dialogue β} {o : Outcome α} {r : Request}
  {R : List Event → α → Prop} {R' : List Event → β → Prop}

theorem pure {a : α} (ha : R past a) : Minds d past k (pure a) R := by
  intro h
  refine ⟨(List.append_nil past).symm ▸ h, fun b hb => ?_⟩
  cases hb
  exact (List.append_nil past).symm ▸ ha

theorem lift (hR : ∀ a, o = .ok a → R past a) : Minds d past k (liftM o) R := by
  intro h
  refine ⟨(List.append_nil past).symm ▸ h, fun a ha => ?_⟩
  exact (List.append_nil past).symm ▸ hR a ha

theorem fail {e : Error} : Minds d past k (.fail e : Dialogue α) R :=
  lift (o := .error e) nofun

theorem lift_bind (hf : ∀ a, o = .ok a → Minds d past k (f a) R') :
    Minds d past k ((liftM o : Dialogue α) >>= f) R' := by
  cases o with
  | ok a => exact hf a rfl
  | error e => exact fail (e := e)

theorem known_bind {f : Tracking → Dialogue β} (hf : Minds d past k (f k) R') :
    Minds d past k (.known >>= f) R' := hf

theorem learn_bind {f : Unit → Dialogue β}
    (hk' : Ledger d past k → ∀ channel, k'.channel = some channel → Vouched d past channel)
    (hf : Minds d past k' (f ()) R') : Minds d past k (.learn k' >>= f) R' :=
  fun h => hf (h.learn (hk' h))

theorem imp {R₂ : List Event → α → Prop} (hx : Minds d past k x R)
    (hR : ∀ past a, R past a → R₂ past a) : Minds d past k x R₂ :=
  fun h => Dialogue.wp_mono (fun _ _ _ hend => ⟨hend.1, fun a ha => hR _ a (hend.2 a ha)⟩) (hx h)

theorem any (hx : Minds d past k x R) : Minds d past k x fun _ _ => True :=
  hx.imp fun _ _ _ => trivial

theorem bind (hx : Minds d past k x R)
    (hf : ∀ a past k, R past a → Minds d past k (f a) R') : Minds d past k (x >>= f) R' := by
  intro h
  rw [Dialogue.wp_bind]
  refine Dialogue.wp_mono (fun h₁ o k' hend => ?_) (hx h)
  obtain ⟨hledger, hR⟩ := hend
  cases o with
  | ok a =>
    refine Dialogue.wp_mono (fun h₂ o k'' hrest => ?_) (hf a _ k' (hR a rfl) hledger)
    rwa [List.append_assoc] at hrest
  | error e => exact ⟨hledger, nofun⟩

/-- A request is answered in any way or not at all. -/
theorem ask_bind {f : List UInt8 → Dialogue β}
    (hr : Ledger d past k → ∀ channel, recalled? r.frame = some channel → Vouched d past channel)
    (hf : ∀ reply, Minds d (past ++ [.exchange k r (.ok reply)]) k (f reply) R') :
    Minds d past k (.ask r >>= f) R' := by
  intro h
  refine ⟨fun e => ⟨h.snoc (hr h), nofun⟩, fun reply => ?_⟩
  refine Dialogue.wp_mono (fun h₂ o k'' hrest => ?_) (hf reply (h.snoc (hr h)))
  rwa [List.append_assoc] at hrest

theorem tell
    (hr : Ledger d past k → ∀ channel, recalled? r.frame = some channel → Vouched d past channel) :
    Minds d past k (.tell r) fun _ _ => True :=
  fun h => ⟨fun _ => ⟨h.snoc (hr h), nofun⟩, fun _ => ⟨h.snoc (hr h), fun _ _ => trivial⟩⟩

theorem hangUp (hx : ∀ past, Minds d past k x R) : Minds d past k (.hangUp x) R := by
  intro h
  have hend : ∀ o, Ledger d (past ++ [.hangUp o]) k := fun o => h.snoc nofun
  refine ⟨fun e => ⟨hend _, nofun⟩, Dialogue.wp_mono (fun h₂ o k'' hrest => ?_) (hx _ (hend (.ok ())))⟩
  rwa [List.append_assoc] at hrest

/-- Selecting a VFO concerns no channel. -/
theorem selected : Minds d past k (.selected d v) fun _ _ => True := by
  refine known_bind (lift_bind fun k' hk' => ?_)
  obtain ⟨-, rfl⟩ := Tracking.select_ok.1 hk'
  exact learn_bind (fun h => h.known) (pure trivial)

theorem forM {l : List α} {f : α → Dialogue Unit}
    (hf : ∀ a ∈ l, ∀ past k, Minds d past k (f a) fun _ _ => True) :
    Minds d past k (l.forM f) fun _ _ => True := by
  induction l generalizing past k with
  | nil => exact pure trivial
  | cons a l ih =>
    refine bind (hf a List.mem_cons_self past k) fun _ past k _ => ?_
    exact ih fun a ha => hf a (List.mem_cons_of_mem _ ha)

end Minds

/-! ## Operations -/

theorem send_minds {operation : String} (h : c.Yields frame) (hc : c.display? ≠ some .memory) :
    Minds d past k (send operation frame) fun _ _ => True := by
  refine .tell fun _ channel hchannel => ?_
  have hnone : recalled? frame = none := recalled?_other (by rwa [h.display])
  have hsome : recalled? frame = some channel := hchannel
  rw [hnone] at hsome
  cases hsome

/-- A channel may be recalled if it is vouched for. -/
theorem recall_minds {operation : String} (h : recallMemory n = .ok frame)
    (hn : Ledger d past k → Vouched d past n.toNat) :
    Minds d past k (send operation frame) fun _ _ => True := by
  refine .tell fun hledger channel hchannel => ?_
  have hsome : recalled? frame = some channel := hchannel
  rw [recalled?_recallMemory h] at hsome
  cases hsome
  exact hn hledger

theorem command_minds {operation : String} (hc : c.display? ≠ some .memory) :
    Minds d past k (command operation c) fun _ _ => True :=
  .lift_bind fun _ h => send_minds (.inl h) hc

/-- A channel in a block that was read has been named by the rig. -/
theorem readBlock_minds (hc : c.display? ≠ some .memory) :
    Minds d past k (readBlock c) fun past block => c = .readMemoryChannel →
      ∀ channel, decodeMemoryChannel block = .ok channel → Vouched d past channel := by
  refine .lift_bind fun frame hframe => .ask_bind (fun _ channel hchannel => ?_) fun block => ?_
  · have hnone : recalled? frame = none :=
      recalled?_other (by rwa [Command.Yields.display (.inl hframe)])
    have hsome : recalled? frame = some channel := hchannel
    rw [hnone] at hsome
    cases hsome
  · refine .known_bind (.learn_bind (fun h => h.known) (.pure ?_))
    intro hc channel hchannel
    refine .inr ⟨_, List.mem_append_right past (List.mem_singleton_self _), ?_⟩
    simp [Event.channel?, ← hc, hframe, hchannel, Except.toOption]

theorem readChannel_minds : Minds d past k readChannel fun _ _ => True := by
  refine .bind (readBlock_minds (by decide)) fun block past k hblock => .lift_bind fun channel h => ?_
  refine .known_bind (.learn_bind (fun _ named hnamed => ?_) (.pure trivial))
  cases hnamed
  exact hblock rfl channel h

theorem readRecord_minds : Minds d past k (readRecord v) fun _ _ => True := by
  refine .lift_bind fun (c, l) h => .bind (readBlock_minds ?_) fun _ _ _ _ => .pure trivial
  rw [source_display h]
  nofun

theorem queryVfo_minds : Minds d past k (queryVfo d) fun _ _ => True := by
  have hreport : ∀ past k v, Minds d past k (do Dialogue.selected d v; return v : Dialogue Vfo)
      fun _ _ => True := fun past k v => .bind .selected fun _ _ _ _ => .pure trivial
  refine .bind (readBlock_minds (by decide)) fun block past k _ => ?_
  refine .lift_bind fun flags _ => .lift_bind fun v _ => ?_
  split
  · have hread : Minds d past k (discard readChannel) fun _ _ => True :=
      .bind readChannel_minds fun _ _ _ _ => .pure trivial
    exact .bind hread fun _ past k _ => hreport past k v
  · exact hreport past k v

section

variable (hd : d.checkMemoryChannel 1 = .ok ())
include hd

/-- Memory mode is called up with the channel that is known, or with the first one. -/
theorem selection_minds {operation : String} (h : selection k v = .ok frame) :
    Minds d past k (send operation frame) fun _ _ => True := by
  unfold selection at h
  split at h
  · exact send_minds (.inl h) (by decide)
  · exact send_minds (.inl h) (by decide)
  · obtain ⟨n, hn, h⟩ := Outcome.bind_eq_ok.1 h
    refine recall_minds h fun hledger => ?_
    rw [channelByte_ok hn]
    cases hknown : k.channel with
    | none => exact .inl hd
    | some channel => exact hledger.known channel hknown
  · cases h

theorem select_minds : Minds d past k (select d v) fun _ _ => True :=
  .known_bind <| .lift_bind fun _ _ => .lift_bind fun _ h =>
    .bind (selection_minds hd h) fun _ _ _ _ => .selected

theorem switchTo_minds : Minds d past k (switchTo d v) fun _ _ => True := by
  refine .known_bind ?_
  split
  · exact select_minds hd
  · exact .pure trivial

theorem setFrequencyOf_minds {region : Region} {hz : Nat} :
    Minds d past k (setFrequencyOf d region v hz) fun _ _ => True := by
  refine .lift_bind fun _ _ => .known_bind (.lift_bind fun _ _ => .lift_bind fun frame h => ?_)
  obtain ⟨digits, -, h⟩ := Outcome.bind_eq_ok.1 h
  have hyields : Command.setFrequency.Yields frame := .inr ⟨digits, [], h⟩
  exact .bind (switchTo_minds hd) fun _ _ _ _ => send_minds hyields (by decide)

theorem setModeOf_minds {region : Region} {m : Mode} {width : Option Passband} :
    Minds d past k (setModeOf d region v m width) fun _ _ => True := by
  refine .lift_bind fun _ _ => .lift_bind fun _ _ => .lift_bind fun narrow _ => ?_
  refine .lift_bind fun frame h => .known_bind ?_
  obtain ⟨code, -, h⟩ := Outcome.bind_eq_ok.1 h
  have hyields : Command.setMode.Yields frame := .inr ⟨[], [code], h⟩
  dsimp only
  split
  · exact .bind (select_minds hd) fun _ _ _ _ => send_minds hyields (by decide)
  · exact send_minds hyields (by decide)

theorem setPtt_minds {on : Bool} : Minds d past k (setPtt d v on) fun _ _ => True :=
  .lift_bind fun _ _ => .bind (switchTo_minds hd) fun _ _ _ _ =>
    command_minds (by cases on <;> decide)

theorem setRit_minds {offset : Int} : Minds d past k (setRit d v offset) fun _ _ => True := by
  refine .lift_bind fun _ _ => .lift_bind fun _ _ => .lift_bind fun frames hframes => ?_
  refine .bind (switchTo_minds hd) fun _ _ _ _ => .forM fun frame hframe _ _ => ?_
  exact send_minds (clarifierFrames_yields hframes hframe) (by decide)

end

theorem getFrequency_minds : Minds d past k (getFrequency d v) fun _ _ => True := by
  have hrecord : ∀ past k v, Minds d past k
      (readRecord v >>= fun record => liftM (decodeFrequency record.1 record.2)) fun _ _ => True :=
    fun past k v => .bind readRecord_minds fun _ _ _ _ => .lift fun _ _ => trivial
  refine .lift_bind fun _ _ => ?_
  split
  · exact .bind queryVfo_minds fun v past k _ => hrecord past k v
  · exact hrecord past k v

theorem getMode_minds : Minds d past k (getMode d v) fun _ _ => True := by
  refine .lift_bind fun _ _ => .known_bind (.bind readRecord_minds fun (_, _) _ _ _ => ?_)
  exact .lift_bind fun (_, _) _ => .pure trivial

theorem getSplit_minds : Minds d past k getSplit fun _ _ => True :=
  .bind (readBlock_minds (by decide)) fun _ _ _ _ => .lift_bind fun _ _ => .pure trivial

theorem getRit_minds : Minds d past k (getRit d v) fun _ _ => True := by
  refine .lift_bind fun _ _ => .known_bind (.bind readRecord_minds fun (_, _) _ _ _ => ?_)
  exact .lift fun _ _ => trivial

theorem getLevel_minds {l : Level} : Minds d past k (getLevel d l) fun _ _ => True := by
  refine .lift_bind fun _ _ => ?_
  split
  · exact .fail
  · refine .bind (readBlock_minds (by decide)) fun _ _ _ _ => .lift_bind fun _ _ => ?_
    exact .lift_bind fun _ _ => .pure trivial

theorem setFunc_minds {f : Func} {on : Bool} : Minds d past k (setFunc d f on) fun _ _ => True := by
  refine .lift_bind fun _ _ => ?_
  split
  · exact command_minds (by cases on <;> decide)
  · exact .fail

/-- What a caller selects is checked before it is recalled and kept. -/
theorem setMemory_minds : Minds d past k (setMemory d channel) fun _ _ => True := by
  refine .lift_bind fun _ hcheck => .lift_bind fun n hn => .lift_bind fun frame h => ?_
  have hvouched : Vouched d past n.toNat := by
    rw [channelByte_ok hn]
    exact .inl hcheck
  refine .bind (recall_minds h fun _ => hvouched) fun _ past k _ => .known_bind ?_
  refine .learn_bind (fun _ named hnamed => ?_) .selected
  cases hnamed
  exact .inl hcheck

theorem vfoOp_minds {o : VfoOp} : Minds d past k (vfoOp d o) fun _ _ => True := by
  refine .lift_bind fun _ _ => ?_
  split
  · exact command_minds (by decide)
  · exact .fail

theorem sendPacing_minds {value : UInt8} : Minds d past k (sendPacing value) fun _ _ => True :=
  .lift_bind fun _ h => send_minds (c := .pacing) (.inr ⟨[], [value], h⟩) (by decide)

/-- **Every operation keeps the ledger**, on a model that has the first channel. -/
theorem respond_minds {config : Config} (hd : d.checkMemoryChannel 1 = .ok ()) (op : Operation α) :
    Minds d past k (respond d config op) fun _ _ => True := by
  cases op with
  | start => exact .known_bind sendPacing_minds
  | getFrequency v => exact getFrequency_minds
  | setFrequency v hz => exact setFrequencyOf_minds hd
  | getMode v => exact getMode_minds
  | setMode v m width => exact setModeOf_minds hd
  | getVfo => exact queryVfo_minds
  | setVfo v => exact select_minds hd
  | setPtt v on => exact setPtt_minds hd
  | getSplit v => exact getSplit_minds
  | setSplit v on => exact command_minds (by cases on <;> decide)
  | getRit v => exact getRit_minds
  | setRit v offset => exact setRit_minds hd
  | getLevel v l => exact getLevel_minds
  | setFunc v f on => exact setFunc_minds
  | getMemory v => exact readChannel_minds
  | setMemory v channel => exact setMemory_minds
  | vfoOp v o => exact vfoOp_minds
  | setPacing value =>
    refine .bind sendPacing_minds fun _ past k _ => .known_bind ?_
    exact .learn_bind (fun h => h.known) (.pure trivial)
  | close => exact .hangUp fun _ => .pure trivial
  | _ => exact .fail

/-! ## Sessions -/

theorem checkMemoryChannel_ft840 :
    Models.ft840.checkMemoryChannel channel = .ok () ↔ 1 ≤ channel ∧ channel ≤ 100 := by
  have hmemory : Models.ft840.memory = some ⟨1, 100⟩ := rfl
  unfold Descriptor.checkMemoryChannel
  rw [hmemory]
  simp [ChannelRange.contains]

/-- Memory mode is called up with whatever channel is known, if a byte holds it. -/
theorem selectMemory_recalls (hk : k.channel = some channel) (hlt : channel < 256) :
    (select Models.ft840 .memory).wp (fun h _ _ => h.filterMap Event.recalled? = [channel]) k := by
  have hcheck : Models.ft840.checkVfo (k.resolve .memory) = .ok () := by
    show Models.ft840.checkVfo .memory = _
    decide
  have hselection : selection k (k.resolve .memory) = .ok [0, 0, 0, channel.toUInt8, 0x02] := by
    show (channelByte (k.channel.getD 1) >>= recallMemory) = _
    rw [hk]
    show (channelByte channel >>= recallMemory) = _
    rw [channelByte, if_pos hlt]
    rfl
  have hbyte : channel.toUInt8.toNat = channel := UInt8.toNat_ofNat_of_lt' hlt
  have hrecalled : ∀ {q : Request} {o : Outcome (List UInt8)},
      q.frame = [0, 0, 0, channel.toUInt8, 0x02] →
        [Event.exchange k q o].filterMap Event.recalled? = [channel] := by
    intro q o hq
    have hframe : (Event.exchange k q o).recalled? = some channel := by
      rw [Event.recalled?, hq]
      exact congrArg some hbyte
    rw [List.filterMap_cons, hframe]
    rfl
  rw [select, Dialogue.wp_bind, Dialogue.wp_known, Dialogue.Post.before_ok]
  simp only [hcheck, hselection]
  refine ⟨fun e => hrecalled rfl, fun reply => ?_⟩
  show (Dialogue.selected Models.ft840 (k.resolve .memory)).wp _ k
  rw [Dialogue.wp_selected]
  exact ⟨fun k' _ => hrecalled rfl, fun e _ => hrecalled rfl⟩

/-- **Every channel that is kept or recalled is vouched for**, after any operations with any arguments and
whatever the rig answers: it is one of the model, or the rig has named it before. So if the rig has named
none but those of the model, the session keeps none of the others, and recalls none. But any channel that the
rig names when it is asked for it is kept, and any that is kept is recalled if a byte holds it. -/
theorem channels_vouched {σ : Type} [Link σ] {link : σ} {config : Config} {e : Entry} {r s : Rig σ}
    (he : Registry.standard.find? "FT-840" = some e) (hc : e.create config link = .ok r)
    (h : r.Passes past s) :
    (∀ channel, s.session.known.channel = some channel → Vouched Models.ft840 past channel) ∧
    (∀ front x rest, past = front ++ x :: rest →
      ∀ channel, x.recalled? = some channel → Vouched Models.ft840 front channel) ∧
    ((∀ x ∈ past, ∀ channel, x.channel? = some channel →
        Models.ft840.checkMemoryChannel channel = .ok ()) →
      (∀ channel, s.session.known.channel = some channel →
        Models.ft840.checkMemoryChannel channel = .ok ()) ∧
      ∀ x ∈ past, ∀ channel, x.recalled? = some channel → 1 ≤ channel ∧ channel ≤ 100) ∧
    (∀ v channel, ((Rig.perform (.getMemory v)).run s).1 = .ok channel →
      ((Rig.perform (.getMemory v)).run s).2.session.known.channel = some channel) ∧
    ∀ channel, s.session.known.channel = some channel → channel < 256 →
      (s.history (.setVfo .memory)).filterMap Event.recalled? = [channel] := by
  rw [find_standard] at he
  cases he
  obtain rfl : (⟨.ft840, .start Models.ft840 config link⟩ : Rig σ) = r := Except.ok.inj hc
  have hfirst : Models.ft840.checkMemoryChannel 1 = .ok () := checkMemoryChannel_ft840.2 (by decide)
  have hledger : Ledger Models.ft840 past s.session.known := by
    refine h.invariant (fun op past k hk => ?_) (.nil rfl)
    exact Dialogue.wp_mono (fun _ _ _ hend => hend.1) (respond_minds hfirst op hk)
  have hdialogue : ∀ {α : Type} (op : Operation α),
      s.dialogue op = respond Models.ft840 config op := fun op => h.reaches.dialogue_eq op
  refine ⟨hledger.known, hledger.recalled, fun hnamed => ?_, fun v channel hok => ?_,
    fun channel hknown hlt => ?_⟩
  · have hchecked : ∀ {front channel}, (∀ x ∈ front, x ∈ past) → Vouched Models.ft840 front channel →
        Models.ft840.checkMemoryChannel channel = .ok () := by
      intro front channel hfront hvouched
      rcases hvouched with hmodel | ⟨x, hx, hchannel⟩
      · exact hmodel
      · exact hnamed x (hfront x hx) channel hchannel
    refine ⟨fun channel hknown => hchecked (fun _ hx => hx) (hledger.known channel hknown), ?_⟩
    intro x hx channel hrecalled
    obtain ⟨front, rest, hsplit⟩ := List.append_of_mem hx
    have hvouched := hledger.recalled front x rest hsplit channel hrecalled
    refine checkMemoryChannel_ft840.1 (hchecked (fun y hy => ?_) hvouched)
    rw [hsplit]
    exact List.mem_append_left _ hy
  · have hreads : (s.dialogue (.getMemory v)).Settles (·.memo = s.session.known.memo) s.session.known
        fun _ channel k => k.channel = some channel := by
      rw [hdialogue]
      refine (readChannel_settles rfl).imp fun h channel k hkept => ?_
      rw [← Tracking.memo_channel, hkept.1]
    exact (Rig.perform_settles hreads (Prod.eta _).symm).2 channel hok
  · have hrecalls : (s.dialogue (.setVfo .memory)).wp
        (fun h _ _ => h.filterMap Event.recalled? = [channel]) s.session.known := by
      rw [hdialogue]
      exact selectMemory_recalls hknown hlt
    exact Rig.perform_wp hrecalls

/-- The rig names channel 12, and memory mode is called up with it. -/
theorem channels_vouched_seen :
    let e : Entry := ⟨Models.ft840, .ft840⟩
    let link : ScriptedLink :=
      { script := [⟨[0, 0, 0, 1, 0x10], [11]⟩, ⟨[0, 0, 0, 12, 0x02], []⟩] }
    let r : Rig ScriptedLink := ⟨.ft840, .start Models.ft840 {} link⟩
    let s := ((Rig.perform (.getMemory .current)).run r).2
    let t := ((Rig.perform (.setVfo .memory)).run s).2
    let past := [] ++ r.history (.getMemory .current) ++ s.history (.setVfo .memory)
    Registry.standard.find? "FT-840" = some e ∧ e.create {} link = .ok r ∧ r.Passes past t ∧
      past.filterMap Event.recalled? = [12] ∧ t.session.known.channel = some 12 ∧
      Models.ft840.checkMemoryChannel 12 = .ok () := by
  intro e link r s t past
  have hc : e.create {} link = .ok r := rfl
  have ht : r.Passes past t := .perform _ (.perform _ .refl)
  have hnames : past.filterMap Event.channel? = [12] := by decide +kernel
  have hkept : t.session.known.channel = some 12 := by decide +kernel
  have hnamed : ∀ x ∈ past, ∀ channel, x.channel? = some channel →
      Models.ft840.checkMemoryChannel channel = .ok () := by
    intro x hx channel hchannel
    have hmem : channel ∈ past.filterMap Event.channel? := List.mem_filterMap.2 ⟨x, hx, hchannel⟩
    rw [hnames, List.mem_singleton] at hmem
    rw [hmem]
    exact checkMemoryChannel_ft840.2 (by decide)
  have hsafe := (channels_vouched find_standard hc ht).2.2.1 hnamed
  exact ⟨find_standard, hc, ht, by decide +kernel, hkept, hsafe.1 12 hkept⟩

/-- The rig names channel 150. The session keeps it, although the model has no such channel, and memory mode
is called up with it. -/
theorem channels_vouched_named :
    let e : Entry := ⟨Models.ft840, .ft840⟩
    let link : ScriptedLink :=
      { script := [⟨[0, 0, 0, 1, 0x10], [0x95]⟩, ⟨[0, 0, 0, 150, 0x02], []⟩] }
    let r : Rig ScriptedLink := ⟨.ft840, .start Models.ft840 {} link⟩
    let named := (Rig.perform (.getMemory .current)).run r
    let called := (Rig.perform (.setVfo .memory)).run named.2
    Registry.standard.find? "FT-840" = some e ∧ e.create {} link = .ok r ∧ named.1 = .ok 150 ∧
      named.2.session.known.channel = some 150 ∧
      Models.ft840.checkMemoryChannel 150 ≠ .ok () ∧ called.1 = .ok () ∧
      (named.2.history (.setVfo .memory)).filterMap Event.recalled? = [150] ∧
      called.2.session.engine.port.link.sent = [[0, 0, 0, 1, 0x10], [0, 0, 0, 150, 0x02]] :=
  ⟨find_standard, rfl, by decide +kernel, by decide +kernel, by decide, by decide +kernel,
    by decide +kernel, by decide +kernel⟩

end Ft840

end RigControl

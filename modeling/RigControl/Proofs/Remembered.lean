/-
What a session remembers of its rig: the selected VFO, the memory channel and the pacing. An operation
that selects or reports one of them either fails and leaves all three as they were, or has them hold
what the rig was sent to or has named. The rig is often asked more than once, and an answer can be no
good in many ways, so that every step that may still fail has to come before the first entry.
-/
import RigControl.Proofs.Settling
import RigControl.Proofs.Refused

namespace RigControl

/-- What a session remembers of the settings of its rig. -/
structure Memo where
  vfo : Vfo
  /-- The memory channel seen or selected last. -/
  channel : Option Nat
  pacing : UInt8
deriving DecidableEq, Repr

def Tracking.memo (k : Tracking) : Memo := ⟨k.vfo, k.channel, k.pacing⟩

/-- The memory channel that a rig names in its answer to the question for it. -/
def Event.channel? : Event → Option Nat
  | exchange _ q (.ok block) =>
    if Ft840.Command.readMemoryChannel.frame = .ok q.frame then
      (Ft840.decodeMemoryChannel block).toOption
    else none
  | _ => none

namespace Operation

/-- The operations that select or report something that a session remembers. -/
def Selects {α : Type} : Operation α → Prop
  | setVfo _ | getVfo | setMemory _ _ | getMemory _ | setPacing _ => True
  | _ => False

/-- What is remembered after one of these operations has succeeded with an answer. A report of the VFO
can come with the memory channel. -/
def memoAfter (k : Tracking) (h : List Event) {α : Type} : Operation α → α → Memo
  | setVfo v, _ => { k.memo with vfo := k.resolve v }
  | getVfo, v => { k.memo with vfo := v, channel := (h.findSome? Event.channel?).or k.channel }
  | setMemory _ channel, _ => { k.memo with vfo := .memory, channel := some channel }
  | getMemory _, channel => { k.memo with channel := some channel }
  | setPacing value, _ => { k.memo with pacing := value }
  | _, _ => k.memo

end Operation

namespace Tracking

variable {k : Tracking} {d : Descriptor} {v : Vfo}

@[simp] theorem memo_channel : k.memo.channel = k.channel := rfl

end Tracking

variable {α : Type} {d : Descriptor} {config : Config} {k : Tracking} {m : Memo} {v : Vfo}

theorem Event.channel?_eq_none {q : Request} {o : Outcome (List UInt8)}
    (h : Ft840.Command.readMemoryChannel.frame ≠ .ok q.frame) : (exchange k q o).channel? = none := by
  cases o with
  | ok block => exact if_neg h
  | error e => rfl

/-- The VFOs that a rig can name, or be sent to, that no caller has asked for. -/
def Backend.ownVfos : Backend → List Vfo
  | ft840 => [.a, .b, .memory]
  | newcat | tmd710 => [.a, .b]
  | civ _ => [.memory]
  | ekd500 => []

/-- What a rig has named is selected without fail. -/
theorem Dialogue.Settles.report {E : Tracking → Prop} {R : List Event → Vfo → Tracking → Prop}
    (hv : v ∈ d.vfos) (hne : v ≠ .current) (hR : R [] v { k with vfo := v }) :
    (do Dialogue.selected d v; return v : Dialogue Vfo).Settles E k R := by
  have hselected : (Dialogue.selected d v).Settles E k fun h _ k' => h = [] ∧ k' = { k with vfo := v } :=
    .selected hv hne ⟨rfl, rfl⟩
  refine .bind hselected fun h _ k' hk' => .pure ?_
  obtain ⟨rfl, rfl⟩ := hk'
  exact hR

/-! ## Operations -/

namespace Operation

/-- A model that knows only its selected VFO reports that one. -/
theorem fallback_settles (op : Operation α) (hop : op.Selects) :
    (op.fallback d).Settles (·.memo = k.memo) k fun h a k' => k'.memo = op.memoAfter k h a := by
  cases op with
  | getVfo => exact .known_bind (.pure rfl)
  | setVfo | setMemory | getMemory | setPacing => exact .fail rfl
  | _ => exact hop.elim

/-- A question about something else names no channel. -/
theorem memoAfter_silent {k' : Tracking} {q : Request} {o : Outcome (List UInt8)}
    (h : Ft840.Command.readMemoryChannel.frame ≠ .ok q.frame) :
    getVfo.memoAfter k [.exchange k' q o] v = { k.memo with vfo := v } := by
  simp [memoAfter, Event.channel?_eq_none h, Tracking.memo]

end Operation

namespace Ft840

theorem sendPacing_settles {value : UInt8} (hk : k.memo = m) :
    (sendPacing value).Settles (·.memo = m) k fun _ _ k' => k' = k :=
  .lift_bind hk fun _ _ => .tell hk fun _ => rfl

theorem select_settles (hk : k.Declared d) :
    (select d v).Settles (·.memo = k.memo) k fun _ _ k' => k' = { k with vfo := k.resolve v } := by
  refine .known_bind (.lift_bind rfl fun _ hv => .lift_bind rfl fun frame _ => ?_)
  exact .tell_bind rfl fun _ => .selected (hk.mem_of_checked hv) hk.resolve_ne_current rfl

theorem readBlock_settles {c : Command} (hk : k.memo = m) :
    (readBlock c).Settles (·.memo = m) k fun h block k' => k'.memo = k.memo ∧
      ∃ q, c.frame = .ok q.frame ∧ h = [.exchange k q (.ok block)] := by
  refine .lift_bind hk fun frame hf => .ask_bind hk fun block => .known_bind ?_
  exact .learn_bind (.pure ⟨rfl, _, hf, rfl⟩)

theorem readChannel_settles (hk : k.memo = m) :
    readChannel.Settles (·.memo = m) k fun h channel k' =>
      k'.memo = { k.memo with channel := some channel } ∧
        h.findSome? Event.channel? = some channel := by
  refine .bind (readBlock_settles hk) fun h block k₁ hread => ?_
  obtain ⟨hk₁, q, hq, rfl⟩ := hread
  refine .lift_bind (hk₁.trans hk) fun channel hchannel => .known_bind (.learn_bind (.pure ⟨?_, ?_⟩))
  · rw [← hk₁]
    rfl
  · simp [Event.channel?, hq, hchannel, Except.toOption]

/-- The rig names its VFO, and in memory mode the channel. -/
theorem queryVfo_settles (hd : ∀ v ∈ Backend.ft840.ownVfos, v ∈ d.vfos) :
    (queryVfo d).Settles (·.memo = k.memo) k fun h v k' =>
      k'.memo = Operation.getVfo.memoAfter k h v := by
  refine .bind (readBlock_settles rfl) fun h block k₁ hread => ?_
  obtain ⟨hk₁, q, hq, rfl⟩ := hread
  refine .lift_bind hk₁ fun flags _ => .lift_bind hk₁ fun v hv => ?_
  have hother : (Event.exchange k q (.ok block)).channel? = none :=
    Event.channel?_eq_none (by rw [← hq]; decide)
  have hv := activeVfo_mem hv
  have hne : v ≠ .current := fun h => by simp [h] at hv
  -- Only in memory mode is there a second question, for the channel, which may still fail.
  split
  · have hread : (discard readChannel).Settles (·.memo = k.memo) k₁ fun h _ k' => ∃ channel,
        k'.memo = { k.memo with channel := some channel } ∧
          h.findSome? Event.channel? = some channel := by
      refine .bind (readChannel_settles hk₁) fun h channel k' hk' => .pure ⟨channel, ?_, ?_⟩
      · rw [← hk₁]
        exact hk'.1
      · simpa using hk'.2
    refine .bind hread fun h _ k₂ ⟨channel, hk₂, hh⟩ => .report (hd v hv) hne ?_
    show (⟨v, k₂.memo.channel, k₂.memo.pacing⟩ : Memo) = _
    simp [Operation.memoAfter, hother, hh, hk₂]
  · refine .report (hd v hv) hne ?_
    show (⟨v, k₁.memo.channel, k₁.memo.pacing⟩ : Memo) = _
    simp [Operation.memoAfter, hother, hk₁]

theorem setMemory_settles {channel : Nat} (hd : ∀ v ∈ Backend.ft840.ownVfos, v ∈ d.vfos) :
    (setMemory d channel).Settles (·.memo = k.memo) k fun _ _ k' =>
      k'.memo = { k.memo with vfo := .memory, channel := some channel } := by
  refine .lift_bind rfl fun _ _ => .lift_bind rfl fun n _ => .lift_bind rfl fun frame _ => ?_
  refine .tell_bind rfl fun _ => .known_bind (.learn_bind ?_)
  exact .selected (hd _ (by decide)) (by decide) rfl

theorem respond_settles {op : Operation α} (hk : k.Declared d)
    (hd : ∀ v ∈ Backend.ft840.ownVfos, v ∈ d.vfos) (hop : op.Selects) :
    (respond d config op).Settles (·.memo = k.memo) k fun h a k' => k'.memo = op.memoAfter k h a := by
  cases op with
  | getVfo => exact queryVfo_settles hd
  | setVfo v => exact (select_settles hk).imp fun _ _ _ h => h ▸ rfl
  | getMemory v => exact (readChannel_settles rfl).imp fun _ _ _ h => h.1
  | setMemory v channel => exact setMemory_settles hd
  | setPacing value =>
    refine .bind (sendPacing_settles rfl) fun h _ k' hk' => .known_bind (.learn ?_)
    rw [hk']
    rfl
  | _ => exact hop.elim

end Ft840

namespace Newcat

theorem getVfo_settles (hd : ∀ v ∈ Backend.newcat.ownVfos, v ∈ d.vfos) :
    (getVfo d).Settles (·.memo = k.memo) k fun h v k' => k'.memo = Operation.getVfo.memoAfter k h v := by
  have hask : (ask "VS" readVfo).Settles (·.memo = k.memo) k fun h _ k' =>
      (∃ reply, h = [.exchange k readVfo (.ok reply)]) ∧ k' = k := by
    exact .ask_bind rfl fun reply => .lift rfl fun _ _ => ⟨⟨reply, rfl⟩, rfl⟩
  refine .bind hask fun h body k' hasked => ?_
  obtain ⟨⟨reply, rfl⟩, rfl⟩ := hasked
  refine .lift_bind rfl fun v hv => ?_
  have hv := parseVfo_mem hv
  have hne : v ≠ .current := fun h => by simp [h] at hv
  exact .report (hd v hv) hne (Operation.memoAfter_silent (by decide)).symm

theorem selectVfo_settles (hk : k.Declared d) :
    (selectVfo d v).Settles (·.memo = k.memo) k fun _ _ k' => k' = { k with vfo := k.resolve v } := by
  refine .lift_bind rfl fun _ hv => .known_bind (.lift_bind rfl fun r _ => ?_)
  exact .tell_bind rfl fun _ => .selected (hk.resolve_mem hv) hk.resolve_ne_current rfl

theorem respond_settles {op : Operation α} (hk : k.Declared d)
    (hd : ∀ v ∈ Backend.newcat.ownVfos, v ∈ d.vfos) (hop : op.Selects) :
    (respond d config op).Settles (·.memo = k.memo) k fun h a k' => k'.memo = op.memoAfter k h a := by
  cases op with
  | getVfo => exact getVfo_settles hd
  | setVfo v => exact (selectVfo_settles hk).imp fun _ _ _ h => h ▸ rfl
  | getMemory | setMemory | setPacing => exact Operation.fallback_settles (d := d) _ hop
  | _ => exact hop.elim

end Newcat

namespace Tmd710

theorem getVfo_settles (hd : ∀ v ∈ Backend.tmd710.ownVfos, v ∈ d.vfos) :
    (getVfo d).Settles (·.memo = k.memo) k fun h v k' => k'.memo = Operation.getVfo.memoAfter k h v := by
  refine .ask_bind rfl fun reply => .lift_bind rfl fun (control, ptt) h => ?_
  have hv := parseBandControl_mem h
  have hne : control ≠ .current := fun h => by simp [h] at hv
  exact .report (hd control hv) hne (Operation.memoAfter_silent (by decide)).symm

theorem setVfo_settles (hd : ∀ v ∈ Backend.tmd710.ownVfos, v ∈ d.vfos) :
    (setVfo d v).Settles (·.memo = k.memo) k fun _ _ k' => k' = { k with vfo := k.resolve v } := by
  refine .lift_bind rfl fun _ _ => .known_bind (.lift_bind rfl fun r _ => .ask_bind rfl fun reply => ?_)
  refine .lift_bind rfl fun (control, ptt) h => .lift_bind rfl fun _ hband => ?_
  have hv := parseBandControl_mem h
  have hne : control ≠ .current := fun h => by simp [h] at hv
  refine .selected (hd control hv) hne ?_
  rw [checkBand_ok.1 hband]

theorem respond_settles {op : Operation α} (hd : ∀ v ∈ Backend.tmd710.ownVfos, v ∈ d.vfos)
    (hop : op.Selects) :
    (respond d config op).Settles (·.memo = k.memo) k fun h a k' => k'.memo = op.memoAfter k h a := by
  cases op with
  | getVfo => exact getVfo_settles hd
  | setVfo v => exact (setVfo_settles hd).imp fun _ _ _ h => h ▸ rfl
  | getMemory | setMemory | setPacing => exact Operation.fallback_settles (d := d) _ hop
  | _ => exact hop.elim

end Tmd710

namespace Civ

theorem command_settles {b : Bus} {r : Request} (hk : k.memo = m) :
    (b.command r).Settles (·.memo = m) k fun _ _ k' => k' = k :=
  .ask_bind hk fun _ => .lift hk fun _ _ => rfl

theorem setVfo_settles {b : Bus} (hk : k.Declared d) :
    (setVfo b d v).Settles (·.memo = k.memo) k fun _ _ k' => k' = { k with vfo := k.resolve v } := by
  refine .lift_bind rfl fun _ _ => .known_bind (.lift_bind rfl fun _ hv => ?_)
  refine .lift_bind rfl fun r _ => .bind (command_settles rfl) fun _ _ k' hk' => ?_
  rw [hk']
  exact .selected (hk.mem_of_checked hv) hk.resolve_ne_current rfl

theorem getMemory_settles :
    getMemory.Settles (·.memo = k.memo) k fun _ channel k' =>
      k'.memo = { k.memo with channel := some channel } := by
  refine .known_bind ?_
  split
  · rename_i channel hchannel
    exact .pure (by rw [← hchannel]; rfl)
  · exact .fail rfl

theorem setMemory_settles {b : Bus} {channel : Nat}
    (hd : ∀ v ∈ (Backend.civ b).ownVfos, v ∈ d.vfos) :
    (setMemory b d channel).Settles (·.memo = k.memo) k fun _ _ k' =>
      k'.memo = { k.memo with vfo := .memory, channel := some channel } := by
  have hmem : Vfo.memory ∈ d.vfos := hd _ List.mem_cons_self
  refine .lift_bind rfl fun _ _ => .lift_bind rfl fun r _ => ?_
  refine .bind (command_settles rfl) fun _ _ k' hk' => .known_bind (.learn_bind ?_)
  rw [hk', if_pos (show d.vfos.contains .memory = true from hmem)]
  exact .selected hmem (by decide) rfl

theorem respond_settles {b : Bus} {op : Operation α} (hk : k.Declared d)
    (hd : ∀ v ∈ (Backend.civ b).ownVfos, v ∈ d.vfos) (hop : op.Selects) :
    (respond b d config op).Settles (·.memo = k.memo) k fun h a k' => k'.memo = op.memoAfter k h a := by
  cases op with
  | setVfo v => exact (setVfo_settles hk).imp fun _ _ _ h => h ▸ rfl
  | getMemory v => exact getMemory_settles
  | setMemory v channel => exact setMemory_settles hd
  | getVfo | setPacing => exact Operation.fallback_settles (d := d) _ hop
  | _ => exact hop.elim

end Civ

theorem Ekd500.respond_settles {op : Operation α} (hop : op.Selects) :
    (respond d config op).Settles (·.memo = k.memo) k fun h a k' => k'.memo = op.memoAfter k h a := by
  cases op with
  | getFrequency | setFrequency => exact hop.elim
  | _ => exact Operation.fallback_settles (d := d) _ hop

theorem Backend.respond_settles {b : Backend} {op : Operation α} (hk : k.Declared d)
    (hd : ∀ v ∈ b.ownVfos, v ∈ d.vfos) (hop : op.Selects) :
    (b.respond d config op).Settles (·.memo = k.memo) k fun h a k' => k'.memo = op.memoAfter k h a := by
  cases b with
  | ft840 => exact Ft840.respond_settles hk hd hop
  | newcat => exact Newcat.respond_settles hk hd hop
  | civ bus => exact Civ.respond_settles hk hd hop
  | tmd710 => exact Tmd710.respond_settles hd hop
  | ekd500 => exact Ekd500.respond_settles hop

/-- A registered model declares what its rig can name. -/
theorem Registry.standard_ownVfos {e : Entry} {b : Backend} (h : e ∈ standard.entries)
    (hb : e.family.backend e.descriptor config = .ok b) :
    ∀ v ∈ b.ownVfos, v ∈ e.descriptor.vfos := by
  have h := mem_standard h
  simp only [List.mem_cons, List.not_mem_nil, or_false] at h
  rcases h with rfl | rfl | rfl | rfl | rfl | rfl
  · cases hb
    decide
  · cases hb
    decide
  · obtain ⟨bus, rfl⟩ := civ_backend hb
    exact show ∀ v ∈ [Vfo.memory], v ∈ Models.ic7800.vfos by decide
  · obtain ⟨bus, rfl⟩ := civ_backend hb
    exact show ∀ v ∈ [Vfo.memory], v ∈ Models.ic275.vfos by decide
  · cases hb
    decide
  · cases hb
    decide

namespace Rig

variable {σ : Type} [Link σ] {e : Entry} {link : σ} {r s : Rig σ}

/-- **An operation that selects or reports is all or nothing**: if it fails, the session remembers what
it did before, and if it succeeds, what was selected or reported. -/
theorem remembers_on_success {o : Outcome α} {t : Rig σ} (he : e ∈ Registry.standard.entries)
    (hc : e.create config link = .ok r) (h : r.Reaches s) (op : Operation α) (hop : op.Selects)
    (hrun : (perform op).run s = (o, t)) :
    (∀ err, o = .error err → t.session.known.memo = s.session.known.memo) ∧
      ∀ a, o = .ok a → t.session.known.memo = op.memoAfter s.session.known (s.history op) a := by
  obtain ⟨hb, hdesc, -⟩ := Reaches.of_create hc h
  have hd : ∀ v ∈ s.backend.ownVfos, v ∈ s.session.descriptor.vfos := by
    rw [hdesc]
    exact Registry.standard_ownVfos he hb
  exact perform_settles (Backend.respond_settles (h.declared_of_standard he hc) hd hop) hrun

/-- An FT-840 says that it is in memory mode and then falls silent. Asked again, it names the channel
as well. -/
theorem remembers_on_success_ft840 :
    let e : Entry := ⟨Models.ft840, .ft840⟩
    let mode : Expectation := ⟨[0, 0, 0, 0, 0xFA], [0x20, 0, 0, 0, 0]⟩
    let link : ScriptedLink :=
      { script := [mode, ⟨[0, 0, 0, 1, 0x10], []⟩, mode, ⟨[0, 0, 0, 1, 0x10], [4]⟩] }
    let r : Rig ScriptedLink := ⟨.ft840, .start Models.ft840 {} link⟩
    let once := (perform .getVfo).run r
    let again := (perform .getVfo).run once.2
    e ∈ Registry.standard.entries ∧ e.create {} link = .ok r ∧
      once.1 = .error .timeout ∧ once.2.session.known.memo = r.session.known.memo ∧
      again.1 = .ok .memory ∧ again.2.session.known.memo = ⟨.memory, some 5, 0⟩ := by
  intro e mode link r once again
  have he : e ∈ Registry.standard.entries := by decide +kernel
  have hc : e.create {} link = .ok r := rfl
  have honce : r.Reaches once.2 := .perform _ .refl
  have hsilent : once.1 = .error .timeout := by decide +kernel
  have hnamed : again.1 = .ok .memory := by decide +kernel
  have hkept := (remembers_on_success he hc .refl .getVfo trivial (Prod.eta once).symm).1 _ hsilent
  have hnew := (remembers_on_success he hc honce .getVfo trivial (Prod.eta again).symm).2 _ hnamed
  have hmemo : Operation.getVfo.memoAfter once.2.session.known (once.2.history .getVfo) .memory =
      ⟨.memory, some 5, 0⟩ := by decide +kernel
  exact ⟨he, hc, hsilent, hkept, hnamed, hnew.trans hmemo⟩

end Rig

end RigControl

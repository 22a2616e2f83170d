/-
Sessions that mirror their rig. A peer is a simulated rig together with a relation that says which VFO it
has selected. A conversation is held with it, request by request (`Dialogue.Held`), and what is promised of
that holds of its runs over a session (`held_run`).

A conversation mirrors the peer from a VFO if, once the peer has selected that one, the session and the
peer agree at the end, whatever the outcome (`Dialogue.Mirrors`). It does if its parts do, and then the
two agree after any operations in a row (`Performs.mirrored`).
-/
import RigControl.Proofs.Reach
import RigControl.Proofs.Selection
import RigControl.Proofs.Simulated

namespace RigControl

open Engine

/-- A simulated rig in a session. -/
structure Peer (S : Type) where
  device : Device S
  /-- How long its replies are waited for. -/
  timeout : Nat
  /-- Whether a VFO is the one that the rig has selected. -/
  shows : Vfo → S → Prop

namespace Dialogue

variable {S α β : Type} {P : Peer S} {v : Vfo} {k k' : Tracking} {s : S} {r : Request} {d : Descriptor}

/-! ## Conversations with a rig -/

/-- A condition on the outcome, what is known at the end and the rig. -/
abbrev Ends (S α : Type) := Outcome α → Tracking → S → Prop

/-- Held with the rig, the conversation sends nothing but frames, and ends as the condition says. -/
def Held (P : Peer S) : Dialogue α → Ends S α → Tracking → S → Prop
  | done o, Q => Q o
  | look next, Q => fun k => (next k).Held P Q k
  | note k next, Q => fun _ => next.Held P Q k
  | exchange r next, Q => fun k s => P.device.Framed r.frame ∧
    ∀ o s', P.device.Turn P.timeout r s o s' → match o with
      | .ok reply => (next reply).Held P Q k s'
      | .error e => Q (.error e) k s'
  | hangUp next, Q => fun k s => (∀ e, Q (.error e) k s) ∧ next.Held P Q k s

/-- What the rest of a conversation asks of its first part. An error ends both. -/
def Ends.before (P : Peer S) (f : α → Dialogue β) (Q : Ends S β) : Ends S α := fun o k s =>
  match o with
  | .ok a => (f a).Held P Q k s
  | .error e => Q (.error e) k s

theorem held_mono {x : Dialogue α} {Q Q' : Ends S α} (hQ : ∀ o k s, Q o k s → Q' o k s)
    (hx : x.Held P Q k s) : x.Held P Q' k s := by
  induction x generalizing k s with
  | done o => exact hQ _ _ _ hx
  | look next ih => exact ih k hx
  | note k' next ih => exact ih hx
  | exchange r next ih =>
    refine ⟨hx.1, fun o s' hturn => ?_⟩
    have hnext := hx.2 o s' hturn
    cases o with
    | ok reply => exact ih reply hnext
    | error e => exact hQ _ _ _ hnext
  | hangUp next ih => exact ⟨fun e => hQ _ _ _ (hx.1 e), ih hx.2⟩

theorem held_bind {x : Dialogue α} {f : α → Dialogue β} {Q : Ends S β}
    (hx : x.Held P (.before P f Q) k s) : (x >>= f).Held P Q k s := by
  show (x.bind f).Held P Q k s
  induction x generalizing k s with
  | done o =>
    cases o with
    | ok a => exact hx
    | error e => exact hx
  | look next ih => exact ih k hx
  | note k' next ih => exact ih hx
  | exchange r next ih =>
    refine ⟨hx.1, fun o s' hturn => ?_⟩
    have hnext := hx.2 o s' hturn
    cases o with
    | ok reply => exact ih reply hnext
    | error e => exact hnext
  | hangUp next ih => exact ⟨hx.1, ih hx.2⟩

/-- An outcome that is at hand takes no turn of the rig. -/
theorem held_lift_bind {o : Outcome α} {f : α → Dialogue β} {Q : Ends S β}
    (hok : ∀ a, o = .ok a → (f a).Held P Q k s) (herror : ∀ e, o = .error e → Q (.error e) k s) :
    ((liftM o : Dialogue α) >>= f).Held P Q k s := by
  cases o with
  | ok a => exact hok a rfl
  | error e => exact herror e rfl

theorem held_selected {Q : Ends S Unit} (hok : ∀ k', k.select d v = .ok k' → Q (.ok ()) k' s)
    (herror : ∀ e, k.select d v = .error e → Q (.error e) k s) : (selected d v).Held P Q k s :=
  held_lift_bind (f := learn) hok herror

/-- **What is promised of a conversation with the rig holds of its runs**, and the rig attends to
whatever is next. -/
theorem held_run {x : Dialogue α} {Q : Ends S α} {t : Session (Simulated S)}
    (he : Attends t.engine P.device P.timeout s) (hx : x.Held P Q t.known s) :
    let u := (x.run.run t).2
    Attends u.engine P.device P.timeout u.engine.port.link.rig ∧
      Q (x.run.run t).1 u.known u.engine.port.link.rig := by
  -- Each request takes a turn of the rig, from where the rest of the promise applies.
  induction x generalizing t s with
  | done o =>
    obtain ⟨hdevice, rfl, hstarted, htimeout⟩ := he
    exact ⟨⟨hdevice, rfl, hstarted, htimeout⟩, hx⟩
  | look next ih => exact ih t.known he hx
  | note k next ih => exact ih (t := { t with known := k }) he hx
  | exchange r next ih =>
    obtain ⟨hframed, hnext⟩ := hx
    match hrun : (Session.transact r).run t with
    | (o, u) =>
      have houtcome := transact_outcome hrun
      have hengine : u.engine = ((Engine.transact r).run t.engine).2 := by rw [transact_frame hrun]; rfl
      have hattends := Device.attends_transact he hframed
      have hturn : P.device.Turn P.timeout r s o u.engine.port.link.rig :=
        ⟨t.engine, he, houtcome, by rw [hengine]⟩
      rw [← hengine] at hattends
      have hnext := hnext o _ hturn
      rw [← transact_known hrun] at hnext
      cases o with
      | ok reply =>
        rw [run_exchange_ok hrun]
        exact ih reply hattends hnext
      | error e =>
        rw [run_exchange_error hrun]
        exact ⟨hattends, hnext⟩
  | hangUp next ih =>
    obtain ⟨hfailed, hnext⟩ := hx
    match hrun : Session.close.run t with
    | (o, u) =>
      have hattends : Attends u.engine P.device P.timeout s := by
        rw [close_frame hrun]
        show Attends (Event.replay t.engine (.hangUp o)) _ _ _
        rw [Event.replay]
        split
        · exact ⟨he.device, he.rig, he.started, he.timeout⟩
        · exact he
      rw [← close_known hrun] at hnext hfailed
      cases o with
      | ok v =>
        rw [run_hangUp_ok hrun]
        exact ih hattends hnext
      | error e =>
        rw [run_hangUp_error hrun]
        obtain ⟨hdevice, rfl, hstarted, htimeout⟩ := hattends
        exact ⟨⟨hdevice, rfl, hstarted, htimeout⟩, hfailed e⟩

/-! ## Mirroring -/

/-- From a rig that has selected the VFO, the conversation ends with the session and the rig at one, and
answers as the condition says. -/
def Mirrors (P : Peer S) (v : Vfo) (x : Dialogue α) (k : Tracking) (R : α → Tracking → Prop) : Prop :=
  ∀ s, P.shows v s → x.Held P (fun o k' s' => P.shows k'.vfo s' ∧ ∀ a, o = .ok a → R a k') k s

/-- The conversation selects a VFO if and only if it succeeds, and leaves it to the rest to record
that. -/
def Moves (P : Peer S) (v : Vfo) (x : Dialogue α) (k : Tracking) : Prop :=
  ∀ s, P.shows k.vfo s →
    x.Held P (fun o k' s' => k' = k ∧ P.shows (if o.isOk then v else k.vfo) s') k s

end Dialogue

/-- The request leaves the selection of the rig alone. -/
structure Peer.Keeps {S : Type} (P : Peer S) (r : Request) : Prop where
  framed : P.device.Framed r.frame
  turn : ∀ v s o s', P.shows v s → P.device.Turn P.timeout r s o s' → P.shows v s'

/-- A request leaves the selection alone if its frame does. -/
theorem Peer.Keeps.of_next {S : Type} {P : Peer S} {r : Request} (hframed : P.device.Framed r.frame)
    (h : ∀ v s, P.shows v s → P.shows v (P.device.next s r.frame)) : P.Keeps r where
  framed := hframed
  turn v _ _ _ hs hturn := hturn.keeps hframed (h v) hs

namespace Dialogue.Mirrors

variable {S α β : Type} {P : Peer S} {v : Vfo} {k k' : Tracking} {r : Request} {d : Descriptor}
  {x : Dialogue α} {f : α → Dialogue β} {R : α → Tracking → Prop} {R' : β → Tracking → Prop}

theorem imp {R₂ : α → Tracking → Prop} (hx : x.Mirrors P v k R) (hR : ∀ a k', R a k' → R₂ a k') :
    x.Mirrors P v k R₂ :=
  fun s hs => held_mono (fun _ k' _ h => ⟨h.1, fun a ha => hR a k' (h.2 a ha)⟩) (hx s hs)

/-- The condition on the answer may be dropped. -/
theorem any (hx : x.Mirrors P v k R) : x.Mirrors P v k fun _ _ => True :=
  hx.imp fun _ _ _ => trivial

theorem pure {a : α} (hv : k.vfo = v) (hR : R a k) : (pure a : Dialogue α).Mirrors P v k R := by
  intro s hs
  rw [← hv] at hs
  exact ⟨hs, fun _ h => by cases h; exact hR⟩

theorem lift {o : Outcome α} (hR : ∀ a, o = .ok a → R a k) :
    (liftM o : Dialogue α).Mirrors P k.vfo k R :=
  fun _ hs => ⟨hs, hR⟩

theorem fail {e : Error} : (fail e : Dialogue α).Mirrors P k.vfo k R :=
  fun _ hs => ⟨hs, nofun⟩

theorem bind (hx : x.Mirrors P v k R) (hf : ∀ a k', R a k' → (f a).Mirrors P k'.vfo k' R') :
    (x >>= f).Mirrors P v k R' := by
  intro s hs
  refine held_bind (held_mono (fun o k' s' hend => ?_) (hx s hs))
  obtain ⟨hs', hR⟩ := hend
  cases o with
  | ok a => exact hf a k' (hR a rfl) s' hs'
  | error e => exact ⟨hs', nofun⟩

theorem lift_bind {o : Outcome α} (hf : ∀ a, o = .ok a → (f a).Mirrors P k.vfo k R') :
    ((liftM o : Dialogue α) >>= f).Mirrors P k.vfo k R' :=
  fun s hs => held_lift_bind (fun a ha => hf a ha s hs) fun _ _ => ⟨hs, nofun⟩

theorem known_bind {f : Tracking → Dialogue β} (hf : (f k).Mirrors P v k R') :
    (known >>= f).Mirrors P v k R' := hf

theorem learn_bind {f : Unit → Dialogue β} (hf : (f ()).Mirrors P v k' R') :
    (learn k' >>= f).Mirrors P v k R' := hf

theorem ask {R : List UInt8 → Tracking → Prop} (hr : P.Keeps r) (hR : ∀ reply, R reply k) :
    (ask r).Mirrors P k.vfo k R := by
  refine fun s hs => ⟨hr.framed, fun o s' hturn => ?_⟩
  have hs' := hr.turn _ _ _ _ hs hturn
  cases o with
  | ok reply => exact ⟨hs', fun _ _ => hR _⟩
  | error e => exact ⟨hs', nofun⟩

theorem tell {R : Unit → Tracking → Prop} (hr : P.Keeps r) (hR : R () k) :
    (tell r).Mirrors P k.vfo k R := by
  refine fun s hs => ⟨hr.framed, fun o s' hturn => ?_⟩
  have hs' := hr.turn _ _ _ _ hs hturn
  cases o with
  | ok reply => exact ⟨hs', fun _ _ => hR⟩
  | error e => exact ⟨hs', nofun⟩

theorem hangUp (hx : x.Mirrors P k.vfo k R) : (hangUp x).Mirrors P k.vfo k R :=
  fun s hs => ⟨fun _ => ⟨hs, nofun⟩, hx s hs⟩

theorem discard {R₂ : Unit → Tracking → Prop} (hx : x.Mirrors P v k R)
    (hR : ∀ a k', R a k' → R₂ () k') : (discard x).Mirrors P v k R₂ :=
  bind hx fun a k' ha => pure rfl (hR a k' ha)

theorem forM {l : List α} {f : α → Dialogue Unit}
    (hf : ∀ a ∈ l, ∀ k, (f a).Mirrors P k.vfo k fun _ _ => True) :
    (l.forM f).Mirrors P k.vfo k fun _ _ => True := by
  induction l generalizing k with
  | nil => exact pure rfl trivial
  | cons a l ih =>
    refine bind (hf a List.mem_cons_self k) fun _ k' _ => ?_
    exact ih fun a ha => hf a (List.mem_cons_of_mem _ ha)

/-- The rest records what the rig has selected. -/
theorem move_bind (hx : x.Moves P v k) (hf : ∀ a, (f a).Mirrors P v k R') :
    (x >>= f).Mirrors P k.vfo k R' := by
  intro s hs
  refine held_bind (held_mono (fun o k' s' hmoved => ?_) (hx s hs))
  obtain ⟨rfl, hs'⟩ := hmoved
  cases o with
  | ok a => exact hf a s' hs'
  | error e => exact ⟨hs', nofun⟩

/-- The VFO that the rig has selected is recorded. -/
theorem selected (hv : v ∈ d.vfos) (hne : v ≠ .current) :
    (selected d v).Mirrors P v k fun _ k' => k'.vfo = v := by
  have hselect : k.select d v = .ok { k with vfo := v } := by
    rw [Tracking.select_ok, Tracking.resolve_of_ne hne]
    exact ⟨Descriptor.checkVfo_ok.2 (.inr hv), rfl⟩
  refine fun s hs => held_selected (fun k' h => ?_) fun e h => ?_
  · cases hselect.symm.trans h
    exact ⟨hs, fun _ _ => rfl⟩
  · cases hselect.symm.trans h

end Dialogue.Mirrors

namespace Rig

variable {σ : Type} [Link σ]

/-- The state after some operations, one after another, over the same link. -/
inductive Performs (r : Rig σ) : Rig σ → Prop
  | refl : Performs r r
  | perform {s : Rig σ} {α : Type} (op : Operation α) :
      Performs r s → Performs r ((Rig.perform op).run s).2

theorem Performs.reaches {r s : Rig σ} (h : r.Performs s) : r.Reaches s := by
  induction h with
  | refl => exact .refl
  | perform op _ ih => exact .perform op ih

/-- The session is with this peer, and its selected VFO is the one of the rig. -/
structure Mirrored {S : Type} (P : Peer S) (r : Rig (Simulated S)) : Prop where
  attends : Attends r.session.engine P.device P.timeout r.session.engine.port.link.rig
  shows : P.shows r.session.known.vfo r.session.engine.port.link.rig

section

variable {S : Type} {P : Peer S} {r s : Rig (Simulated S)}

theorem Mirrored.perform {α : Type} {op : Operation α} (h : r.Mirrored P)
    (hop : (r.dialogue op).Mirrors P r.session.known.vfo r.session.known fun _ _ => True) :
    ((perform op).run r).2.Mirrored P := by
  obtain ⟨hattends, hshows, -⟩ := Dialogue.held_run h.attends (hop _ h.shows)
  exact ⟨hattends, hshows⟩

/-- **What mirrors the rig in each operation mirrors it in all of them**, one after another. -/
theorem Performs.mirrored (h : r.Performs s) (hr : r.Mirrored P)
    (hop : ∀ {α : Type} (op : Operation α) (k : Tracking),
      (r.dialogue op).Mirrors P k.vfo k fun _ _ => True) :
    s.Mirrored P := by
  induction h with
  | refl => exact hr
  | @perform s α op hs ih =>
    refine ih.perform ?_
    rw [hs.reaches.dialogue_eq op]
    exact hop op _

end

end Rig

end RigControl

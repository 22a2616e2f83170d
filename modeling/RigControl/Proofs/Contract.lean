/-
Contracts: what a conversation keeps of the tracking, which requests it makes, and whether it may still
refuse. A conversation obeys a contract if its parts do, so that every operation is followed once, part
by part. Refusals are due at the start: a conversation honours a contract if it either refuses before
anything has happened or obeys.
-/
import RigControl.Proofs.Conversation
import RigControl.Proofs.Refusal

namespace RigControl

/-- What a conversation has to keep to. -/
structure Contract where
  /-- What holds of the tracking at the start and is kept. -/
  keeps : Tracking → Prop
  /-- The requests that may be made, given what is known. -/
  sends : Tracking → Request → Prop
  /-- Under which condition nothing is refused once the conversation is under way. -/
  firm : Prop

/-- Whether an event is a request that the contract has, made while the contract was kept. -/
def Event.Allowed (c : Contract) : Event → Prop
  | exchange k r _ => c.keeps k ∧ c.sends k r
  | hangUp _ => True

/-- A way that a conversation has gone. A refusal can still be the link's. -/
structure Contract.Kept {α : Type} (c : Contract) (R : α → Tracking → Prop) (h : List Event)
    (r : Outcome α) (k : Tracking) : Prop where
  keeps : c.keeps k
  sends : ∀ x ∈ h, x.Allowed c
  result : ∀ a, r = .ok a → R a k
  firm : c.firm → ∀ e, r = .error e → e.isRefusal = true → ∃ x ∈ h, x.failure? = some e

/-- What the session remembers of the rig is the same. The setting to be put back at the end does not
count. -/
structure Tracking.Agrees (k k' : Tracking) : Prop where
  vfo : k.vfo = k'.vfo
  channel : k.channel = k'.channel
  snapshot : k.snapshot = k'.snapshot
  pacing : k.pacing = k'.pacing

theorem Tracking.Agrees.trans {k k' k'' : Tracking} (h : k.Agrees k') (h' : k'.Agrees k'') :
    k.Agrees k'' :=
  ⟨h.vfo.trans h'.vfo, h.channel.trans h'.channel, h.snapshot.trans h'.snapshot,
    h.pacing.trans h'.pacing⟩

/-- An early end: an error, with nothing sent and nothing learned. -/
structure Contract.Declined {α : Type} (c : Contract) (k : Tracking) (h : List Event)
    (r : Outcome α) (k' : Tracking) : Prop where
  keeps : c.keeps k'
  error : ∃ e, r = .error e
  silent : h = []
  agrees : k'.Agrees k

namespace Dialogue

variable {α β γ : Type}

/-- From what is known, the conversation keeps to the contract and answers as the condition says. -/
def Obeys (x : Dialogue α) (c : Contract) (k : Tracking) (R : α → Tracking → Prop) : Prop :=
  x.wp (c.Kept R) k

/-- The conversation declines at once, or obeys. -/
def Honours (x : Dialogue α) (c : Contract) (k : Tracking) (R : α → Tracking → Prop) : Prop :=
  x.wp (fun h r k' => c.Declined k h r k' ∨ c.Kept R h r k') k

variable {c : Contract} {k k' : Tracking} {R : α → Tracking → Prop} {R' : β → Tracking → Prop}
  {x : Dialogue α} {f : α → Dialogue β} {o : Outcome α} {r : Request} {d : Descriptor} {v : Vfo}

/-! ## Obeying -/

namespace Obeys

theorem lift (hk : c.keeps k) (ho : c.firm → o.NeverRefuses) (ha : ∀ a, o = .ok a → R a k) :
    (liftM o : Dialogue α).Obeys c k R :=
  show c.Kept R [] o k from ⟨hk, by simp, ha, fun hc e h he => by simp [ho hc e h] at he⟩

theorem fail {e : Error} (hk : c.keeps k) (he : c.firm → e.isRefusal = false) :
    (fail e : Dialogue α).Obeys c k R :=
  lift hk (fun hc => Outcome.neverRefuses_error.2 (he hc)) nofun

theorem pure {a : α} (hk : c.keeps k) (ha : R a k) : (pure a : Dialogue α).Obeys c k R :=
  lift hk (fun _ => Outcome.neverRefuses_ok) fun _ h => by cases h; exact ha

theorem known_bind {f : Tracking → Dialogue β} (hf : (f k).Obeys c k R') :
    (known >>= f).Obeys c k R' := by
  simpa [Obeys] using hf

theorem learn {R : Unit → Tracking → Prop} (hk : c.keeps k') (hR : R () k') :
    (learn k').Obeys c k R :=
  pure hk hR

theorem ask {R : List UInt8 → Tracking → Prop} (hk : c.keeps k) (hr : c.sends k r)
    (hR : ∀ reply, R reply k) : (ask r).Obeys c k R := by
  rw [Obeys, wp_ask]
  refine ⟨fun e => ⟨hk, by simpa [Event.Allowed] using ⟨hk, hr⟩, by simp, fun _ e' h _ => ?_⟩,
    fun reply => ⟨hk, by simpa [Event.Allowed] using ⟨hk, hr⟩, fun _ h => ?_, by simp⟩⟩
  · cases h
    simp [Event.failure?]
  · cases h
    exact hR reply

theorem tell {R : Unit → Tracking → Prop} (hk : c.keeps k) (hr : c.sends k r) (hR : R () k) :
    (tell r).Obeys c k R := by
  rw [Obeys, wp_tell]
  refine ⟨fun e => ⟨hk, by simpa [Event.Allowed] using ⟨hk, hr⟩, by simp, fun _ e' h _ => ?_⟩,
    fun reply => ⟨hk, by simpa [Event.Allowed] using ⟨hk, hr⟩, fun _ _ => hR, by simp⟩⟩
  cases h
  simp [Event.failure?]

theorem hangUp (hk : c.keeps k) (hx : x.Obeys c k R) : (hangUp x).Obeys c k R := by
  refine ⟨fun e => ⟨hk, by simp [Event.Allowed], by simp, fun _ e' h _ => ?_⟩,
    wp_mono (fun h r k' kept => ?_) hx⟩
  · cases h
    simp [Event.failure?]
  · refine ⟨kept.keeps, ?_, kept.result, fun hc e he href => ?_⟩
    · simpa [Event.Allowed] using kept.sends
    · obtain ⟨ev, hev, hfail⟩ := kept.firm hc e he href
      exact ⟨ev, List.mem_cons_of_mem _ hev, hfail⟩

/-- The condition on the answer may be weakened. -/
theorem imp {R₂ : α → Tracking → Prop} (hx : x.Obeys c k R)
    (hR : ∀ a k', c.keeps k' → R a k' → R₂ a k') : x.Obeys c k R₂ :=
  wp_mono (fun _ _ k' h => ⟨h.keeps, h.sends, fun a ha => hR a k' h.keeps (h.result a ha), h.firm⟩) hx

/-- The condition on the answer may be dropped. -/
theorem any (hx : x.Obeys c k R) : x.Obeys c k fun _ _ => True :=
  hx.imp fun _ _ _ _ => trivial

/-- What a first part and the rest keep to, both keep to together. -/
theorem append {h : List Event} {a : α} {k' : Tracking} (hkept : c.Kept R h (.ok a) k')
    (hf : (f a).Obeys c k' R') : (f a).wp (fun h' => c.Kept R' (h ++ h')) k' := by
  refine wp_mono (fun h' r' k'' hrest => ?_) hf
  refine ⟨hrest.keeps, fun ev hev => ?_, hrest.result, fun hc e he href => ?_⟩
  · rcases List.mem_append.1 hev with hev | hev
    · exact hkept.sends ev hev
    · exact hrest.sends ev hev
  · obtain ⟨ev, hev, hfail⟩ := hrest.firm hc e he href
    exact ⟨ev, List.mem_append_right _ hev, hfail⟩

/-- A conversation obeys if its first part does, and its rest from there. -/
theorem bind (hx : x.Obeys c k R)
    (hf : ∀ a k', c.keeps k' → R a k' → (f a).Obeys c k' R') : (x >>= f).Obeys c k R' := by
  rw [Obeys, wp_bind]
  refine wp_mono (fun h r k' hkept => ?_) hx
  cases r with
  | error e =>
    exact ⟨hkept.keeps, hkept.sends, by simp, fun hc e' he => hkept.firm hc e' (by simpa using he)⟩
  | ok a => exact append hkept (hf a k' hkept.keeps (hkept.result a rfl))

theorem lift_bind (hk : c.keeps k) (ho : c.firm → o.NeverRefuses)
    (hf : ∀ a, o = .ok a → (f a).Obeys c k R') :
    ((liftM o : Dialogue α) >>= f).Obeys c k R' := by
  cases o with
  | ok a => exact hf a rfl
  | error e => exact fail hk fun hc => Outcome.neverRefuses_error.1 (ho hc)

theorem map {g : α → β} (hx : x.Obeys c k R) (hg : ∀ a k', c.keeps k' → R a k' → R' (g a) k') :
    (g <$> x).Obeys c k R' :=
  bind hx fun a k' hk' ha => pure hk' (hg a k' hk' ha)

theorem discard {R' : Unit → Tracking → Prop} (hx : x.Obeys c k R)
    (hR : ∀ a k', c.keeps k' → R a k' → R' () k') : (discard x).Obeys c k R' :=
  map hx hR

theorem selected {R : Unit → Tracking → Prop} (hk : c.keeps k)
    (ho : c.firm → (k.select d v).NeverRefuses)
    (hs : ∀ k', k.select d v = .ok k' → c.keeps k' ∧ R () k') : (selected d v).Obeys c k R :=
  known_bind (lift_bind hk ho fun k' h => learn (hs k' h).1 (hs k' h).2)

/-- A condition that every step of a loop keeps holds at its end. -/
theorem forM {R : Tracking → Prop} {l : List α} {f : α → Dialogue Unit} (hk : c.keeps k) (hR : R k)
    (hf : ∀ a ∈ l, ∀ k', c.keeps k' → R k' → (f a).Obeys c k' fun _ => R) :
    (l.forM f).Obeys c k fun _ => R := by
  induction l generalizing k with
  | nil => exact pure hk hR
  | cons a l ih =>
    refine bind (hf a List.mem_cons_self k hk hR) fun _ k' hk' hR' => ?_
    exact ih hk' hR' fun a ha => hf a (List.mem_cons_of_mem _ ha)

end Obeys

/-! ## Declining before anything has happened -/

namespace Honours

theorem of_obeys (hx : x.Obeys c k R) : x.Honours c k R :=
  wp_mono (fun _ _ _ => .inr) hx

theorem imp {R₂ : α → Tracking → Prop} (hx : x.Honours c k R)
    (hR : ∀ a k', c.keeps k' → R a k' → R₂ a k') : x.Honours c k R₂ :=
  wp_mono (fun _ _ k' h => h.imp_right fun h =>
    ⟨h.keeps, h.sends, fun a ha => hR a k' h.keeps (h.result a ha), h.firm⟩) hx

theorem any (hx : x.Honours c k R) : x.Honours c k fun _ _ => True :=
  hx.imp fun _ _ _ _ => trivial

theorem fail {e : Error} (hk : c.keeps k) : (fail e : Dialogue α).Honours c k R :=
  .inl ⟨hk, ⟨e, rfl⟩, rfl, rfl, rfl, rfl, rfl⟩

theorem known_bind {f : Tracking → Dialogue β} (hf : (f k).Honours c k R') :
    (known >>= f).Honours c k R' := by
  simpa [Honours] using hf

/-- What does not count may be learned before the last check. -/
theorem learn_bind {f : Unit → Dialogue β} (hagrees : k'.Agrees k) (hf : (f ()).Honours c k' R') :
    (learn k' >>= f).Honours c k R' :=
  wp_mono (fun _ _ _ h => h.imp_left fun h =>
    ⟨h.keeps, h.error, h.silent, h.agrees.trans hagrees⟩) hf

/-- A check may refuse. -/
theorem lift_bind (hk : c.keeps k) (hf : ∀ a, o = .ok a → (f a).Honours c k R') :
    ((liftM o : Dialogue α) >>= f).Honours c k R' := by
  cases o with
  | ok a => exact hf a rfl
  | error e => exact fail hk

/-- A check whose value is not used. -/
theorem discard_bind {f : Unit → Dialogue β} (hk : c.keeps k)
    (hf : (f ()).Honours c k R') :
    (Functor.discard (liftM o : Dialogue α) >>= f).Honours c k R' := by
  cases o with
  | ok a => exact hf
  | error e => exact fail hk

/-- Once a first part is over, nothing may be refused any more. -/
theorem bind (hx : x.Honours c k R)
    (hf : ∀ a k', c.keeps k' → R a k' → (f a).Obeys c k' R') : (x >>= f).Honours c k R' := by
  rw [Honours, wp_bind]
  refine wp_mono (fun h r k' hr => ?_) hx
  rcases hr with hr | hkept
  · obtain ⟨hk', ⟨e, rfl⟩, rfl, hagrees⟩ := hr
    exact .inl ⟨hk', ⟨e, rfl⟩, rfl, hagrees⟩
  · cases r with
    | error e =>
      exact .inr ⟨hkept.keeps, hkept.sends, by simp,
        fun hc e' he => hkept.firm hc e' (by simpa using he)⟩
    | ok a =>
      have hrest := Obeys.append hkept (hf a k' hkept.keeps (hkept.result a rfl))
      exact wp_mono (fun _ _ _ => .inr) hrest

end Honours

end Dialogue

end RigControl

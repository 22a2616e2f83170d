/-
Plans of write operations. A plan is fixed before anything is sent: a VFO to select, perhaps, and the
commands after that. Its requests are made in a row, each once its predecessor is complete, up to the
first that is not (`Runs`), and nothing is taken back.

An operation and its plan make the same checks in the same order, so that the rules below follow the
one along the other.
-/
import RigControl.Proofs.Selection
import RigControl.Rig.Operation

namespace RigControl

/-- What is to be sent. -/
structure Plan where
  /-- The VFO to select first, and the request that selects it. -/
  selection : Option (Vfo × Request) := none
  commands : List Request := []
deriving DecidableEq, Repr

/-- The requests of a plan, in their order. -/
def Plan.requests (p : Plan) : List Request :=
  (p.selection.map Prod.snd).toList ++ p.commands

/-- When a request is complete, by what came of it. -/
abbrev Completion := Request → Outcome (List UInt8) → Prop

/-- Whether an operation writes. Opening, closing and setting the pace do not count. -/
def Operation.isWrite {α : Type} : Operation α → Bool
  | setFrequency .. | setMode .. | setVfo .. | setPtt .. | setSplit .. | setRit .. | setLevel ..
  | setFunc .. | setMemory .. | vfoOp .. | scan .. | setClock .. => true
  | _ => false

namespace Event

def request? : Event → Option Request
  | exchange _ r _ => some r
  | hangUp _ => none

/-- Whether the event is a request that is complete. -/
def Completed (C : Completion) : Event → Prop
  | exchange _ r o => C r o
  | hangUp _ => False

end Event

/-- The events of some requests made in a row, each once its predecessor is complete, and whether all
are. -/
inductive Runs (C : Completion) : List Request → List Event → Bool → Prop
  | nil : Runs C [] [] true
  | stop {k : Tracking} {r : Request} {o : Outcome (List UInt8)} {rest : List Request}
      (h : ¬ C r o) : Runs C (r :: rest) [.exchange k r o] false
  | cons {k : Tracking} {r : Request} {o : Outcome (List UInt8)} {rest : List Request}
      {events : List Event} {ok : Bool} (h : C r o) (hrest : Runs C rest events ok) :
      Runs C (r :: rest) (.exchange k r o :: events) ok

/-- The VFO that is selected in the end: that of the plan if its selection is complete, and otherwise
the one from before. -/
structure Plan.Leaves (C : Completion) (p : Plan) (events : List Event) (before after : Vfo) :
    Prop where
  selected : ∀ v r, p.selection = some (v, r) → (∃ x ∈ events.head?, x.Completed C) → after = v
  kept : (p.selection = none ∨ ∀ x ∈ events.head?, ¬ x.Completed C) → after = before

variable {C : Completion} {l l' : List Request} {events events' : List Event} {ok : Bool}

/-! ## Rows of requests -/

namespace Runs

theorem append (h : Runs C l events ok) (hok : ok = true) {ok' : Bool}
    (h' : Runs C l' events' ok') : Runs C (l ++ l') (events ++ events') ok' := by
  induction h with
  | nil => exact h'
  | stop => cases hok
  | cons h _ ih => exact .cons h (ih hok)

/-- What would come later does not matter to a row that has stopped. -/
theorem stopped (h : Runs C l events ok) (hok : ok = false) : Runs C (l ++ l') events false := by
  induction h with
  | nil => cases hok
  | stop h => exact .stop h
  | cons h _ ih => exact .cons h (ih hok)

theorem started (h : Runs C l events ok) : events.map Event.request? <+: l.map some := by
  induction h with
  | nil => exact List.nil_prefix
  | stop => exact List.cons_prefix_cons.2 ⟨rfl, List.nil_prefix⟩
  | cons h _ ih => exact List.cons_prefix_cons.2 ⟨rfl, ih⟩

/-- All but the last are complete. -/
theorem inTurn (h : Runs C l events ok) {i : Nat} {x : Event} (hx : events[i]? = some x)
    (hi : i + 1 < events.length) : x.Completed C := by
  induction h generalizing i with
  | nil => cases hx
  | stop =>
    rw [List.length_singleton] at hi
    omega
  | cons h _ ih =>
    cases i with
    | zero =>
      cases hx
      exact h
    | succ i =>
      rw [List.length_cons] at hi
      exact ih hx (by omega)

theorem ok_iff (h : Runs C l events ok) :
    ok = true ↔ events.length = l.length ∧ ∀ x ∈ events, x.Completed C := by
  induction h with
  | nil => simp
  | stop h => simpa [Event.Completed] using fun _ => h
  | cons h _ ih =>
    rw [ih]
    simp [Event.Completed, h]

end Runs

/-! ## Following a plan -/

namespace Dialogue

variable {α β : Type} {k : Tracking} {v : Vfo} {r : Request} {d : Descriptor}

/-- These requests are made in a row, and VFO `v` is selected in the end. -/
def Row (C : Completion) (l : List Request) (v : Vfo) (x : Dialogue α) (k : Tracking) : Prop :=
  x.wp (fun h o k' => Runs C l h o.isOk ∧ k'.vfo = v) k

/-- The plan is carried out as far as it gets; if there is none, the conversation ends at once with
the reason. -/
def Carries (C : Completion) (x : Dialogue α) (plan : Outcome Plan) (k : Tracking) : Prop :=
  x.wp (fun h o k' => match plan with
    | .ok p => Runs C p.requests h o.isOk ∧ p.Leaves C h k.vfo k'.vfo
    | .error e => h = [] ∧ o = .error e ∧ k' = k) k

namespace Row

theorem done {a : α} (hv : k.vfo = v) : (pure a : Dialogue α).Row C [] v k :=
  ⟨.nil, hv⟩

theorem known_bind {f : Tracking → Dialogue α} (hf : (f k).Row C l v k) :
    (known >>= f).Row C l v k := by
  simpa [Row] using hf

theorem learn_bind {f : Unit → Dialogue α} {k' : Tracking} (hf : (f ()).Row C l v k') :
    (learn k' >>= f).Row C l v k := by
  simpa [Row] using hf

theorem bind {x : Dialogue α} {f : α → Dialogue β} (hx : x.Row C l v k)
    (hf : ∀ a k', k'.vfo = v → (f a).Row C l' v k') : (x >>= f).Row C (l ++ l') v k := by
  rw [Row, wp_bind]
  refine wp_mono (fun h o k' hrow => ?_) hx
  obtain ⟨hruns, hv⟩ := hrow
  cases o with
  | error e => exact ⟨hruns.stopped rfl, hv⟩
  | ok a =>
    refine wp_mono (fun h' o' k'' hrow' => ?_) (hf a k' hv)
    exact ⟨hruns.append rfl hrow'.1, hrow'.2⟩

/-- One request for each member of a list. -/
theorem forM {as : List α} {f : α → Dialogue Unit} {g : α → Request} (hv : k.vfo = v)
    (hf : ∀ a ∈ as, ∀ k', k'.vfo = v → (f a).Row C [g a] v k') :
    (as.forM f).Row C (as.map g) v k := by
  induction as generalizing k with
  | nil => exact done hv
  | cons a as ih =>
    refine bind (hf a List.mem_cons_self k hv) fun _ k' hk' => ?_
    exact ih hk' fun a ha => hf a (List.mem_cons_of_mem _ ha)

theorem selected (hv : v ∈ d.vfos) (hne : v ≠ .current) : (selected d v).Row C [] v k := by
  have hresolve : k.resolve v = v := Tracking.resolve_of_ne hne
  rw [Row, wp_selected]
  refine ⟨fun k' h => ?_, fun e h => ?_⟩
  · obtain ⟨-, rfl⟩ := Tracking.select_ok.1 h
    exact ⟨.nil, hresolve⟩
  · rw [Tracking.select, hresolve, Descriptor.checkVfo_ok.2 (.inr hv)] at h
    cases h

end Row

namespace Carries

theorem fail {e : Error} : (fail e : Dialogue α).Carries C (.error e) k :=
  ⟨rfl, rfl, rfl⟩

theorem known_bind {f : Tracking → Dialogue α} {plan : Outcome Plan}
    (hf : (f k).Carries C plan k) : (known >>= f).Carries C plan k := by
  simpa [Carries] using hf

/-- A check that the conversation and its plan both make. -/
theorem lift_bind {o : Outcome β} {f : β → Dialogue α} {g : β → Outcome Plan}
    (hf : ∀ b, o = .ok b → (f b).Carries C (g b) k) :
    ((liftM o : Dialogue β) >>= f).Carries C (o >>= g) k := by
  cases o with
  | ok b => exact hf b rfl
  | error e => exact fail

/-- A plan without a selection. -/
theorem of_row {x : Dialogue α} (hx : x.Row C l k.vfo k) :
    x.Carries C (.ok { commands := l }) k :=
  wp_mono (fun _ _ _ hrow => ⟨hrow.1, nofun, fun _ => hrow.2⟩) hx

/-- First the request that selects a VFO, and then, with the VFO selected, the commands. -/
theorem select_bind {x : Dialogue α} {f : α → Dialogue β} (hx : x.Row C [r] k.vfo k)
    (hf : ∀ a k', (f a).Row C l v k') :
    (x >>= f).Carries C (.ok { selection := some (v, r), commands := l }) k := by
  rw [Carries, wp_bind]
  refine wp_mono (fun h o k' hrow => ?_) hx
  obtain ⟨hruns, hk'⟩ := hrow
  -- The one request is made either way, so that its event is the first of all.
  cases o with
  | error e =>
    have hruns : Runs C [r] h false := hruns
    cases hruns with
    | stop hnot =>
      refine ⟨.stop hnot, fun _ _ _ hcompleted => ?_, fun _ => hk'⟩
      obtain ⟨x, hx, hx'⟩ := hcompleted
      cases hx
      exact absurd hx' hnot
    | cons _ hrest => cases hrest
  | ok a =>
    have hruns : Runs C [r] h true := hruns
    cases hruns with
    | cons hdone hrest =>
      cases hrest
      refine wp_mono (fun h' o' k'' hrow' => ?_) (hf a k')
      refine ⟨.cons hdone hrow'.1, fun v' r' hselection _ => ?_, fun hkept => ?_⟩
      · cases hselection
        exact hrow'.2
      · rcases hkept with hnone | hnot
        · cases hnone
        · exact absurd hdone (hnot _ rfl)

/-- The selection, if one is due, may be a conversation of its own. -/
theorem switch_bind {s : Outcome (Option (Vfo × Request))} {x : Dialogue Unit}
    {f : Unit → Dialogue α} (hx : x.Carries C (do return { selection := ← s }) k)
    (hf : ∀ k', (f ()).Row C l k'.vfo k') :
    (x >>= f).Carries C (do return { selection := ← s, commands := l }) k := by
  rw [Carries, wp_bind]
  refine wp_mono (fun h o k' hcarried => ?_) hx
  match s with
  | .error e =>
    obtain ⟨rfl, rfl, rfl⟩ := hcarried
    exact ⟨rfl, rfl, rfl⟩
  | .ok selection =>
    obtain ⟨hruns, hleaves⟩ := hcarried
    have hruns : Runs C ((selection.map Prod.snd).toList ++ []) h o.isOk := hruns
    rw [List.append_nil] at hruns
    cases o with
    | error e => exact ⟨hruns.stopped rfl, hleaves.selected, hleaves.kept⟩
    | ok u =>
      refine wp_mono (fun h' o' k'' hrow => ?_) (hf k')
      obtain ⟨hruns', hk''⟩ := hrow
      refine ⟨hruns.append rfl hruns', ?_⟩
      -- The events of the selection, if there are any, stay in front.
      cases selection with
      | none =>
        cases hruns
        exact ⟨nofun, fun _ => hk''.trans (hleaves.kept (.inl rfl))⟩
      | some selection =>
        obtain ⟨v, r⟩ := selection
        have hruns : Runs C [r] h true := hruns
        cases hruns with
        | cons hdone hrest =>
          refine ⟨fun v' r' hselection hcompleted => ?_, fun hkept => ?_⟩
          · rw [hk'']
            exact hleaves.selected v' r' hselection hcompleted
          · rw [hk'']
            exact hleaves.kept hkept

end Carries

end Dialogue

end RigControl

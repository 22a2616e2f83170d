/-
The choice among the filters of a mode, by what the model declares. The normal width is the first one that
the mode declares, the narrow and the wide filter are its nearest neighbours among the declared widths, and
a request is met if the mode declares its width or any width (`filters_coherent`). The order of declaration
says which width is the normal one. It makes no difference to which requests are met.
-/
import RigControl.Capability.Filter
import RigControl.Models.Icom

namespace RigControl

/-! ## Picking one of some widths -/

namespace Passband

variable {side : Passband → Passband → Prop} {pick : Passband → Passband → Passband}

theorem eq_of_hz {x y : Passband} (h : x.hz = y.hz) : x = y := by
  cases x
  cases y
  exact congrArg mk h

/-- Of two widths the one is picked that is further away from the side where `side x y` puts `x`. -/
structure Picks (side : Passband → Passband → Prop) (pick : Passband → Passband → Passband) : Prop where
  irrefl : ∀ x, ¬ side x x
  cotrans : ∀ {x z} y, side x z → side x y ∨ side y z
  eq_of_not : ∀ {x y}, ¬ side x y → ¬ side y x → x = y
  picked : ∀ x y, pick x y = x ∧ ¬ side x y ∨ pick x y = y ∧ ¬ side y x

theorem wider_picks : Picks (· < ·) wider where
  irrefl x := Nat.lt_irrefl x.hz
  cotrans {x z} y (h : x.hz < z.hz) := show x.hz < y.hz ∨ y.hz < z.hz by omega
  eq_of_not {x y} (h : ¬ x.hz < y.hz) (h' : ¬ y.hz < x.hz) := eq_of_hz (by omega)
  picked x y := by
    unfold wider
    split
    · exact .inl ⟨rfl, Nat.lt_asymm ‹_›⟩
    · exact .inr ⟨rfl, ‹_›⟩

theorem narrower_picks : Picks (· > ·) narrower where
  irrefl x := Nat.lt_irrefl x.hz
  cotrans {x z} y (h : z.hz < x.hz) := show y.hz < x.hz ∨ z.hz < y.hz by omega
  eq_of_not {x y} (h : ¬ y.hz < x.hz) (h' : ¬ x.hz < y.hz) := eq_of_hz (by omega)
  picked x y := by
    unfold narrower
    split
    · exact .inr ⟨rfl, Nat.lt_asymm ‹_›⟩
    · exact .inl ⟨rfl, ‹_›⟩

/-- What is picked in the end is one of the widths, and none of them is further away. -/
theorem Picks.foldl (h : Picks side pick) (l : List Passband) (w : Passband) :
    l.foldl pick w ∈ w :: l ∧ ∀ x ∈ w :: l, ¬ side (l.foldl pick w) x := by
  induction l generalizing w with
  | nil =>
    refine ⟨List.mem_singleton_self w, fun x hx => ?_⟩
    rw [List.mem_singleton.1 hx]
    exact h.irrefl w
  | cons y l ih =>
    obtain ⟨hmem, hbest⟩ := ih (pick w y)
    rw [List.forall_mem_cons] at hbest
    rw [List.foldl_cons, List.forall_mem_cons, List.forall_mem_cons]
    obtain ⟨hpick, hother⟩ | ⟨hpick, hother⟩ := h.picked w y
    · rw [hpick] at hmem hbest ⊢
      refine ⟨?_, hbest.1, fun hside => ?_, hbest.2⟩
      · rcases List.mem_cons.1 hmem with heq | hrest
        · rw [heq]
          exact List.mem_cons_self
        · exact List.mem_cons_of_mem _ (List.mem_cons_of_mem _ hrest)
      · exact (h.cotrans w hside).elim hbest.1 hother
    · rw [hpick] at hmem hbest ⊢
      refine ⟨List.mem_cons_of_mem _ hmem, fun hside => ?_, hbest.1, hbest.2⟩
      exact (h.cotrans y hside).elim hbest.1 hother

end Passband

namespace Descriptor

open Passband (Picks wider_picks narrower_picks)

variable {d : Descriptor} {m : Mode} {w n : Passband} {f : Filter}

/-! ## Declared widths -/

/-- The mode has a filter of this width. -/
def Declares (d : Descriptor) (m : Mode) (w : Passband) : Prop :=
  ∃ f ∈ d.filters, m ∈ f.modes ∧ f.width = some w

/-- The mode has a filter that stands for any width. -/
def DeclaresAny (d : Descriptor) (m : Mode) : Prop :=
  ∃ f ∈ d.filters, m ∈ f.modes ∧ f.width = none

/-- The mode has a filter of this width, and no other width in front of it. -/
def DeclaresFirst (d : Descriptor) (m : Mode) (w : Passband) : Prop :=
  ∃ before f after, d.filters = before ++ f :: after ∧ m ∈ f.modes ∧ f.width = some w ∧
    ∀ g ∈ before, m ∈ g.modes → g.width = none

theorem mem_filtersFor : f ∈ d.filtersFor m ↔ f ∈ d.filters ∧ m ∈ f.modes :=
  List.mem_filter

theorem mem_widthsFor : w ∈ d.widthsFor m ↔ d.Declares m w := by
  simp only [widthsFor, List.mem_filterMap, mem_filtersFor, Declares, and_assoc]

/-- The first width in the list of a mode is the first one declared. -/
theorem defaultFilter_eq_some : d.defaultFilter m = some w ↔ d.DeclaresFirst m w := by
  have hwidth : ∀ f : Filter, (if f.modes.contains m = true then f.width else none) = some w ↔
      m ∈ f.modes ∧ f.width = some w := by
    intro f
    by_cases hm : f.modes.contains m = true <;> simp [Flags.mem_iff, hm]
  have hnone : ∀ f : Filter, (if f.modes.contains m = true then f.width else none) = none ↔
      (m ∈ f.modes → f.width = none) := by
    intro f
    by_cases hm : f.modes.contains m = true <;> simp [Flags.mem_iff, hm]
  rw [defaultFilter, widthsFor, filtersFor, List.filterMap_filter, List.head?_filterMap,
    List.findSome?_eq_some_iff]
  simp only [hwidth, hnone, and_assoc, DeclaresFirst]

theorem Declares.of_default (h : d.defaultFilter m = some n) : d.Declares m n :=
  mem_widthsFor.1 (List.mem_of_head? h)

/-! ## Requests -/

theorem serves_iff : serves w f = true ↔ f.width = some w ∨ f.width = none := by
  unfold serves
  cases f.width <;> simp

theorem any_serves :
    (d.filtersFor m).any (serves w) = true ↔ d.Declares m w ∨ d.DeclaresAny m := by
  simp only [List.any_eq_true, mem_filtersFor, serves_iff, Declares, DeclaresAny, and_assoc, and_or_left,
    exists_or]

theorem filterFor_eq_ok : d.filterFor m (some w) = .ok (some w) ↔ d.Declares m w ∨ d.DeclaresAny m := by
  rw [← any_serves, filterFor]
  split <;> simp [*]

theorem filterFor_error (h : ¬ (d.Declares m w ∨ d.DeclaresAny m)) : d.filterFor m (some w) =
    .error (.invalidParameter s!"{d.name} has no {w.label} filter for {m.label}") :=
  if_neg (mt any_serves.1 h)

/-! ## Neighbours -/

/-- A declared width on one side of another width, with no declared width between the two. -/
structure Adjacent (side : Passband → Passband → Prop) (d : Descriptor) (m : Mode) (n w : Passband) :
    Prop where
  declared : d.Declares m w
  aside : side w n
  nearest : ∀ x, d.Declares m x → ¬ (side w x ∧ side x n)

/-- The nearest declared width on one side, if any is declared there. -/
structure Neighbour (side : Passband → Passband → Prop) (d : Descriptor) (m : Mode) (n : Passband)
    (found : Option Passband) : Prop where
  some_iff : ∀ w, found = some w ↔ d.Adjacent side m n w
  none_iff : found = none ↔ ∀ w, d.Declares m w → ¬ side w n

section

variable {side : Passband → Passband → Prop} {pick : Passband → Passband → Passband}

theorem Adjacent.unique (h : Picks side pick) {x : Passband} (hw : d.Adjacent side m n w)
    (hx : d.Adjacent side m n x) : w = x :=
  h.eq_of_not (fun hside => hw.nearest x hx.declared ⟨hside, hx.aside⟩)
    fun hside => hx.nearest w hw.declared ⟨hside, hw.aside⟩

/-- Picking among the widths on one side finds the nearest one. -/
theorem neighbour_of_picks (h : Picks side pick) (choose : List Passband → Option Passband)
    (hnil : choose [] = none) (hcons : ∀ w rest, choose (w :: rest) = some (rest.foldl pick w))
    {p : Passband → Bool} (hp : ∀ x, p x = true ↔ side x n) :
    d.Neighbour side m n (choose ((d.widthsFor m).filter p)) := by
  have hmem : ∀ x, x ∈ (d.widthsFor m).filter p ↔ d.Declares m x ∧ side x n := by
    intro x
    rw [List.mem_filter, mem_widthsFor, hp]
  cases hwidths : (d.widthsFor m).filter p with
  | nil =>
    rw [hwidths] at hmem
    have hno : ∀ x, d.Declares m x → ¬ side x n := fun x hx hside =>
      nomatch (hmem x).2 ⟨hx, hside⟩
    rw [hnil]
    exact ⟨fun w => ⟨nofun, fun hw => absurd hw.aside (hno w hw.declared)⟩, fun _ => hno, fun _ => rfl⟩
  | cons a rest =>
    rw [hwidths] at hmem
    obtain ⟨hfound, hbest⟩ := h.foldl rest a
    obtain ⟨hdeclared, haside⟩ := (hmem _).1 hfound
    have hadjacent : d.Adjacent side m n (rest.foldl pick a) :=
      ⟨hdeclared, haside, fun x hx hside => hbest x ((hmem x).2 ⟨hx, hside.2⟩) hside.1⟩
    rw [hcons]
    refine ⟨fun w => ⟨fun hw => ?_, fun hw => ?_⟩, nofun, fun hno => ?_⟩
    · rw [← Option.some.inj hw]
      exact hadjacent
    · rw [hadjacent.unique h hw]
    · exact absurd haside (hno _ hdeclared)

end

theorem narrowFilter_neighbour (h : d.defaultFilter m = some n) :
    d.Neighbour (· < ·) m n (d.narrowFilter m) := by
  rw [narrowFilter, h]
  exact neighbour_of_picks wider_picks widest rfl (fun _ _ => rfl) fun _ => decide_eq_true_iff

theorem wideFilter_neighbour (h : d.defaultFilter m = some n) :
    d.Neighbour (· > ·) m n (d.wideFilter m) := by
  rw [wideFilter, h]
  exact neighbour_of_picks narrower_picks narrowest rfl (fun _ _ => rfl) fun _ => decide_eq_true_iff

/-- **The filters of a mode fit together.** Without a request the width is the normal one, which is the
first that the mode declares. Its narrow and wide filter are the nearest declared widths on either side,
and there is none only if nothing is declared on that side. All three of them can be requested, as can
every width that the mode declares, and any width if the mode declares that. Any other request is refused,
and the order of the filters makes no difference to it. -/
theorem filters_coherent (d : Descriptor) (m : Mode) :
    d.filterFor m none = .ok (d.defaultFilter m) ∧
    (∀ w, d.defaultFilter m = some w ↔ d.DeclaresFirst m w) ∧
    (∀ n, d.defaultFilter m = some n →
      d.Neighbour (· < ·) m n (d.narrowFilter m) ∧ d.Neighbour (· > ·) m n (d.wideFilter m) ∧
      ∀ w, some w ∈ [d.defaultFilter m, d.narrowFilter m, d.wideFilter m] →
        d.filterFor m (some w) = .ok (some w)) ∧
    (∀ w, (d.filterFor m (some w) = .ok (some w) ↔ d.Declares m w ∨ d.DeclaresAny m) ∧
      (¬ (d.Declares m w ∨ d.DeclaresAny m) →
        ∃ detail, d.filterFor m (some w) = .error (.invalidParameter detail))) ∧
    ∀ order, order.Perm d.filters → ∀ w,
      ({ d with filters := order } : Descriptor).filterFor m (some w) = d.filterFor m (some w) := by
  refine ⟨rfl, fun w => defaultFilter_eq_some, fun n hn => ?_,
    fun w => ⟨filterFor_eq_ok, fun h => ?_⟩, fun order horder w => ?_⟩
  · have hnarrow := narrowFilter_neighbour hn
    have hwide := wideFilter_neighbour hn
    refine ⟨hnarrow, hwide, fun w hw => filterFor_eq_ok.2 (.inl ?_)⟩
    simp only [List.mem_cons, List.not_mem_nil, or_false] at hw
    rcases hw with hw | hw | hw
    · exact .of_default hw.symm
    · exact ((hnarrow.some_iff w).1 hw.symm).declared
    · exact ((hwide.some_iff w).1 hw.symm).declared
  · exact ⟨_, filterFor_error h⟩
  · have hsame : ∀ P : Filter → Prop, (∃ f ∈ order, P f) ↔ ∃ f ∈ d.filters, P f := fun P =>
      exists_congr fun f => and_congr_left fun _ => horder.mem_iff
    have hserved : ({ d with filters := order } : Descriptor).Declares m w ∨
        ({ d with filters := order } : Descriptor).DeclaresAny m ↔ d.Declares m w ∨ d.DeclaresAny m :=
      or_congr (hsame _) (hsame _)
    by_cases h : d.Declares m w ∨ d.DeclaresAny m
    · rw [filterFor_eq_ok.2 h, filterFor_eq_ok.2 (hserved.2 h)]
    · rw [filterFor_error h, filterFor_error (mt hserved.1 h)]

/-- A mode declares any width first, then its normal width, which is neither the widest nor the narrowest,
and one of the others twice. -/
theorem filters_coherent_unordered :
    let cw : Flags Mode := .ofList [.cw]
    let usb : Flags Mode := .ofList [.usb]
    let d : Descriptor := { Models.ic7800 with
      filters := [⟨cw, some ⟨500⟩⟩, ⟨usb, none⟩, ⟨cw ∪ usb, some ⟨2400⟩⟩, ⟨usb, some ⟨1200⟩⟩,
        ⟨usb, some ⟨6000⟩⟩, ⟨usb, some ⟨1800⟩⟩, ⟨usb, some ⟨3000⟩⟩, ⟨usb, some ⟨1800⟩⟩] }
    d.defaultFilter .usb = some ⟨2400⟩ ∧ d.Adjacent (· < ·) .usb ⟨2400⟩ ⟨1800⟩ ∧
      d.Adjacent (· > ·) .usb ⟨2400⟩ ⟨3000⟩ ∧ d.DeclaresFirst .cw ⟨500⟩ ∧
      d.filterFor .usb (some ⟨2700⟩) = .ok (some ⟨2700⟩) ∧
      ({ d with filters := d.filters.reverse } : Descriptor).filterFor .cw (some ⟨2700⟩) =
        d.filterFor .cw (some ⟨2700⟩) := by
  intro cw usb d
  have hn : d.defaultFilter .usb = some ⟨2400⟩ := by decide +kernel
  obtain ⟨-, -, hneighbours, hrequests, -⟩ := filters_coherent d .usb
  obtain ⟨-, hfirst, -, -, horder⟩ := filters_coherent d .cw
  obtain ⟨hnarrow, hwide, -⟩ := hneighbours _ hn
  have hany : d.DeclaresAny .usb := ⟨⟨usb, none⟩, by simp [d], by decide, rfl⟩
  exact ⟨hn, (hnarrow.some_iff _).1 (by decide +kernel), (hwide.some_iff _).1 (by decide +kernel),
    (hfirst _).1 (by decide +kernel), (hrequests ⟨2700⟩).1.2 (.inr hany),
    horder _ (List.reverse_perm d.filters) _⟩

end Descriptor

end RigControl

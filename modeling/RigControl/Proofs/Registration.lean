/-
Building a table of models. Whatever is listed, the table has for each number the first listed model
that is sound and has this number, in ascending order; a model with a flaw takes no number from a later
one, and a later one replaces none. So a look-up by number finds that model, and a look-up by name the
one with the least number among those whose names are alike (`ofList_keeps_first`).
-/
import Mathlib.Data.Finset.Card
import Mathlib.Data.List.Forall2
import RigControl.Proofs.Registered

namespace RigControl

/-! ## Names -/

/-- The same letter or digit, whatever its case. -/
def Entry.SameLetter (c d : Char) : Prop :=
  c = d ∨ c.toLower = d ∨ c = d.toLower

/-- The ASCII letters and digits of a name. -/
def Entry.letters (name : String) : List Char :=
  name.toList.filter Char.isAlphanum

/-- Names with the same letters and digits, whatever their case and whatever stands between them. -/
def Entry.Alike (a b : String) : Prop :=
  List.Forall₂ SameLetter (letters a) (letters b)

namespace Entry

theorem sameLetter_iff {c d : Char} : SameLetter c d ↔ c.toLower = d.toLower := by
  delta SameLetter Char.toLower
  simp only [Char.ext_iff]
  -- whether or not either of them is a capital
  split
  · split
    · grind
    · grind
  · split
    · grind
    · grind

theorem alike_iff {a b : String} : Alike a b ↔ key a = key b := by
  have hsame : SameLetter = fun c d => c.toLower = d.toLower := by
    funext c d
    exact propext sameLetter_iff
  calc Alike a b
    _ ↔ List.Forall₂ Eq (key a) (key b) := by
      rw [key, key, List.forall₂_map_left_iff, List.forall₂_map_right_iff, Alike, hsame]
      rfl
    _ ↔ key a = key b := by rw [List.forall₂_eq_eq_eq]

/-- Whether the descriptor has no flaw. -/
def isSound (e : Entry) : Bool := e.descriptor.validate.isOk

theorem isSound_iff {e : Entry} : e.isSound = true ↔ e.descriptor.validate = .ok () := by
  unfold isSound
  cases e.descriptor.validate <;> simp [Except.isOk, Except.toBool]

end Entry

namespace Registry

variable {l : List Entry} {r : Registry} {e x : Entry} {id : Nat}

/-! ## Tables in order -/

/-- The numbers ascend. -/
def Ascending (l : List Entry) : Prop :=
  l.Pairwise (·.id < ·.id)

/-- In a table in order the first entry with a property is the one with the least number. -/
theorem Ascending.find?_eq_some_iff (h : Ascending l) {p : Entry → Bool} :
    l.find? p = some e ↔ e ∈ l ∧ p e = true ∧ ∀ x ∈ l, p x = true → e.id ≤ x.id := by
  constructor
  · intro hfind
    obtain ⟨hp, before, after, rfl, hbefore⟩ := List.find?_eq_some_iff_append.1 hfind
    obtain ⟨-, hafter, -⟩ := List.pairwise_append.1 h
    refine ⟨List.mem_append_right _ List.mem_cons_self, hp, fun x hx hpx => ?_⟩
    rcases List.mem_append.1 hx with hx | hx
    · exact absurd hpx (by simpa using hbefore x hx)
    · rcases List.mem_cons.1 hx with rfl | hx
      · exact Nat.le_refl _
      · exact Nat.le_of_lt (List.rel_of_pairwise_cons hafter hx)
  · rintro ⟨he, hp, hleast⟩
    obtain ⟨before, after, rfl⟩ := List.append_of_mem he
    obtain ⟨-, -, hacross⟩ := List.pairwise_append.1 h
    refine List.find?_eq_some_iff_append.2 ⟨hp, before, after, rfl, fun x hx => ?_⟩
    have hlt : x.id < e.id := hacross x hx e List.mem_cons_self
    have hnot : ¬ p x = true := fun hpx =>
      Nat.not_le.2 hlt (hleast x (List.mem_append_left _ hx) hpx)
    simpa using hnot

/-! ## Registering -/

/-- The first entry with a number. -/
def withId (l : List Entry) (id : Nat) : Option Entry :=
  l.find? (·.id == id)

theorem withId_cons : withId (e :: l) id = if e.id = id then some e else withId l id := by
  by_cases h : e.id = id <;> simp [withId, h]

theorem withId_eq_none (h : ∀ x ∈ l, x.id ≠ id) : withId l id = none := by
  simpa [withId] using h

theorem insertInto_ascending (h : Ascending l) : Ascending (insertInto l e) := by
  induction l with
  | nil => exact List.pairwise_singleton _ _
  | cons first rest ih =>
    obtain ⟨hfirst, hrest⟩ := List.pairwise_cons.1 h
    unfold insertInto
    split
    · rename_i hlt
      refine List.pairwise_cons.2 ⟨fun x hx => ?_, h⟩
      rcases List.mem_cons.1 hx with rfl | hx
      · exact hlt
      · exact Nat.lt_trans hlt (hfirst x hx)
    · split
      · exact h
      · rename_i hle hne
        refine List.pairwise_cons.2 ⟨fun x hx => ?_, ih hrest⟩
        rcases mem_insertInto hx with rfl | hx
        · omega
        · exact hfirst x hx

/-- An entry that is put in place is found under its number unless that was taken. -/
theorem withId_insertInto (h : Ascending l) :
    withId (insertInto l e) id = (withId l id).or (if e.id = id then some e else none) := by
  induction l with
  | nil => exact withId_cons
  | cons first rest ih =>
    obtain ⟨hfirst, hrest⟩ := List.pairwise_cons.1 h
    unfold insertInto
    split
    · rename_i hlt
      rw [withId_cons]
      split
      · -- the number is less than all that are there
        have hnone : withId (first :: rest) id = none := by
          refine withId_eq_none fun x hx => ?_
          rcases List.mem_cons.1 hx with rfl | hx
          · omega
          · have := hfirst x hx
            omega
        rw [hnone]
        rfl
      · exact Option.or_none.symm
    · split
      · rename_i heq
        rw [withId_cons, heq]
        split
        · rfl
        · exact Option.or_none.symm
      · rw [withId_cons, withId_cons, ih hrest]
        split
        · rfl
        · rfl

/-- The first sound entry with a number. -/
def firstSound (l : List Entry) (id : Nat) : Option Entry :=
  l.find? fun e => e.isSound && e.id == id

theorem firstSound_cons : firstSound (e :: l) id =
    (if e.isSound ∧ e.id = id then some e else none).or (firstSound l id) := by
  by_cases hs : e.isSound = true <;> by_cases hid : e.id = id <;> simp [firstSound, hs, hid]

theorem register_eq : r.register e = if e.isSound then ⟨insertInto r.entries e⟩ else r := rfl

theorem register_ascending (h : Ascending r.entries) : Ascending (r.register e).entries := by
  rw [register_eq]
  split
  · exact insertInto_ascending h
  · exact h

theorem get?_register (h : Ascending r.entries) : (r.register e).get? id =
    (r.get? id).or (if e.isSound ∧ e.id = id then some e else none) := by
  rw [register_eq]
  by_cases hsound : e.isSound = true
  · simp only [hsound, if_true, true_and]
    exact withId_insertInto h
  · rw [if_neg hsound, if_neg fun hboth => hsound hboth.1]
    exact Option.or_none.symm

/-- **Registering some models** leaves the table in order. Under a number that was free the first
sound one of them is found; under a number that was taken, what was there. -/
theorem foldl_register (h : Ascending r.entries) : Ascending (l.foldl register r).entries ∧
    ∀ id, (l.foldl register r).get? id = (r.get? id).or (firstSound l id) := by
  induction l generalizing r with
  | nil => exact ⟨h, fun id => Option.or_none.symm⟩
  | cons e l ih =>
    obtain ⟨hascending, hget⟩ := ih (register_ascending h)
    refine ⟨hascending, fun id => ?_⟩
    rw [List.foldl_cons, hget, get?_register h, firstSound_cons, Option.or_assoc]

theorem ofList_ascending : Ascending (ofList l).entries :=
  (foldl_register List.Pairwise.nil).1

theorem get?_ofList : (ofList l).get? id = firstSound l id :=
  (foldl_register List.Pairwise.nil).2 id

theorem mem_entries_iff (h : Ascending r.entries) : e ∈ r.entries ↔ r.get? e.id = some e := by
  rw [get?, h.find?_eq_some_iff]
  constructor
  · intro he
    exact ⟨he, beq_self_eq_true _, fun x _ hx => (Nat.le_of_eq (beq_iff_eq.1 hx).symm)⟩
  · rintro ⟨he, -⟩
    exact he

/-- There is one entry for each number of a sound model. -/
theorem size_ofList : (ofList l).size = ((l.filter Entry.isSound).map Entry.id).toFinset.card := by
  have hnodup : ((ofList l).entries.map Entry.id).Nodup :=
    List.pairwise_map.2 (ofList_ascending.imp fun hlt => Nat.ne_of_lt hlt)
  have hsame : ((ofList l).entries.map Entry.id).toFinset =
      ((l.filter Entry.isSound).map Entry.id).toFinset := by
    ext id
    simp only [List.mem_toFinset, List.mem_map, List.mem_filter]
    constructor
    · rintro ⟨e, he, rfl⟩
      obtain ⟨hl, hvalid⟩ := mem_ofList he
      exact ⟨e, ⟨hl, Entry.isSound_iff.2 hvalid⟩, rfl⟩
    · rintro ⟨e, ⟨hl, hsound⟩, rfl⟩
      obtain ⟨x, hx⟩ : ∃ x, firstSound l e.id = some x :=
        Option.isSome_iff_exists.1 (List.find?_isSome.2 ⟨e, hl, by simp [hsound]⟩)
      have hfind : (ofList l).entries.find? (·.id == e.id) = some x := get?_ofList.trans hx
      have hid := List.find?_some hfind
      exact ⟨x, List.mem_of_find?_eq_some hfind, beq_iff_eq.1 hid⟩
  rw [← hsame, List.toFinset_card_of_nodup hnodup, List.length_map]
  rfl

/-- **A table keeps the first sound model with each number.** Under a number the first listed entry is
found that is sound and has it, and the table has no others; all of them are sound, their numbers
ascend, and there are as many as there are numbers of sound models. Under a name the entry with the
least number is found whose name is alike, unless there is none. -/
theorem ofList_keeps_first (l : List Entry) :
    (∀ id, (ofList l).get? id =
      l.find? fun e => e.descriptor.validate.isOk && e.descriptor.id.raw == id) ∧
    (∀ e, e ∈ (ofList l).entries ↔ (ofList l).get? e.id = some e) ∧
    (∀ e ∈ (ofList l).entries, e.descriptor.validate = .ok ()) ∧
    (ofList l).entries.Pairwise (·.id < ·.id) ∧
    (ofList l).size =
      ((l.filter (·.descriptor.validate.isOk)).map (·.descriptor.id.raw)).toFinset.card ∧
    (∀ name e, (ofList l).find? name = some e ↔ e ∈ (ofList l).entries ∧
      Entry.Alike e.descriptor.name name ∧
      ∀ x ∈ (ofList l).entries, Entry.Alike x.descriptor.name name → e.id ≤ x.id) ∧
    ∀ name, (ofList l).find? name = none ↔
      ∀ e ∈ (ofList l).entries, ¬ Entry.Alike e.descriptor.name name := by
  refine ⟨fun id => get?_ofList, fun e => mem_entries_iff ofList_ascending,
    fun e he => (mem_ofList he).2, ofList_ascending, size_ofList, fun name e => ?_, fun name => ?_⟩
  · simp only [find?, ofList_ascending.find?_eq_some_iff, beq_iff_eq, Entry.alike_iff]
  · simp only [find?, List.find?_eq_none, beq_iff_eq, Entry.alike_iff]

/-- A model with a flaw does not take its number from a later one, and the third one with that number
comes too late; the name is found in another spelling. -/
example :
    let flawed : Entry := ⟨{ Models.ft840 with line := { retry := 0 } }, .ft840⟩
    let late : Entry := ⟨{ Models.ft840 with name := "Late" }, .ft840⟩
    let r := Registry.ofList [⟨Models.ic275, .civ⟩, flawed, ⟨Models.ft840, .ft840⟩, late]
    r.entries = [⟨Models.ft840, .ft840⟩, ⟨Models.ic275, .civ⟩] ∧
    r.find? "ft 840" = some ⟨Models.ft840, .ft840⟩ := by
  decide +kernel

end Registry

end RigControl

/-
Rows of reads. Blocks of any shape are read one after another, some in vain; between them nothing is
flushed and the link stays up. What the link delivers meanwhile goes to the blocks and to what is
pending at the end, all of it and in its order (`reads_in_order`).

The bytes delivered are noted by a link of their own, around the one that is read from. Reading does not
notice it: the same reads without it have the same outcomes and leave the same port (`reads_untapped`).
-/
import RigControl.Proofs.Reading

namespace RigControl

/-! ## A link that notes what it delivers -/

/-- A link with all the bytes that it has delivered so far. -/
structure Tapped (σ : Type) where
  link : σ
  delivered : List UInt8 := []
deriving DecidableEq, Repr

namespace Tapped

variable {σ α : Type}

/-- Makes a call that delivers nothing. -/
def quietly (x : Action σ α) : Action (Tapped σ) α :=
  x.on Tapped.link fun t l => { t with link := l }

/-- Makes a call and notes the bytes that it gives. -/
def noting (x : Action σ (List UInt8)) : Action (Tapped σ) (List UInt8) := fun t =>
  let (o, l) := x.run t.link
  (o, ⟨l, t.delivered ++ Port.handed o⟩)

theorem run_noting {x : Action σ (List UInt8)} {t : Tapped σ} : (noting x).run t =
    ((x.run t.link).1, ⟨(x.run t.link).2, t.delivered ++ Port.handed (x.run t.link).1⟩) := rfl

theorem of_noting {x : Action σ (List UInt8)} {t u : Tapped σ} {o : Outcome (List UInt8)}
    (h : (noting x).run t = (o, u)) :
    x.run t.link = (o, u.link) ∧ u.delivered = t.delivered ++ Port.handed o := by
  rw [run_noting] at h
  obtain ⟨rfl, rfl⟩ := Prod.mk.inj h
  exact ⟨rfl, rfl⟩

instance [Link σ] : Link (Tapped σ) where
  send bytes := quietly (Link.send bytes)
  receive room timeout := noting (Link.receive room timeout)
  clearInput := quietly Link.clearInput
  close := quietly Link.close
  isConnected t := Link.isConnected t.link
  now t := Link.now t.link
  sleep ms := quietly (Link.sleep ms)
  budget t := Link.budget t.link
  receive_budget := by
    intro room timeout t u bytes hroom h
    exact Link.receive_budget hroom (of_noting h).1

/-- The calls of a link deliver what has been noted in between. -/
theorem delivered_of_received [Link σ] {t u : Tapped σ} {bytes : List UInt8}
    (h : Link.Received t bytes u) : u.delivered = t.delivered ++ bytes := by
  induction h with
  | nil t => simp
  | got h _ ih =>
    rw [ih, (of_noting h).2, List.append_assoc]
    rfl
  | missed h _ ih =>
    rw [ih, (of_noting h).2]
    simp [Port.handed]

end Tapped

namespace Port

variable {σ : Type} {deadline : Nat} {x : Extent}

/-- The port with a note of what its link delivers from now on. -/
def tap (p : Port σ) : Port (Tapped σ) :=
  { link := ⟨p.link, []⟩, pending := p.pending, pacing := p.pacing }

/-- The port without the note. -/
def untap (p : Port (Tapped σ)) : Port σ :=
  { link := p.link.link, pending := p.pending, pacing := p.pacing }

variable [Link σ]

/-! ## Reading does not notice -/

theorem fill_untapped {p : Port (Tapped σ)} {q : Port (Tapped σ)} {o : Outcome Unit}
    (h : fill deadline p = (o, q)) : fill deadline p.untap = (o, q.untap) := by
  unfold fill at h ⊢
  by_cases hlate : deadline ≤ Link.now p.link
  · have hlate' : deadline ≤ Link.now p.untap.link := hlate
    rw [if_pos hlate] at h
    rw [if_pos hlate']
    obtain ⟨rfl, rfl⟩ := Prod.mk.inj h
    rfl
  · have hlate' : ¬ deadline ≤ Link.now p.untap.link := hlate
    rw [if_neg hlate] at h
    rw [if_neg hlate']
    match hr : (Link.receive room (deadline - Link.now p.link)).run p.link with
    | (.ok bytes, l) =>
      obtain ⟨hreceive, -⟩ := Tapped.of_noting hr
      have hreceive : (Link.receive room (deadline - Link.now p.untap.link)).run p.untap.link =
          (.ok bytes, l.link) := hreceive
      simp only [hr] at h
      simp only [hreceive]
      obtain ⟨rfl, rfl⟩ := Prod.mk.inj h
      rfl
    | (.error e, l) =>
      obtain ⟨hreceive, -⟩ := Tapped.of_noting hr
      have hreceive : (Link.receive room (deadline - Link.now p.untap.link)).run p.untap.link =
          (.error e, l.link) := hreceive
      simp only [hr] at h
      simp only [hreceive]
      obtain ⟨rfl, rfl⟩ := Prod.mk.inj h
      rfl

theorem readBy_untapped (p : Port (Tapped σ)) :
    readBy deadline x p.untap = ((readBy deadline x p).1, (readBy deadline x p).2.untap) := by
  fun_induction readBy deadline x p with
  | case1 p n hn => exact readBy_cut hn
  | case2 p hn q hfilled ih =>
    have hcut : x.cut? p.untap.pending = none := hn
    rw [readBy_filled hcut (fill_untapped hfilled), ih]
  | case3 p hn e q hfailed =>
    have hcut : x.cut? p.untap.pending = none := hn
    exact readBy_failed hcut (fill_untapped hfailed)

/-! ## Rows of reads -/

/-- Reads blocks one after another, each with its own patience, and gives the outcomes. -/
def reads : List (Extent × Nat) → Port σ → List (Outcome (List UInt8)) × Port σ
  | [], p => ([], p)
  | (x, timeout) :: calls, p =>
    let (o, q) := (read x timeout).run p
    let (outcomes, t) := reads calls q
    (o :: outcomes, t)

theorem reads_cons {calls : List (Extent × Nat)} {timeout : Nat} {p : Port σ} :
    reads ((x, timeout) :: calls) p =
      (((read x timeout).run p).1 :: (reads calls ((read x timeout).run p).2).1,
        (reads calls ((read x timeout).run p).2).2) := rfl

theorem reads_untapped (calls : List (Extent × Nat)) (p : Port (Tapped σ)) :
    reads calls p.untap = ((reads calls p).1, (reads calls p).2.untap) := by
  induction calls generalizing p with
  | nil => rfl
  | cons call calls ih =>
    obtain ⟨x, timeout⟩ := call
    have hread : (read x timeout).run p.untap =
        (((read x timeout).run p).1, ((read x timeout).run p).2.untap) := readBy_untapped p
    rw [reads_cons, reads_cons, hread, ih]

/-- What each read takes in and does not hand out stays pending for the next. -/
theorem reads_received (calls : List (Extent × Nat)) (p : Port σ) :
    ∃ bytes, Link.Received p.link bytes (reads calls p).2.link ∧
      p.pending ++ bytes = ((reads calls p).1.map handed).flatten ++ (reads calls p).2.pending := by
  induction calls generalizing p with
  | nil => exact ⟨[], .nil p.link, by simp [reads]⟩
  | cons call calls ih =>
    obtain ⟨x, timeout⟩ := call
    obtain ⟨first, hfirst, hcut⟩ := readBy_received
      (show (read x timeout).run p = (((read x timeout).run p).1, ((read x timeout).run p).2) from rfl)
    obtain ⟨rest, hrest, hkept⟩ := ih ((read x timeout).run p).2
    refine ⟨first ++ rest, hfirst.append hrest, ?_⟩
    rw [reads_cons, List.map_cons, List.flatten_cons]
    calc p.pending ++ (first ++ rest)
      _ = handed ((read x timeout).run p).1 ++ ((read x timeout).run p).2.pending ++ rest := by
        rw [← List.append_assoc, hcut]
      _ = handed ((read x timeout).run p).1 ++ (((reads calls ((read x timeout).run p).2).1.map
            handed).flatten ++ (reads calls ((read x timeout).run p).2).2.pending) := by
        rw [List.append_assoc, hkept]
      _ = _ := (List.append_assoc ..).symm

/-- **No byte is lost, doubled or moved** by reads in a row, whatever blocks they wait for and whichever
of them fail: the blocks that were handed out and what is pending at the end are what was pending at
the start and what the link has delivered since, in that order. -/
theorem reads_in_order (calls : List (Extent × Nat)) (p : Port σ) :
    reads calls p = ((reads calls p.tap).1, (reads calls p.tap).2.untap) ∧
      ((reads calls p).1.map handed).flatten ++ (reads calls p).2.pending =
        p.pending ++ (reads calls p.tap).2.link.delivered := by
  have huntapped : reads calls p = ((reads calls p.tap).1, (reads calls p.tap).2.untap) :=
    reads_untapped calls p.tap
  refine ⟨huntapped, ?_⟩
  obtain ⟨bytes, hreceived, hkept⟩ := reads_received calls p.tap
  have hdelivered : (reads calls p.tap).2.link.delivered = [] ++ bytes :=
    Tapped.delivered_of_received hreceived
  rw [huntapped, hdelivered]
  exact hkept.symm

end Port

end RigControl

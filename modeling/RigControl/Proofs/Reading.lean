/-
Reading from a port. What a read takes in and does not hand out stays pending, whether it succeeds or
not (`readBy_received`). What it answers depends on the bytes that arrive in time and not on how they
are cut into chunks: a block that is there once everything has arrived is handed out
(`readBy_arrives`), and if there is none and nothing follows, the read times out (`readBy_silent`).

Both rest on `cut?_append`: more input never changes where a block ends that is already there.
-/
import RigControl.Link.Port

namespace RigControl

/-! ## What a link delivers -/

namespace Link

variable {σ : Type} [Link σ]

/-- Some calls have received these bytes. A call that fails receives none. -/
inductive Received : σ → List UInt8 → σ → Prop
  | nil (l : σ) : Received l [] l
  | got {l m n : σ} {room wait : Nat} {chunk bytes : List UInt8}
      (h : (receive room wait).run l = (.ok chunk, m)) (rest : Received m bytes n) :
      Received l (chunk ++ bytes) n
  | missed {l m n : σ} {room wait : Nat} {bytes : List UInt8} {e : Error}
      (h : (receive room wait).run l = (.error e, m)) (rest : Received m bytes n) :
      Received l bytes n

theorem Received.append {l m n : σ} {bytes more : List UInt8} (h : Received l bytes m)
    (h' : Received m more n) : Received l (bytes ++ more) n := by
  induction h with
  | nil => exact h'
  | got h _ ih =>
    rw [List.append_assoc]
    exact .got h (ih h')
  | missed h _ ih => exact .missed h (ih h')

/-- The link gives these chunks, one after another, to whoever waits up to the moment `limit` or
longer. Meanwhile time does not go back. -/
inductive Arrives (limit : Nat) : σ → List (List UInt8) → σ → Prop
  | nil (l : σ) : Arrives limit l [] l
  | cons {l m n : σ} {chunk : List UInt8} {chunks : List (List UInt8)} (early : now l < limit)
      (h : ∀ wait, limit ≤ now l + wait → (receive Port.room wait).run l = (.ok chunk, m))
      (onward : now l ≤ now m) (rest : Arrives limit m chunks n) :
      Arrives limit l (chunk :: chunks) n

/-- Nothing comes from the link within this time. -/
def Silent (timeout : Nat) (l : σ) : Prop :=
  ∀ wait ≤ timeout, ((receive Port.room wait).run l).1 = .error .timeout

/-- Nothing more comes from the link up to this moment, if it is still ahead. -/
def SilentUntil (deadline : Nat) (l : σ) : Prop :=
  now l < deadline → ((receive Port.room (deadline - now l)).run l).1 = .error .timeout

theorem Silent.until {timeout deadline : Nat} {l : σ} (h : Silent timeout l)
    (hsoon : deadline ≤ now l + timeout) : SilentUntil deadline l :=
  fun _ => h _ (by omega)

theorem Arrives.now_le {limit : Nat} {l m : σ} {chunks : List (List UInt8)}
    (h : Arrives limit l chunks m) : now l ≤ now m := by
  induction h with
  | nil l => exact Nat.le_refl _
  | cons _ _ onward _ ih => exact Nat.le_trans onward ih

end Link

/-! ## Where a block ends -/

namespace Extent

variable {x : Extent} {input more : List UInt8} {n : Nat}

theorem idxOf?_append {a : UInt8} {i : Nat} (h : input.idxOf? a = some i) :
    (input ++ more).idxOf? a = some i := by
  rw [List.idxOf?] at h ⊢
  rw [List.findIdx?_append, h]
  rfl

theorem cut?_append (h : x.cut? input = some n) : x.cut? (input ++ more) = some n := by
  cases x with
  | exact length =>
    simp only [cut?] at h ⊢
    split at h
    · cases h
    · rw [if_neg (by rw [List.length_append]; omega)]
      exact h
  | upTo terminator limit =>
    simp only [cut?] at h ⊢
    rw [List.take_append]
    cases hi : (input.take limit).idxOf? terminator with
    | some i =>
      rw [hi] at h
      rw [idxOf?_append hi]
      exact h
    | none =>
      -- The block is as long as blocks get, so that nothing more belongs to it.
      have hlong : limit ≤ input.length := by
        by_cases hlt : input.length < limit
        · simp [hi, hlt] at h
        · omega
      have hzero : limit - input.length = 0 := by omega
      rw [hzero, List.take_zero, List.append_nil, hi, List.length_append]
      rw [hi] at h
      simp only [if_neg (show ¬ input.length < limit by omega)] at h
      simp only [if_neg (show ¬ input.length + more.length < limit by omega)]
      exact h

theorem cut?_of_append (h : x.cut? (input ++ more) = none) : x.cut? input = none := by
  cases hi : x.cut? input with
  | none => rfl
  | some n =>
    rw [cut?_append hi] at h
    cases h

theorem cut?_le (h : x.cut? input = some n) : n ≤ input.length := by
  cases x with
  | exact length =>
    simp only [cut?] at h
    split at h
    · cases h
    · cases h
      omega
  | upTo terminator limit =>
    simp only [cut?] at h
    split at h
    · rename_i i hi
      cases h
      obtain ⟨hlt, -⟩ := List.idxOf?_eq_some_iff.1 hi
      rw [List.length_take] at hlt
      omega
    · split at h
      · cases h
      · cases h
        omega

/-- A block without bytes is cut from any input alike. -/
theorem cut?_zero (h : x.cut? input = some 0) (more : List UInt8) : x.cut? more = some 0 := by
  cases x with
  | exact length =>
    simp only [cut?, Option.ite_none_left_eq_some, Option.some.injEq] at h
    obtain ⟨-, rfl⟩ := h
    simp [cut?]
  | upTo terminator limit =>
    simp only [cut?] at h
    cases hi : (input.take limit).idxOf? terminator with
    | some i =>
      rw [hi] at h
      cases h
    | none =>
      simp only [hi, Option.ite_none_left_eq_some, Option.some.injEq] at h
      obtain ⟨-, rfl⟩ := h
      simp [cut?]

end Extent

/-! ## Blocks -/

namespace Port

variable {σ : Type} [Link σ] {deadline limit timeout n : Nat} {x : Extent} {p q : Port σ} {l m : σ}
  {pending chunk : List UInt8} {pacing : Pacing} {chunks : List (List UInt8)} {e : Error}

theorem fill_error (h : fill deadline p = (.error e, q)) :
    q.pending = p.pending ∧ Link.Received p.link [] q.link := by
  unfold fill at h
  split at h
  · cases h
    exact ⟨rfl, .nil _⟩
  · split at h
    · cases h
    · rename_i hr
      cases h
      exact ⟨rfl, .missed hr (.nil _)⟩

theorem fill_received (h : fill deadline p = (.ok (), q)) :
    ∃ chunk, q.pending = p.pending ++ chunk ∧ Link.Received p.link chunk q.link := by
  unfold fill at h
  split at h
  · cases h
  · split at h
    · rename_i chunk l hr
      cases h
      have hgot : Link.Received p.link (chunk ++ []) l := .got hr (.nil l)
      rw [List.append_nil] at hgot
      exact ⟨chunk, rfl, hgot⟩
    · cases h

/-- What a read hands out. -/
def handed : Outcome (List UInt8) → List UInt8
  | .ok block => block
  | .error _ => []

/-- **A read loses nothing**: what was pending and what it has received is what it hands out and what
is pending then. -/
theorem readBy_received {o : Outcome (List UInt8)} (h : readBy deadline x p = (o, q)) :
    ∃ bytes, Link.Received p.link bytes q.link ∧ p.pending ++ bytes = handed o ++ q.pending := by
  fun_induction readBy deadline x p with
  | case1 p n hn =>
    cases h
    refine ⟨[], .nil _, ?_⟩
    rw [List.append_nil]
    exact (List.take_append_drop n p.pending).symm
  | case2 p hn r hf ih =>
    obtain ⟨chunk, hpending, hchunk⟩ := fill_received hf
    obtain ⟨bytes, hbytes, heq⟩ := ih h
    refine ⟨chunk ++ bytes, hchunk.append hbytes, ?_⟩
    rw [← List.append_assoc, ← hpending]
    exact heq
  | case3 p hn err r hf =>
    cases h
    obtain ⟨hpending, hnone⟩ := fill_error hf
    refine ⟨[], hnone, ?_⟩
    rw [List.append_nil]
    exact hpending.symm

/-- A block without bytes is read from any input. -/
theorem readBy_nil (h : readBy deadline x p = (.ok [], q)) (input : List UInt8) :
    x.cut? input = some 0 := by
  fun_induction readBy deadline x p with
  | case1 p n hn =>
    have htake : p.pending.take n = [] := Except.ok.inj (congrArg Prod.fst h)
    have hlength := congrArg List.length htake
    have hle := Extent.cut?_le hn
    rw [List.length_nil, List.length_take] at hlength
    obtain rfl : n = 0 := by omega
    exact Extent.cut?_zero hn input
  | case2 p hn r hf ih => exact ih h
  | case3 p hn err r hf => cases h

theorem readBy_cut (h : x.cut? p.pending = some n) : readBy deadline x p =
    (.ok (p.pending.take n), { p with pending := p.pending.drop n }) := by
  rw [readBy]
  split
  · rename_i n' hn'
    rw [h] at hn'
    cases hn'
    rfl
  · rename_i hnone
    rw [h] at hnone
    cases hnone

theorem readBy_filled (h : x.cut? p.pending = none) (hf : fill deadline p = (.ok (), q)) :
    readBy deadline x p = readBy deadline x q := by
  rw [readBy]
  split
  · rename_i n hn
    rw [h] at hn
    cases hn
  · split
    · rename_i hf'
      rw [hf] at hf'
      cases hf'
      rfl
    · rename_i hf'
      rw [hf] at hf'
      cases hf'

theorem readBy_failed (h : x.cut? p.pending = none) (hf : fill deadline p = (.error e, q)) :
    readBy deadline x p = (.error e, q) := by
  rw [readBy]
  split
  · rename_i n hn
    rw [h] at hn
    cases hn
  · split
    · rename_i hf'
      rw [hf] at hf'
      cases hf'
    · rename_i hf'
      rw [hf] at hf'
      cases hf'
      rfl

theorem fill_arrived (early : Link.now l < limit) (hdeadline : limit ≤ deadline)
    (h : ∀ wait, limit ≤ Link.now l + wait → (Link.receive room wait).run l = (.ok chunk, m)) :
    fill deadline ⟨l, pending, pacing⟩ = (.ok (), ⟨m, pending ++ chunk, pacing⟩) := by
  have hr := h (deadline - Link.now l) (by omega)
  have hlate : ¬ deadline ≤ Link.now l := by omega
  simp only [fill, hlate, if_false, hr]

theorem fill_silent (pending : List UInt8) (pacing : Pacing) (h : Link.SilentUntil deadline l) :
    ∃ m, fill deadline ⟨l, pending, pacing⟩ = (.error .timeout, ⟨m, pending, pacing⟩) := by
  by_cases hlate : deadline ≤ Link.now l
  · exact ⟨l, by simp only [fill, hlate, if_true]⟩
  · have hr := h (by omega)
    match hrun : (Link.receive room (deadline - Link.now l)).run l with
    | (o, m) =>
      rw [hrun] at hr
      cases hr
      exact ⟨m, by simp only [fill, hlate, if_false, hrun]⟩

/-- **A block that arrives in time is handed out**, however it is cut into chunks, and the rest is
kept. -/
theorem readBy_arrives (pacing : Pacing) (harrive : Link.Arrives limit l chunks m)
    (hdeadline : limit ≤ deadline)
    (hcut : x.cut? (pending ++ chunks.flatten) = some n) : ∃ q left,
      readBy deadline x ⟨l, pending, pacing⟩ = (.ok ((pending ++ chunks.flatten).take n), q) ∧
      Link.Arrives limit q.link left m ∧ Link.now l ≤ Link.now q.link ∧
      q.pending ++ left.flatten = (pending ++ chunks.flatten).drop n := by
  -- Over the chunks, with what is pending growing by each of them.
  induction harrive generalizing pending with
  | nil l =>
    rw [List.flatten_nil, List.append_nil] at hcut ⊢
    exact ⟨_, [], readBy_cut hcut, .nil l, Nat.le_refl _, by rw [List.flatten_nil, List.append_nil]⟩
  | @cons l m n' chunk chunks early h onward rest ih =>
    cases hnow : x.cut? pending with
    | some k =>
      have hk : k = n := Option.some.inj ((Extent.cut?_append hnow).symm.trans hcut)
      subst hk
      have hle := Extent.cut?_le hnow
      rw [List.take_append_of_le_length hle, List.drop_append_of_le_length hle]
      exact ⟨⟨l, pending.drop k, pacing⟩, chunk :: chunks, readBy_cut hnow,
        .cons early h onward rest, Nat.le_refl _, rfl⟩
    | none =>
      have hfill : fill deadline ⟨l, pending, pacing⟩ = (.ok (), ⟨m, pending ++ chunk, pacing⟩) :=
        fill_arrived early hdeadline h
      rw [readBy_filled hnow hfill]
      rw [List.flatten_cons, ← List.append_assoc] at hcut ⊢
      obtain ⟨q, left, hread, hleft, hlater, hkept⟩ := ih hcut
      exact ⟨q, left, hread, hleft, Nat.le_trans onward hlater, hkept⟩

/-- **Without a whole block the read times out** if nothing follows what has arrived. -/
theorem readBy_silent (pacing : Pacing) (harrive : Link.Arrives limit l chunks m)
    (hdeadline : limit ≤ deadline) (hsilent : Link.SilentUntil deadline m)
    (hcut : x.cut? (pending ++ chunks.flatten) = none) :
    ∃ q, readBy deadline x ⟨l, pending, pacing⟩ = (.error .timeout, q) := by
  induction harrive generalizing pending with
  | nil l =>
    rw [List.flatten_nil, List.append_nil] at hcut
    obtain ⟨m, hfill⟩ := fill_silent pending pacing hsilent
    exact ⟨_, readBy_failed hcut hfill⟩
  | @cons l m n' chunk chunks early h onward rest ih =>
    have hnow := Extent.cut?_of_append hcut
    have hfill : fill deadline ⟨l, pending, pacing⟩ = (.ok (), ⟨m, pending ++ chunk, pacing⟩) :=
      fill_arrived early hdeadline h
    rw [readBy_filled hnow hfill]
    rw [List.flatten_cons, ← List.append_assoc] at hcut
    exact ih hsilent hcut

end Port

end RigControl

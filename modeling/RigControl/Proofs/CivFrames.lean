/-
Frames on the CI-V bus. What a reader takes for a frame is one, and nothing else is: noise in which no
preamble starts, a preamble of two bytes or more, the addresses, the command and the payload without a
collision among them, and the terminator.

The first preamble decides. Noise that ends in a single preamble byte makes the preamble one byte
longer, which is why such noise is harmless in front of a frame and is no part of the shape itself.
-/
import RigControl.Civ.Frame
import RigControl.Proofs.Outcome

namespace RigControl.Civ

/-- No preamble starts in these bytes. -/
def Quiet (noise : List UInt8) : Prop :=
  ¬ [preamble, preamble] <:+: noise

instance {noise : List UInt8} : Decidable (Quiet noise) :=
  inferInstanceAs (Decidable (¬ _))

theorem quiet_singleton {a : UInt8} : Quiet [a] := by
  intro h
  have := h.length_le
  simp at this

theorem quiet_cons {a b : UInt8} {noise : List UInt8} :
    Quiet (a :: b :: noise) ↔ ¬ (a = preamble ∧ b = preamble) ∧ Quiet (b :: noise) := by
  unfold Quiet
  rw [List.infix_cons_iff, not_or]
  simp [List.cons_prefix_cons, eq_comm]

namespace Frame

/-- What stands between the preamble and the terminator. -/
def body (f : Frame) : List UInt8 :=
  f.target :: f.source :: f.command :: f.payload

/-- The bytes are noise and then the frame. -/
structure Heard (f : Frame) (bytes : List UInt8) : Prop where
  target_ne : f.target ≠ preamble
  clear : collision ∉ f.body
  shape : ∃ noise n, Quiet noise ∧ noise.getLast? ≠ some preamble ∧ 2 ≤ n ∧
    bytes = noise ++ (List.replicate n preamble ++ (f.body ++ [terminator]))

variable {f : Frame} {noise rest bytes body : List UInt8} {n : Nat}

/-! ## The preamble -/

theorem dropWhile_preamble (h : rest.head? ≠ some preamble) :
    (List.replicate n preamble ++ rest).dropWhile (· == preamble) = rest := by
  induction n with
  | zero =>
    cases rest with
    | nil => rfl
    | cons b rest =>
      have hb : b ≠ preamble := by simpa using h
      simp [hb]
  | succ n ih => simpa [List.replicate_succ] using ih

/-- The first preamble is found behind noise that does not run into it. -/
theorem afterPreamble?_of_quiet (hquiet : Quiet noise) (hlast : noise.getLast? ≠ some preamble)
    (hn : 2 ≤ n) (hrest : rest.head? ≠ some preamble) :
    afterPreamble? (noise ++ (List.replicate n preamble ++ rest)) = some rest := by
  obtain ⟨m, rfl⟩ : ∃ m, n = m + 2 := ⟨n - 2, by omega⟩
  induction noise with
  | nil =>
    simp only [List.replicate_succ, List.cons_append, List.nil_append, afterPreamble?, and_self,
      if_true]
    rw [dropWhile_preamble hrest]
  | cons a noise ih =>
    cases noise with
    | nil =>
      have ha : a ≠ preamble := by simpa using hlast
      have hnil := ih (by decide) (by simp)
      simp only [List.replicate_succ, List.cons_append, List.nil_append] at hnil ⊢
      rw [afterPreamble?, if_neg (fun h => ha h.1)]
      exact hnil
    | cons b noise =>
      obtain ⟨hab, hquiet⟩ := quiet_cons.1 hquiet
      have hlast : (b :: noise).getLast? ≠ some preamble := by simpa using hlast
      rw [List.cons_append, List.cons_append, afterPreamble?, if_neg hab]
      exact ih hquiet hlast

theorem eq_replicate_append_dropWhile (bytes : List UInt8) :
    ∃ n, bytes = List.replicate n preamble ++ bytes.dropWhile (· == preamble) := by
  induction bytes with
  | nil => exact ⟨0, rfl⟩
  | cons a bytes ih =>
    by_cases ha : a = preamble
    · obtain ⟨n, hn⟩ := ih
      refine ⟨n + 1, ?_⟩
      simp only [ha, List.dropWhile_cons, beq_self_eq_true, if_true, List.replicate_succ,
        List.cons_append]
      rw [← hn]
    · exact ⟨0, by simp [ha]⟩

theorem head?_dropWhile_preamble (bytes : List UInt8) :
    (bytes.dropWhile (· == preamble)).head? ≠ some preamble := by
  induction bytes with
  | nil => simp
  | cons a bytes ih =>
    by_cases ha : a = preamble
    · simpa [ha] using ih
    · simp [ha]

/-- Where a preamble is found, there is noise in front of it and no more of it behind. -/
theorem of_afterPreamble? (h : afterPreamble? bytes = some rest) :
    rest.head? ≠ some preamble ∧ ∃ noise n, Quiet noise ∧ noise.getLast? ≠ some preamble ∧ 2 ≤ n ∧
      bytes = noise ++ (List.replicate n preamble ++ rest) := by
  fun_induction afterPreamble? bytes with
  | case1 a b tail hab =>
    obtain ⟨rfl, rfl⟩ := hab
    cases h
    obtain ⟨n, hn⟩ := eq_replicate_append_dropWhile tail
    refine ⟨head?_dropWhile_preamble tail, [], n + 2, by decide, by simp, by omega, ?_⟩
    simp only [List.replicate_succ, List.nil_append, List.cons_append]
    rw [← hn]
  | case2 a b tail hab ih =>
    obtain ⟨hrest, noise, n, hquiet, hlast, hn, hbytes⟩ := ih h
    refine ⟨hrest, a :: noise, n, ?_, ?_, hn, by rw [hbytes, List.cons_append]⟩
    · cases noise with
      | nil => exact quiet_singleton
      | cons c noise =>
        cases hbytes
        exact quiet_cons.2 ⟨hab, hquiet⟩
    · cases noise with
      | nil =>
        obtain ⟨m, rfl⟩ : ∃ m, n = m + 1 := ⟨n - 1, by omega⟩
        cases hbytes
        simpa using hab
      | cons c noise => simpa using hlast
  | case3 => cases h

/-! ## Whole frames -/

theorem beforeTerminator?_eq_some :
    beforeTerminator? bytes = some body ↔ bytes = body ++ [terminator] := by
  unfold beforeTerminator?
  constructor
  · intro h
    split at h
    · rename_i hlast
      cases h
      obtain ⟨front, rfl⟩ := List.getLast?_eq_some_iff.1 hlast
      rw [List.dropLast_concat]
    · cases h
  · rintro rfl
    simp

theorem decode_of_heard (h : f.Heard bytes) : decode bytes = .ok f := by
  obtain ⟨htarget, hclear, noise, n, hquiet, hlast, hn, rfl⟩ := h
  have hhead : (f.body ++ [terminator]).head? ≠ some preamble := by simpa [body] using htarget
  rw [decode, afterPreamble?_of_quiet hquiet hlast hn hhead]
  simp only [beforeTerminator?_eq_some.2 rfl, if_neg hclear]
  rfl

theorem heard_of_decode (h : decode bytes = .ok f) : f.Heard bytes := by
  unfold decode at h
  cases hafter : afterPreamble? bytes with
  | none => simp [hafter] at h
  | some rest =>
    obtain ⟨hhead, hshape⟩ := of_afterPreamble? hafter
    simp only [hafter] at h
    cases hbefore : beforeTerminator? rest with
    | none => simp [hbefore] at h
    | some inner =>
      simp only [hbefore] at h
      obtain rfl := beforeTerminator?_eq_some.1 hbefore
      split at h
      · cases h
      · rename_i hclear
        split at h
        · cases h
          exact ⟨by simpa using hhead, hclear, hshape⟩
        · cases h

theorem decode_error {e : Error} (h : decode bytes = .error e) : ∃ detail, e = .protocol detail := by
  unfold decode at h
  repeat' split at h
  all_goals cases h
  all_goals exact ⟨_, rfl⟩

/-- Noise that ends in a preamble byte only makes the preamble longer. -/
theorem heard_encode (hquiet : Quiet noise) (htarget : f.target ≠ preamble)
    (hclear : collision ∉ f.body) : f.Heard (noise ++ f.encode) := by
  have hencode : f.encode = List.replicate 2 preamble ++ (f.body ++ [terminator]) := rfl
  refine ⟨htarget, hclear, ?_⟩
  rw [hencode]
  by_cases hlast : noise.getLast? = some preamble
  · obtain ⟨front, rfl⟩ := List.getLast?_eq_some_iff.1 hlast
    refine ⟨front, 3, fun h => hquiet (h.trans (List.infix_append' [] front [preamble])), ?_,
      by omega, by simp [List.replicate_succ]⟩
    intro hfront
    obtain ⟨start, rfl⟩ := List.getLast?_eq_some_iff.1 hfront
    exact hquiet ⟨start, [], by simp⟩
  · exact ⟨noise, 2, hquiet, hlast, by omega, rfl⟩

/-- **Reading accepts exactly the frames on the bus**, and whatever else is heard is an error of the
protocol. So a frame that was sent is read back, whatever noise came before. -/
theorem decode_exact :
    (∀ bytes f, decode bytes = .ok f ↔ f.Heard bytes) ∧
    (∀ bytes, (∀ f : Frame, ¬ f.Heard bytes) → ∃ detail, decode bytes = .error (.protocol detail)) ∧
    ∀ (noise : List UInt8) (target source command : UInt8) (sub : Option UInt8) (data : List UInt8),
      Quiet noise → target ≠ preamble →
      collision ∉ target :: source :: command :: (sub.toList ++ data) →
      decode (noise ++ encode ⟨target, source, command, sub.toList ++ data⟩) =
        .ok ⟨target, source, command, sub.toList ++ data⟩ := by
  refine ⟨fun bytes f => ⟨heard_of_decode, decode_of_heard⟩, fun bytes h => ?_, ?_⟩
  · cases hd : decode bytes with
    | ok f => exact absurd (heard_of_decode hd) (h f)
    | error e =>
      obtain ⟨detail, rfl⟩ := decode_error hd
      exact ⟨detail, rfl⟩
  · intro noise target source command sub data hquiet htarget hclear
    exact decode_of_heard (heard_encode hquiet htarget hclear)

/-- A reply is read behind the end of another frame and a preamble byte of its own. -/
theorem decode_exact_noisy :
    Quiet [0xFB, 0xFD, 0xFE] ∧ decode ([0xFB, 0xFD, 0xFE] ++ encode ⟨0xE0, 0x6A, 0x15, [0x02, 0x01, 0x20]⟩) =
      .ok ⟨0xE0, 0x6A, 0x15, [0x02, 0x01, 0x20]⟩ := by
  have hquiet : Quiet [0xFB, 0xFD, 0xFE] := by decide
  exact ⟨hquiet, decode_exact.2.2 _ _ _ _ (some 0x02) [0x01, 0x20] hquiet (by decide) (by decide)⟩

end Frame

end RigControl.Civ

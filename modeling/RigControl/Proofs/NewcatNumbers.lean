/-
The numbers in the replies of the newer Yaesu rigs. The length of a field is counted first, in bytes, and
what stands in it is read leniently: blanks on either side and a plus sign in front are no part of the
number, but they were counted (`Text.Spells`). A field is taken for what it is meant to hold, digits and
nothing else, exactly if it is not filled up with these (`Reads.bare`). Filled up, a field with a digit too
few is read as well (`numbers_read_filled`).
-/
import RigControl.Newcat.Answer
import RigControl.Proofs.Numerals

namespace RigControl

namespace Text

variable {s t ds : List Char} {n : Nat}

/-! ## Numerals between blanks -/

/-- The text spells a number by these digits. Nothing but blanks stands on either side, and nothing but a
plus sign in front of the digits. -/
structure Spells (s ds : List Char) : Prop where
  digits : Digits ds
  shape : ∃ before sign after, s = before ++ (sign ++ ds) ++ after ∧ (sign = [] ∨ sign = ['+']) ∧
    (∀ c ∈ before, isBlank c = true) ∧ ∀ c ∈ after, isBlank c = true

theorem Digits.spells (h : Digits s) : Spells s s :=
  ⟨h, [], [], [], by simp, .inl rfl, by simp, by simp⟩

theorem dropWhile_of_head {p : Char → Bool} (h : ∀ c, s.head? = some c → p c = false) :
    s.dropWhile p = s := by
  cases s with
  | nil => rfl
  | cons c s => rw [List.dropWhile_cons_of_neg (by simp [h c rfl])]

/-- Nothing but blanks is cut off. -/
theorem exists_trim (s : List Char) : ∃ before after, s = before ++ trim s ++ after ∧
    (∀ c ∈ before, isBlank c = true) ∧ ∀ c ∈ after, isBlank c = true := by
  have hfront := List.takeWhile_append_dropWhile (p := isBlank) (l := s)
  have hback := List.takeWhile_append_dropWhile (p := isBlank) (l := (s.dropWhile isBlank).reverse)
  refine ⟨s.takeWhile isBlank, ((s.dropWhile isBlank).reverse.takeWhile isBlank).reverse, ?_, ?_, ?_⟩
  · rw [trim, List.append_assoc, ← List.reverse_append, hback, List.reverse_reverse, hfront]
  · exact List.all_eq_true.1 List.all_takeWhile
  · intro c hc
    exact List.all_eq_true.1 List.all_takeWhile c (List.mem_reverse.1 hc)

/-- What does not begin or end with a blank is all that is left of a text with blanks around it. -/
theorem trim_blanks {before after : List Char} (hbefore : ∀ c ∈ before, isBlank c = true)
    (hafter : ∀ c ∈ after, isBlank c = true) (hne : t ≠ [])
    (hfirst : ∀ c, t.head? = some c → isBlank c = false)
    (hlast : ∀ c, t.getLast? = some c → isBlank c = false) : trim (before ++ t ++ after) = t := by
  have hhead : ∀ c, (t ++ after).head? = some c → isBlank c = false := by
    obtain ⟨first, rest, rfl⟩ := List.exists_cons_of_ne_nil hne
    exact hfirst
  have hback : ∀ c ∈ after.reverse, isBlank c = true := fun c hc => hafter c (List.mem_reverse.1 hc)
  rw [trim, List.append_assoc, List.dropWhile_append_of_pos hbefore, dropWhile_of_head hhead,
    List.reverse_append, List.dropWhile_append_of_pos hback, dropWhile_of_head, List.reverse_reverse]
  intro c hc
  rw [List.head?_reverse] at hc
  exact hlast c hc

/-- Blanks around the numeral are cut off, as it neither begins nor ends with one. -/
theorem trim_spelled {before sign after : List Char} (hds : Digits ds)
    (hsign : sign = [] ∨ sign = ['+']) (hbefore : ∀ c ∈ before, isBlank c = true)
    (hafter : ∀ c ∈ after, isBlank c = true) :
    trim (before ++ (sign ++ ds) ++ after) = sign ++ ds := by
  have hne : sign ++ ds ≠ [] := fun h => hds.ne_nil (List.append_eq_nil_iff.1 h).2
  refine trim_blanks hbefore hafter hne ?_ ?_
  · intro c hc
    have hmem := List.mem_of_head? hc
    rcases hsign with rfl | rfl
    · exact isBlank_of_isDigit (hds.digit c hmem)
    · cases hc
      decide
  · intro c hc
    rw [List.getLast?_append, List.getLast?_eq_some_getLast hds.ne_nil] at hc
    cases hc
    exact isBlank_of_isDigit (hds.digit _ (List.getLast_mem hds.ne_nil))

/-- **A decimal field is read if and only if it spells a number of 64 bits.** -/
theorem parseDecimal_eq_ok : parseDecimal s = .ok n ↔
    ∃ ds, Spells s ds ∧ Nat.ofDigitChars 10 ds 0 = n ∧ n < UInt64.size := by
  have hsize : ∀ m : Nat, m ≤ UInt64.size - 1 ↔ m < UInt64.size :=
    fun m => Nat.le_sub_one_iff_lt (by decide)
  rw [parseDecimal, Outcome.mapError_eq_ok, unsigned_eq_ok]
  constructor
  · intro h
    obtain ⟨sign, ds, htrim, hsign, hds, hvalue, hn⟩ := h
    obtain ⟨before, after, hs, hbefore, hafter⟩ := exists_trim s
    rw [htrim] at hs
    exact ⟨ds, ⟨hds, before, sign, after, hs, hsign, hbefore, hafter⟩, hvalue, (hsize n).1 hn⟩
  · intro h
    obtain ⟨ds, ⟨hds, before, sign, after, rfl, hsign, hbefore, hafter⟩, hvalue, hn⟩ := h
    exact ⟨sign, ds, trim_spelled hds hsign hbefore hafter, hsign, hds, hvalue, (hsize n).2 hn⟩

theorem parseDecimal_error {e : Error} (h : parseDecimal s = .error e) :
    ∃ detail, e = .protocol detail := by
  obtain ⟨-, -, rfl⟩ := Outcome.mapError_eq_error.1 h
  exact ⟨_, rfl⟩

/-! ## Lengths and values -/

theorem length_le_utf8 : s.length ≤ (utf8 s).length := by
  induction s with
  | nil => exact Nat.zero_le _
  | cons c s ih =>
    have hc : 0 < (utf8 [c]).length := by
      rw [utf8_singleton, String.length_utf8EncodeChar]
      exact Char.utf8Size_pos c
    rw [← List.singleton_append, utf8_append, List.length_append, List.length_append,
      List.length_singleton]
    omega

theorem Digits.length_utf8 (h : Digits s) : (utf8 s).length = s.length :=
  length_utf8_of_ascii fun c hc => ascii_of_isDigit (h.digit c hc)

/-- The digits are some of the bytes. -/
theorem Spells.length_le (h : Spells s ds) : ds.length ≤ (utf8 s).length := by
  obtain ⟨-, before, sign, after, rfl, -⟩ := h
  refine Nat.le_trans ?_ length_le_utf8
  simp only [List.length_append]
  omega

/-- A text without blanks and signs is the digits by which it spells. -/
theorem Spells.eq_of_bare (h : Spells s ds) (hs : ∀ c ∈ s, isBlank c = false ∧ c ≠ '+') : s = ds := by
  obtain ⟨-, before, sign, after, rfl, hsign, hbefore, hafter⟩ := h
  have hno : ∀ {part : List Char}, (∀ c ∈ part, isBlank c = true) →
      (∀ c ∈ part, isBlank c = false ∧ c ≠ '+') → part = [] := by
    intro part hblank hbare
    refine List.eq_nil_iff_forall_not_mem.2 fun c hc => ?_
    exact absurd (hblank c hc) (by simp [(hbare c hc).1])
  have hfirst : before = [] := hno hbefore fun c hc => hs c (by simp [hc])
  have hlast : after = [] := hno hafter fun c hc => hs c (by simp [hc])
  rcases hsign with rfl | rfl
  · rw [hfirst, hlast, List.nil_append, List.nil_append, List.append_nil]
  · exact absurd rfl (hs '+' (by simp)).2

/-- Digits spell by themselves only. -/
theorem Spells.eq_of_digits (h : Spells s ds) (hs : Digits s) : s = ds := by
  refine h.eq_of_bare fun c hc => ⟨isBlank_of_isDigit (hs.digit c hc), ?_⟩
  intro hplus
  exact hs.notMem rfl (hplus ▸ hc)

theorem ofDigitChars_lt (acc : Nat) (h : ∀ c ∈ s, c.isDigit = true) :
    Nat.ofDigitChars 10 s acc < (acc + 1) * Nat.pow 10 s.length := by
  induction s generalizing acc with
  | nil => simp
  | cons c s ih =>
    have hc := (Char.isDigit_iff_toNat.1 (h c List.mem_cons_self)).2
    have hnine : '9'.toNat = 57 := rfl
    have hzero : '0'.toNat = 48 := rfl
    have hstep : 10 * acc + (c.toNat - '0'.toNat) + 1 ≤ (acc + 1) * 10 := by omega
    have hpow : Nat.pow 10 (s.length + 1) = 10 * Nat.pow 10 s.length := Nat.mul_comm _ _
    rw [Nat.ofDigitChars_cons, List.length_cons, hpow, ← Nat.mul_assoc]
    have hrest := ih (10 * acc + (c.toNat - '0'.toNat)) fun d hd =>
      h d (List.mem_cons_of_mem _ hd)
    exact Nat.lt_of_lt_of_le hrest (Nat.mul_le_mul_right _ hstep)

/-- A text spells a number with no more digits than it has bytes. -/
theorem Spells.lt (h : Spells s ds) (size : Nat) (hsize : (utf8 s).length ≤ size) :
    Nat.ofDigitChars 10 ds 0 < Nat.pow 10 size := by
  have hvalue := ofDigitChars_lt 0 h.digits.digit
  rw [Nat.zero_add, Nat.one_mul] at hvalue
  exact Nat.lt_of_lt_of_le hvalue (Nat.pow_le_pow_right (by decide) (Nat.le_trans h.length_le hsize))

end Text

namespace Newcat

open Text (Digits Spells)

/-! ## Fields -/

/-- How a field is read that holds a number up to `greatest` and has one of some sizes in bytes. -/
structure Reads {α : Type} (parse : List Char → Outcome α) (ofNat : Nat → α) (Size : Nat → Prop)
    (greatest : Nat) (s : List Char) : Prop where
  ok : ∀ a, parse s = .ok a ↔ Size (Text.utf8 s).length ∧
    ∃ ds, Spells s ds ∧ Nat.ofDigitChars 10 ds 0 ≤ greatest ∧ ofNat (Nat.ofDigitChars 10 ds 0) = a
  /-- Anything else is an error of the protocol. -/
  error : ∀ e, parse s = .error e → ∃ detail, e = .protocol detail
  /-- The field is read as digits and nothing else would be, unless something fills it up. -/
  bare : (∀ a, parse s = .ok a ↔ Digits s ∧ Size s.length ∧ Nat.ofDigitChars 10 s 0 ≤ greatest ∧
      ofNat (Nat.ofDigitChars 10 s 0) = a) ↔
    ¬ (Size (Text.utf8 s).length ∧ ∃ ds, Spells s ds ∧ s ≠ ds ∧ Nat.ofDigitChars 10 ds 0 ≤ greatest)

theorem Reads.of_ok {α : Type} {parse : List Char → Outcome α} {ofNat : Nat → α} {Size : Nat → Prop}
    {greatest : Nat} {s : List Char} (hok : ∀ a, parse s = .ok a ↔ Size (Text.utf8 s).length ∧
      ∃ ds, Spells s ds ∧ Nat.ofDigitChars 10 ds 0 ≤ greatest ∧ ofNat (Nat.ofDigitChars 10 ds 0) = a)
    (herror : ∀ e, parse s = .error e → ∃ detail, e = .protocol detail) :
    Reads parse ofNat Size greatest s where
  ok := hok
  error := herror
  bare := by
    constructor
    · intro hbare hfilled
      obtain ⟨hsize, ds, hspells, hne, hle⟩ := hfilled
      obtain ⟨hdigits, -⟩ := (hbare _).1 ((hok _).2 ⟨hsize, ds, hspells, hle, rfl⟩)
      exact hne (hspells.eq_of_digits hdigits)
    · intro hfilled a
      rw [hok]
      constructor
      · intro h
        obtain ⟨hsize, ds, hspells, hle, ha⟩ := h
        obtain rfl : s = ds :=
          Classical.byContradiction fun hne => hfilled ⟨hsize, ds, hspells, hne, hle⟩
        exact ⟨hspells.digits, hspells.digits.length_utf8 ▸ hsize, hle, ha⟩
      · intro h
        obtain ⟨hdigits, hsize, hvalue⟩ := h
        exact ⟨hdigits.length_utf8.symm ▸ hsize, s, hdigits.spells, hvalue⟩

theorem byte_eq_ok {n : Nat} {e : Error} {a : UInt8} :
    byte n e = .ok a ↔ n ≤ 255 ∧ n.toUInt8 = a := by
  unfold byte
  split
  · rename_i h
    simp only [Except.ok.injEq, iff_and_self]
    omega
  · simp only [reduceCtorEq, false_iff]
    omega

theorem byte_error {n : Nat} {e e' : Error} (h : byte n e = .error e') : e' = e := by
  unfold byte at h
  split at h
  · cases h
  · cases h
    rfl

variable {s : List Char}

theorem parseFrequency_reads : Reads parseFrequency id (· = 9) 999999999 s := by
  refine .of_ok (fun hz => ?_) fun e h => ?_
  · have hbound : Nat.pow 10 9 < UInt64.size := by decide
    unfold parseFrequency
    dsimp only
    by_cases hsize : (Text.utf8 s).length = 9
    · rw [if_neg (Classical.not_not.2 hsize), Text.parseDecimal_eq_ok]
      constructor
      · intro h
        obtain ⟨ds, hspells, hvalue, -⟩ := h
        have hlt : _ < 1000000000 := hspells.lt 9 (Nat.le_of_eq hsize)
        exact ⟨hsize, ds, hspells, by omega, hvalue⟩
      · intro h
        obtain ⟨-, ds, hspells, hle, rfl⟩ := h
        exact ⟨ds, hspells, rfl, Nat.lt_of_le_of_lt hle (by decide)⟩
    · rw [if_pos hsize]
      simp [hsize]
  · unfold parseFrequency at h
    dsimp only at h
    split at h
    · cases h
      exact ⟨_, rfl⟩
    · exact Text.parseDecimal_error h

section

variable {excess : Nat → Error}

/-- The number in a field whose size has been checked, as a byte. -/
theorem parseDecimal_byte_eq_ok {a : UInt8} :
    (Text.parseDecimal s >>= fun n => byte n (excess n)) = .ok a ↔
      ∃ ds, Spells s ds ∧ Nat.ofDigitChars 10 ds 0 ≤ 255 ∧ (Nat.ofDigitChars 10 ds 0).toUInt8 = a := by
  rw [Outcome.bind_eq_ok]
  constructor
  · intro h
    obtain ⟨n, hn, hbyte⟩ := h
    obtain ⟨ds, hspells, rfl, -⟩ := Text.parseDecimal_eq_ok.1 hn
    exact ⟨ds, hspells, byte_eq_ok.1 hbyte⟩
  · intro h
    obtain ⟨ds, hspells, hle, ha⟩ := h
    have hsize : Nat.ofDigitChars 10 ds 0 < UInt64.size := Nat.lt_of_le_of_lt hle (by decide)
    exact ⟨_, Text.parseDecimal_eq_ok.2 ⟨ds, hspells, rfl, hsize⟩, byte_eq_ok.2 ⟨hle, ha⟩⟩

theorem parseDecimal_byte_error {e : Error} (hexcess : ∀ n, ∃ detail, excess n = .protocol detail)
    (h : (Text.parseDecimal s >>= fun n => byte n (excess n)) = .error e) :
    ∃ detail, e = .protocol detail := by
  rcases Outcome.bind_eq_error.1 h with h | ⟨n, -, h⟩
  · exact Text.parseDecimal_error h
  · rw [byte_error h]
    exact hexcess n

end

theorem parseMeter_reads : Reads parseMeter Nat.toUInt8 (· = 3) 255 s := by
  refine .of_ok (fun a => ?_) fun e h => ?_
  · unfold parseMeter
    dsimp only
    by_cases hsize : (Text.utf8 s).length = 3
    · rw [if_neg (Classical.not_not.2 hsize), parseDecimal_byte_eq_ok]
      exact ⟨fun h => ⟨hsize, h⟩, And.right⟩
    · rw [if_pos hsize]
      simp [hsize]
  · unfold parseMeter at h
    dsimp only at h
    split at h
    · cases h
      exact ⟨_, rfl⟩
    · exact parseDecimal_byte_error (fun n => ⟨_, rfl⟩) h

/-- Two digits fit a byte, so that the size alone limits the number. -/
theorem parseIndex_reads : Reads parseIndex Nat.toUInt8 (fun size => size = 1 ∨ size = 2) 99 s := by
  refine .of_ok (fun a => ?_) fun e h => ?_
  · unfold parseIndex
    dsimp only
    by_cases hsize : (Text.utf8 s).length = 0 ∨ 2 < (Text.utf8 s).length
    · have hother : ¬ ((Text.utf8 s).length = 1 ∨ (Text.utf8 s).length = 2) := by omega
      rw [if_pos hsize]
      simp [hother]
    · have hsizes : (Text.utf8 s).length = 1 ∨ (Text.utf8 s).length = 2 := by omega
      rw [if_neg hsize, parseDecimal_byte_eq_ok]
      constructor
      · intro h
        obtain ⟨ds, hspells, -, ha⟩ := h
        have hlt : _ < 100 := hspells.lt 2 (by omega)
        exact ⟨hsizes, ds, hspells, by omega, ha⟩
      · intro h
        obtain ⟨-, ds, hspells, hle, ha⟩ := h
        exact ⟨ds, hspells, by omega, ha⟩
  · unfold parseIndex at h
    dsimp only at h
    split at h
    · cases h
      exact ⟨_, rfl⟩
    · exact parseDecimal_byte_error (fun n => ⟨_, rfl⟩) h

/-- **The numbers are read from fields of their size, blanks and a sign included.** A frequency has a field
of nine bytes, a meter one of three bytes with a value up to 255, and a selector one or two bytes. Every
field that spells a number is read as this number and everything else is an error of the protocol. So a field
is read as it would be if only digits were allowed, one for each byte, if and only if no blank and no sign
fills it up to its size. -/
theorem numbers_read (s : List Char) : Reads parseFrequency id (· = 9) 999999999 s ∧
    Reads parseMeter Nat.toUInt8 (· = 3) 255 s ∧
    Reads parseIndex Nat.toUInt8 (fun size => size = 1 ∨ size = 2) 99 s :=
  ⟨parseFrequency_reads, parseMeter_reads, parseIndex_reads⟩

/-- A sign or a blank fills up a field that lacks a digit, and each of the fields is read. -/
theorem numbers_read_filled :
    (¬ ∀ s, (∃ hz, parseFrequency s = .ok hz) ↔ s.length = 9 ∧ ∀ c ∈ s, c.isDigit = true) ∧
    parseFrequency "+14074000".toList = .ok 14074000 ∧
    parseFrequency "14074000 ".toList = .ok 14074000 ∧
    parseMeter " 12".toList = .ok 12 ∧ parseIndex "+3".toList = .ok 3 := by
  have hread : parseFrequency "+14074000".toList = .ok 14074000 := by decide
  have hdigits : ¬ ∀ c ∈ "+14074000".toList, c.isDigit = true := fun h =>
    absurd (h '+' (by decide)) (by decide)
  refine ⟨fun h => ?_, hread, by decide, by decide, by decide⟩
  exact hdigits ((h _).1 ⟨_, hread⟩).2

end Newcat

end RigControl

/-
Packed decimals read back. The digits of a field are those of the number, the lowest first, so that
reading a field that was written gives the number, whatever follows the field.
-/
import RigControl.Bcd
import RigControl.Proofs.Outcome

namespace RigControl.Bcd

/-- The low digits of a number, the lowest first. -/
def lowDigits (v : Nat) : Nat → List Nat
  | 0 => []
  | n + 1 => v % 10 :: lowDigits (v / 10) n

/-- The number with some digits, the lowest first. -/
def numeral : List Nat → Nat
  | [] => 0
  | d :: ds => d + 10 * numeral ds

/-- The nibbles of a field, the low one of each byte first. -/
def nibbles (bytes : List UInt8) : List Nibble :=
  bytes.flatMap fun b => [.low b, .high b]

theorem numeral_lowDigits {v n : Nat} : numeral (lowDigits v n) = v % Nat.pow 10 n := by
  induction n generalizing v with
  | zero => simp [lowDigits, numeral, Nat.mod_one]
  | succ n ih =>
    have hpow : Nat.pow 10 (n + 1) = 10 * Nat.pow 10 n := Nat.pow_succ'
    rw [lowDigits, numeral, ih, hpow, Nat.mod_mul]

theorem le_nine_of_mem_lowDigits {v n d : Nat} (h : d ∈ lowDigits v n) : d ≤ 9 := by
  induction n generalizing v with
  | zero => cases h
  | succ n ih =>
    rcases List.mem_cons.1 h with rfl | h
    · omega
    · exact ih h

theorem toNat_pair (high low : Nat) (hh : high < 10) (hl : low < 10) :
    (pair high low).toNat = 16 * high + low := by
  rw [pair, Nat.toUInt8, UInt8.toNat_ofNat']
  omega

/-- The nibbles of a packed number are its digits. -/
theorem digits_packLow {v n : Nat} :
    ((nibbles (packLow v n)).take n).map Nibble.digit = lowDigits v n := by
  fun_induction packLow v n with
  | case1 => rfl
  | case2 v =>
    have h : (pair 0 (v % 10)).toNat = v % 10 := by
      rw [toNat_pair 0 (v % 10) (by omega) (by omega)]
      omega
    have hlow : (pair 0 (v % 10)).toNat % 16 = v % 10 := by omega
    simp [nibbles, lowDigits, Nibble.low, hlow]
  | case3 v n ih =>
    have h := toNat_pair (v / 10 % 10) (v % 10) (by omega) (by omega)
    have hlow : (pair (v / 10 % 10) (v % 10)).toNat % 16 = v % 10 := by omega
    have hhigh : (pair (v / 10 % 10) (v % 10)).toNat / 16 = v / 10 % 10 := by omega
    have hdiv : v / 10 / 10 = v / 100 := by omega
    rw [nibbles, List.flatMap_cons]
    simp only [List.cons_append, List.nil_append, List.take_succ_cons, List.map_cons, lowDigits,
      Nibble.low, Nibble.high, hlow, hhigh, hdiv]
    exact congrArg (v % 10 :: v / 10 % 10 :: ·) ih

/-- Reading digits from the highest on gives the number that they spell. -/
theorem value_reverse {ns : List Nibble} (hd : ∀ n ∈ ns, n.digit ≤ 9)
    (hv : numeral (ns.map Nibble.digit) < UInt64.size) :
    value ns.reverse = .ok (numeral (ns.map Nibble.digit)) := by
  -- The lowest digit is read last, so the induction takes it off the end of the fold.
  induction ns with
  | nil => rfl
  | cons n ns ih =>
    rw [List.map_cons, numeral] at hv ⊢
    have hn := hd n List.mem_cons_self
    have hrest : value ns.reverse = .ok (numeral (ns.map Nibble.digit)) :=
      ih (fun m hm => hd m (List.mem_cons_of_mem _ hm)) (by omega)
    have hlast : accumulate (numeral (ns.map Nibble.digit)) n =
        .ok (n.digit + 10 * numeral (ns.map Nibble.digit)) := by
      rw [accumulate, if_neg (by omega), if_neg (by omega), Nat.add_comm]
    rw [value, List.reverse_cons, List.foldlM_append, ← value, hrest]
    exact Outcome.bind_eq_ok.2 ⟨_, rfl, Outcome.bind_eq_ok.2 ⟨_, hlast, rfl⟩⟩

theorem length_packLow {v n : Nat} : (packLow v n).length = byteCount n := by
  fun_induction packLow v n with
  | case1 => rfl
  | case2 => rfl
  | case3 v n ih =>
    rw [List.length_cons, ih, byteCount, byteCount]
    omega

/-- **A packed number reads back**, whatever follows it. -/
theorem decodeLow_packLow {v n : Nat} (tail : List UInt8) (hn : v < Nat.pow 10 n)
    (hv : v < UInt64.size) : decodeLow (packLow v n ++ tail) n = .ok v := by
  have hfield : field (packLow v n ++ tail) n = .ok (packLow v n) := by
    rw [field, if_neg (by simp [length_packLow]), ← length_packLow (v := v), List.take_left]
  have hnumeral : numeral (((nibbles (packLow v n)).take n).map Nibble.digit) = v := by
    rw [digits_packLow, numeral_lowDigits, Nat.mod_eq_of_lt hn]
  have hdigit : ∀ m ∈ (nibbles (packLow v n)).take n, m.digit ≤ 9 := fun m hm =>
    le_nine_of_mem_lowDigits (digits_packLow ▸ List.mem_map_of_mem hm)
  have hvalue : value ((nibbles (packLow v n)).take n).reverse = .ok v := by
    rw [value_reverse hdigit (by rwa [hnumeral]), hnumeral]
  exact Outcome.bind_eq_ok.2 ⟨_, hfield, hvalue⟩

theorem decodeLow_packLow_nil {v n : Nat} (hn : v < Nat.pow 10 n) (hv : v < UInt64.size) :
    decodeLow (packLow v n) n = .ok v :=
  List.append_nil (packLow v n) ▸ decodeLow_packLow [] hn hv

/-! ## What fits -/

/-- Up to the greatest number of digits, the power is one of 64 bits. -/
theorem toNat_pow_ten {n : Nat} (hn : n ≤ maxDigits) : (UInt64.pow 10 n).toNat = Nat.pow 10 n := by
  have hsize : ∀ m ≤ maxDigits, Nat.pow 10 m < UInt64.size := fun m hm =>
    Nat.lt_of_le_of_lt (Nat.pow_le_pow_right (by decide) hm) (by decide)
  induction n with
  | zero => rfl
  | succ n ih =>
    have hpow : UInt64.pow 10 (n + 1) = UInt64.pow 10 n * 10 := rfl
    have hten : (10 : UInt64).toNat = 10 := rfl
    rw [hpow, UInt64.toNat_mul, ih (Nat.le_of_succ_le hn), hten]
    exact Nat.mod_eq_of_lt (hsize (n + 1) hn)

/-- Beyond it, the power is above all numbers of 64 bits. -/
theorem lt_pow_ten {v n : Nat} (hv : v < UInt64.size) (hn : maxDigits < n) : v < Nat.pow 10 n := by
  have hpow : Nat.pow 10 (maxDigits + 1) ≤ Nat.pow 10 n := Nat.pow_le_pow_right (by decide) hn
  have htwenty : UInt64.size < Nat.pow 10 (maxDigits + 1) := by decide
  exact Nat.lt_trans hv (Nat.lt_of_lt_of_le htwenty hpow)

/-- **The check is the comparison with the power of ten**, of 64 bits or not: for every value in a field of
up to 19 digits and for a value of 64 bits in any field. -/
theorem checkFits_eq_ok {v n : Nat} (h : n ≤ maxDigits ∨ v < UInt64.size) :
    checkFits v n = .ok () ↔ 1 ≤ n ∧ v < Nat.pow 10 n := by
  have hexceeds : n ≤ maxDigits ∧ (UInt64.pow 10 n).toNat ≤ v ↔ Nat.pow 10 n ≤ v := by
    rcases Nat.lt_or_ge maxDigits n with hbeyond | hn
    · have hv := lt_pow_ten (h.resolve_left (Nat.not_le.2 hbeyond)) hbeyond
      exact iff_of_false (fun hand => Nat.not_le.2 hbeyond hand.1) (Nat.not_le.2 hv)
    · rw [toNat_pow_ten hn]
      exact and_iff_right hn
  simp only [checkFits, hexceeds]
  split
  · rename_i hn
    simp [hn]
  · split
    · rename_i hv
      simp only [reduceCtorEq, false_iff]
      omega
    · simp only [true_iff]
      omega

/-- What was written is a packed number that fits. -/
theorem encodeLow_ok {v n : Nat} {bytes : List UInt8} (hn : n ≤ maxDigits)
    (h : encodeLow v n = .ok bytes) : v < Nat.pow 10 n ∧ bytes = packLow v n := by
  obtain ⟨⟨⟩, hfits, h⟩ := Outcome.bind_eq_ok.1 h
  cases h
  exact ⟨((checkFits_eq_ok (.inl hn)).1 hfits).2, rfl⟩

end RigControl.Bcd

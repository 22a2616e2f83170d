/-
Packed decimals place by place. The digits of a number are put one by one into a field of zeros, from the
ones on (`encodePlaces`), and taken one by one from a field, from the highest place down (`decodePlaces`).
In either order this comes to what is done with whole bytes, down to the nibble that is refused first.

The two orders share the places and differ in the end of the field from which the bytes are counted. So
each order is the other one turned round (`orders_mirrored`).
-/
import RigControl.Proofs.ByteOrder

namespace RigControl.Bcd.ByteOrder

variable {o : ByteOrder} {bytes rest : List UInt8} {b : UInt8} {ds : List Nat} {v n place d : Nat}

/-! ## Places -/

/-- Puts a digit at a place that is still zero. -/
def put (o : ByteOrder) (digits : Nat) (bytes : List UInt8) (place d : Nat) : List UInt8 :=
  bytes.modify (o.index digits place)
    (· ||| if place % 2 = 0 then d.toUInt8 else d.toUInt8 <<< 4)

/-- Puts digits at a place and at those after it. -/
def puts (o : ByteOrder) (digits : Nat) : List UInt8 → Nat → List Nat → List UInt8
  | bytes, _, [] => bytes
  | bytes, place, d :: ds => puts o digits (o.put digits bytes place d) (place + 1) ds

/-- Writes a field digit by digit. -/
def encodePlaces (o : ByteOrder) (v digits : Nat) : Outcome (List UInt8) := do
  checkFits v digits
  return o.puts digits (List.replicate (byteCount digits) 0) 0 (lowDigits v digits)

/-- Reads a field digit by digit. -/
def decodePlaces (o : ByteOrder) (bytes : List UInt8) (digits : Nat) : Outcome Nat := do
  let _ ← field bytes digits
  (List.range digits).reverse.foldlM (fun v place => accumulate v (o.nibble bytes digits place)) 0

theorem length_put : (o.put n bytes place d).length = bytes.length := by
  rw [put, List.length_modify]

/-! ## The low order -/

theorem put_low_cons : low.put (n + 2) (b :: rest) (place + 2) d = b :: low.put n rest place d := by
  have hindex : low.index (n + 2) (place + 2) = low.index n place + 1 := by
    simp only [index]
    omega
  have hparity : (place + 2) % 2 = place % 2 := by omega
  rw [put, hindex, hparity, List.modify_succ_cons, put]

theorem puts_low_cons :
    low.puts (n + 2) (b :: rest) (place + 2) ds = b :: low.puts n rest place ds := by
  induction ds generalizing rest place with
  | nil => rfl
  | cons d ds ih => rw [puts, put_low_cons, ih, puts]

/-- Two digits make up a byte. -/
theorem or_digits : ∀ tens ones : Fin 10,
    ((0 : UInt8) ||| ones.val.toUInt8) ||| tens.val.toUInt8 <<< 4 = pair tens.val ones.val := by
  decide

/-- A field that is filled from the ones on is the packed number. -/
theorem puts_low : low.puts n (List.replicate (byteCount n) 0) 0 (lowDigits v n) = packLow v n := by
  fun_induction packLow v n with
  | case1 => rfl
  | case2 v =>
    have hbyte := or_digits 0 ⟨v % 10, Nat.mod_lt v (by decide)⟩
    have hzero : (Fin.val (0 : Fin 10)).toUInt8 <<< 4 = 0 := by decide
    rw [hzero, UInt8.or_zero] at hbyte
    exact congrArg (· :: []) hbyte
  | case3 v n ih =>
    have hbyte := or_digits ⟨v / 10 % 10, Nat.mod_lt _ (by decide)⟩ ⟨v % 10, Nat.mod_lt v (by decide)⟩
    have hdiv : v / 10 / 10 = v / 100 := by omega
    have hhead : low.puts (n + 2) (List.replicate (byteCount (n + 2)) 0) 0 (lowDigits v (n + 2)) =
        low.puts (n + 2) (pair (v / 10 % 10) (v % 10) :: List.replicate (byteCount n) 0) (0 + 2)
          (lowDigits (v / 10 / 10) n) := by
      rw [byteCount_add_two, List.replicate_succ, lowDigits, lowDigits, ← hbyte]
      rfl
    rw [hhead, puts_low_cons, hdiv, ih]

/-! ## The high order -/

theorem put_high (hlength : bytes.length = byteCount n) (hplace : place < n) :
    high.put n bytes place d = (low.put n bytes.reverse place d).reverse := by
  have hbyte : low.index n place < bytes.length := by
    rw [hlength, byteCount, index]
    omega
  have hindex : high.index n place = bytes.length - 1 - low.index n place := by
    rw [hlength]
    rfl
  rw [put, hindex, modify_mirrored hbyte]
  rfl

theorem puts_high (hlength : bytes.length = byteCount n) (hplaces : place + ds.length ≤ n) :
    high.puts n bytes place ds = (low.puts n bytes.reverse place ds).reverse := by
  induction ds generalizing bytes place with
  | nil => rw [puts, puts, List.reverse_reverse]
  | cons d ds ih =>
    rw [List.length_cons] at hplaces
    have hput : high.put n bytes place d = (low.put n bytes.reverse place d).reverse :=
      put_high hlength (by omega)
    rw [puts, puts, ih (length_put.trans hlength) (by omega), hput, List.reverse_reverse]

theorem length_lowDigits : (lowDigits v n).length = n := by
  induction n generalizing v with
  | zero => rfl
  | succ n ih => rw [lowDigits, List.length_cons, ih]

/-! ## Both orders -/

theorem puts_digits :
    o.puts n (List.replicate (byteCount n) 0) 0 (lowDigits v n) = o.pack v n := by
  cases o with
  | low => exact puts_low
  | high =>
    rw [puts_high List.length_replicate (by rw [length_lowDigits]; omega),
      List.reverse_replicate, puts_low, pack, packHigh_eq]

/-- Writing whole bytes and writing digit by digit come to the same. -/
theorem encode_eq_places : o.encode v n = o.encodePlaces v n := by
  rw [encodePlaces, puts_digits]
  cases o
  · rfl
  · rfl

theorem decodePlaces_of_le (h : byteCount n ≤ bytes.length) :
    o.decodePlaces bytes n = value ((List.range n).map (o.nibble bytes n)).reverse := by
  rw [decodePlaces, field_eq_ok.2 ⟨h, rfl⟩, Outcome.ok_bind, value, ← List.map_reverse, List.foldlM_map]

/-- Reading whole bytes and reading digit by digit come to the same. -/
theorem decode_eq_places : o.decode bytes n = o.decodePlaces bytes n := by
  cases hfield : field bytes n with
  | error e =>
    have hplaces : o.decodePlaces bytes n = .error e := by
      rw [decodePlaces, hfield]
      rfl
    rw [hplaces]
    cases o with
    | low =>
      rw [decode, decodeLow, hfield]
      rfl
    | high =>
      rw [decode, decodeHigh, hfield]
      rfl
  | ok front =>
    obtain ⟨h, rfl⟩ := field_eq_ok.1 hfield
    rw [decodePlaces_of_le h]
    cases o with
    | low => rw [decode, decodeLow, hfield, Outcome.ok_bind, ← nibbles, nibbles_low h]
    | high =>
      have hlength : (bytes.take (byteCount n)).reverse.length = byteCount n := by
        rw [List.length_reverse, List.length_take_of_le h]
      have hreversed := field_eq_ok.2 ⟨Nat.le_of_eq hlength.symm, rfl⟩
      have hplaces : (List.range n).map (high.nibble bytes n) =
          (List.range n).map (low.nibble (bytes.take (byteCount n)).reverse n) :=
        List.map_congr_left fun place hplace => nibble_high h (List.mem_range.1 hplace)
      rw [hplaces, decode, decodeHigh_eq h, decodeLow, hreversed, Outcome.ok_bind, ← nibbles,
        nibbles_low (Nat.le_of_eq hlength.symm)]

/-- **The byte orders mirror each other.** A number is refused by both or written by both, and then the bytes
of one are those of the other turned round. A field is read with the high byte first as its own bytes turned
round are read with the low byte first, errors included, and no matter what follows it. Each order puts every
digit into the byte of its place, and takes it from there. -/
theorem orders_mirrored :
    (∀ v n, encodeHigh v n = (encodeLow v n).map List.reverse) ∧
      (∀ bytes n, decodeHigh bytes n = decodeLow (bytes.take (byteCount n)).reverse n) ∧
      ∀ o : ByteOrder, (∀ v n, o.encode v n = o.encodePlaces v n) ∧
        ∀ bytes n, o.decode bytes n = o.decodePlaces bytes n := by
  refine ⟨fun v n => ?_, fun bytes n => ?_,
    fun o => ⟨fun v n => encode_eq_places, fun bytes n => decode_eq_places⟩⟩
  · rw [encodeHigh, encodeLow, packHigh_eq]
    cases checkFits v n
    · rfl
    · rfl
  · by_cases h : byteCount n ≤ bytes.length
    · exact decodeHigh_eq h
    · -- All the bytes that there are come to be read, and both orders say how many are missing.
      have hshort : bytes.length < byteCount n := Nat.lt_of_not_le h
      rw [decodeHigh, decodeLow, List.take_of_length_le (Nat.le_of_lt hshort), field, field,
        List.length_reverse, if_pos hshort, if_pos hshort]
      rfl

example : encodeHigh 12345 5 = .ok [0x01, 0x23, 0x45] ∧ encodeLow 12345 5 = .ok [0x45, 0x23, 0x01] ∧
    decodeHigh [0xF1, 0x23, 0x45, 0xFF] 5 = .ok 12345 := by decide

end RigControl.Bcd.ByteOrder

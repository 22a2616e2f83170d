/-
Packed decimals in both byte orders, exactly. A field is written if and only if it has room for the
number, and read if and only if all of it is there, every nibble in use is a digit, and the number has 64
bits. Each undoes the other, up to the nibble that an odd field does not use.

A field with its high byte first is the other one turned round, so that all is proved of the low order
and carried over.
-/
import RigControl.Proofs.PackedDecimal

namespace RigControl.Bcd

/-- Which byte of a field comes first. -/
inductive ByteOrder where
  | low
  | high
deriving DecidableEq, Repr

namespace ByteOrder

def encode : ByteOrder → Nat → Nat → Outcome (List UInt8)
  | low => encodeLow
  | high => encodeHigh

def decode : ByteOrder → List UInt8 → Nat → Outcome Nat
  | low => decodeLow
  | high => decodeHigh

/-- The bytes of a number that fits. -/
def pack : ByteOrder → Nat → Nat → List UInt8
  | low => packLow
  | high => packHigh

/-- Where the byte with a digit stands in a field. Places are counted from the ones on. -/
def index (o : ByteOrder) (digits place : Nat) : Nat :=
  match o with
  | low => place / 2
  | high => byteCount digits - 1 - place / 2

/-- The digit at a place of a field. -/
def digit (o : ByteOrder) (bytes : List UInt8) (digits place : Nat) : Nat :=
  let b := (bytes.getD (o.index digits place) 0).toNat
  if place % 2 = 0 then b % 16 else b / 16

/-- The nibble at a place of a field. -/
def nibble (o : ByteOrder) (bytes : List UInt8) (digits place : Nat) : Nibble :=
  let b := bytes.getD (o.index digits place) 0
  if place % 2 = 0 then .low b else .high b

/-- The digits of a field, from the ones on. -/
def digitsOf (o : ByteOrder) (bytes : List UInt8) (digits : Nat) : List Nat :=
  (List.range digits).map (o.digit bytes digits)

/-- The bytes of a field, with the high nibble that an odd field does not use cleared. -/
def canonical (o : ByteOrder) (bytes : List UInt8) (digits : Nat) : List UInt8 :=
  let field := bytes.take (byteCount digits)
  if digits % 2 = 0 then field else field.modify (o.index digits (digits - 1)) (· % 16)

end ByteOrder

/-! ## The low order -/

/-- A run of nibbles is a number if and only if they are digits and it has 64 bits. -/
theorem value_reverse_eq_ok {ns : List Nibble} {v : Nat} :
    value ns.reverse = .ok v ↔
      (∀ n ∈ ns, n.digit ≤ 9) ∧ numeral (ns.map Nibble.digit) = v ∧ v < UInt64.size := by
  constructor
  · intro h
    induction ns generalizing v with
    | nil =>
      cases h
      exact ⟨nofun, rfl, by decide⟩
    | cons n ns ih =>
      rw [value, List.reverse_cons, List.foldlM_append, ← value] at h
      obtain ⟨rest, hrest, h⟩ := Outcome.bind_eq_ok.1 h
      obtain ⟨last, hlast, h⟩ := Outcome.bind_eq_ok.1 h
      cases h
      obtain ⟨hdigits, hnumeral, -⟩ := ih hrest
      unfold accumulate at hlast
      split at hlast
      · cases hlast
      · split at hlast
        · cases hlast
        · cases hlast
          refine ⟨fun m hm => ?_, ?_, by omega⟩
          · rcases List.mem_cons.1 hm with rfl | hm
            · omega
            · exact hdigits m hm
          · rw [List.map_cons, numeral, hnumeral, Nat.add_comm]
  · rintro ⟨hdigits, rfl, hsize⟩
    exact value_reverse hdigits hsize

theorem foldlM_accumulate_error {ns : List Nibble} {v : Nat} {e : Error}
    (h : ns.foldlM accumulate v = .error e) : ∃ detail, e = .protocol detail := by
  induction ns generalizing v with
  | nil => cases h
  | cons n ns ih =>
    rcases Outcome.bind_eq_error.1 h with h | ⟨v', -, h⟩
    · unfold accumulate at h
      repeat' split at h
      all_goals cases h
      all_goals exact ⟨_, rfl⟩
    · exact ih h

theorem field_eq_ok {bytes front : List UInt8} {n : Nat} :
    field bytes n = .ok front ↔ byteCount n ≤ bytes.length ∧ bytes.take (byteCount n) = front := by
  unfold field
  split
  · simp only [reduceCtorEq, false_iff]
    omega
  · simp only [Except.ok.injEq, iff_and_self]
    omega

theorem field_error {bytes : List UInt8} {n : Nat} {e : Error} (h : field bytes n = .error e) :
    ∃ detail, e = .protocol detail := by
  unfold field at h
  split at h
  · cases h
    exact ⟨_, rfl⟩
  · cases h

theorem checkFits_error {v n : Nat} {e : Error} (h : checkFits v n = .error e) :
    ∃ detail, e = .invalidParameter detail := by
  unfold checkFits at h
  repeat' split at h
  all_goals cases h
  all_goals exact ⟨_, rfl⟩

theorem pair_nibbles (b : UInt8) : pair (b.toNat / 16) (b.toNat % 16) = b := by
  have hb : 16 * (b.toNat / 16) + b.toNat % 16 = b.toNat := by omega
  rw [pair, hb]
  exact UInt8.ofNat_toNat

theorem pair_low (b : UInt8) : pair 0 (b.toNat % 16) = b % 16 := by
  have hpair : (pair 0 (b.toNat % 16)).toNat = b.toNat % 16 := by
    rw [pair, Nat.toUInt8, UInt8.toNat_ofNat']
    omega
  rw [← UInt8.toNat_inj, hpair, UInt8.toNat_mod]
  rfl

namespace ByteOrder

theorem digit_nibble {o : ByteOrder} {bytes : List UInt8} {n place : Nat} :
    (o.nibble bytes n place).digit = o.digit bytes n place := by
  unfold nibble digit
  split
  · rfl
  · rfl

theorem nibble_low_cons {b : UInt8} {rest : List UInt8} {n place : Nat} :
    low.nibble (b :: rest) (n + 2) (place + 2) = low.nibble rest n place := by
  have hindex : low.index (n + 2) (place + 2) = low.index n place + 1 := by
    simp only [index]
    omega
  have hparity : (place + 2) % 2 = place % 2 := by omega
  simp only [nibble, hindex, hparity, List.getD_cons_succ]

theorem range_add_two (n : Nat) : List.range (n + 2) = 0 :: 1 :: (List.range n).map (· + 2) := by
  simp [List.range_succ_eq_map]

theorem digitsOf_low_cons {b : UInt8} {rest : List UInt8} {n : Nat} :
    low.digitsOf (b :: rest) (n + 2) = b.toNat % 16 :: b.toNat / 16 :: low.digitsOf rest n := by
  have hdigit : ∀ i, low.digit (b :: rest) (n + 2) (i + 2) = low.digit rest n i := by
    intro i
    rw [← digit_nibble, nibble_low_cons, digit_nibble]
  simp only [digitsOf, range_add_two, List.map_cons, List.map_map, Function.comp_def, hdigit]
  rfl

theorem byteCount_add_two (n : Nat) : byteCount (n + 2) = byteCount n + 1 := by
  simp only [byteCount]
  omega

/-- The nibbles in use stand at the places, the low one of each byte first. -/
theorem nibbles_low : ∀ {bytes : List UInt8} {n : Nat}, byteCount n ≤ bytes.length →
    (nibbles (bytes.take (byteCount n))).take n = (List.range n).map (low.nibble bytes n)
  | _, 0, _ => rfl
  | [], 1, h => by simp [byteCount] at h
  | b :: rest, 1, _ => rfl
  | [], n + 2, h => by simp [byteCount_add_two] at h
  | b :: rest, n + 2, h => by
    rw [byteCount_add_two, List.length_cons] at h
    have hrest := nibbles_low (Nat.le_of_succ_le_succ h)
    simp only [range_add_two, List.map_cons, List.map_map, Function.comp_def, nibble_low_cons]
    rw [← hrest, byteCount_add_two, List.take_succ_cons]
    rfl

theorem digit_nibbles {bytes : List UInt8} {n : Nat} (h : byteCount n ≤ bytes.length) :
    ((nibbles (bytes.take (byteCount n))).take n).map Nibble.digit = low.digitsOf bytes n := by
  rw [nibbles_low h, List.map_map, digitsOf]
  exact List.map_congr_left fun place _ => digit_nibble

theorem canonical_low_cons {b : UInt8} {rest : List UInt8} {n : Nat} :
    low.canonical (b :: rest) (n + 2) = b :: low.canonical rest n := by
  have hparity : (n + 2) % 2 = n % 2 := by omega
  have hindex : ¬ n % 2 = 0 → low.index (n + 2) (n + 2 - 1) = low.index n (n - 1) + 1 := by
    simp only [index]
    omega
  simp only [canonical, byteCount_add_two, hparity, List.take_succ_cons]
  split
  · rfl
  · rename_i hodd
    rw [hindex hodd]
    rfl

/-- Packing the digits of a field gives the field. -/
theorem packLow_numeral : ∀ {bytes : List UInt8} {n : Nat}, byteCount n ≤ bytes.length →
    (∀ d ∈ low.digitsOf bytes n, d ≤ 9) →
    packLow (numeral (low.digitsOf bytes n)) n = low.canonical bytes n
  | _, 0, _, _ => by simp [packLow, canonical, byteCount]
  | [], 1, h, _ => by simp [byteCount] at h
  | b :: rest, 1, _, hd => by
    have hb : b.toNat % 16 ≤ 9 := hd _ List.mem_cons_self
    have hdigit : (b.toNat % 16 + 10 * 0) % 10 = b.toNat % 16 := by omega
    show [pair 0 ((b.toNat % 16 + 10 * 0) % 10)] = [b % 16]
    rw [hdigit, pair_low]
  | [], n + 2, h, _ => by simp [byteCount_add_two] at h
  | b :: rest, n + 2, h, hd => by
    rw [byteCount_add_two, List.length_cons] at h
    rw [digitsOf_low_cons] at hd ⊢
    simp only [List.forall_mem_cons] at hd
    obtain ⟨hlow, hhigh, hd⟩ := hd
    rw [numeral, numeral, packLow, canonical_low_cons, ← packLow_numeral (Nat.le_of_succ_le_succ h) hd]
    generalize numeral (low.digitsOf rest n) = v
    have hones : (b.toNat % 16 + 10 * (b.toNat / 16 + 10 * v)) % 10 = b.toNat % 16 := by omega
    have htens : (b.toNat % 16 + 10 * (b.toNat / 16 + 10 * v)) / 10 % 10 = b.toNat / 16 := by omega
    have hrest : (b.toNat % 16 + 10 * (b.toNat / 16 + 10 * v)) / 100 = v := by omega
    rw [hones, htens, hrest, pair_nibbles]

end ByteOrder

/-! ## The high order -/

theorem packHigh_eq {v n : Nat} : packHigh v n = (packLow v n).reverse := by
  fun_induction packLow v n with
  | case1 => rfl
  | case2 => rfl
  | case3 v n ih => rw [packHigh, ih, List.reverse_cons]

theorem nibbles_reverse {bytes : List UInt8} :
    (bytes.flatMap fun b => [.high b, .low b]) = (nibbles bytes.reverse).reverse := by
  rw [nibbles, List.flatMap_reverse, List.reverse_reverse]
  rfl

theorem length_nibbles {bytes : List UInt8} : (nibbles bytes).length = 2 * bytes.length := by
  induction bytes with
  | nil => rfl
  | cons b bytes ih =>
    rw [nibbles, List.flatMap_cons, List.length_append, ← nibbles, ih]
    simp only [List.length_cons, List.length_nil]
    omega

/-- Reading with the high byte first is reading the field turned round. -/
theorem decodeHigh_eq {bytes : List UInt8} {n : Nat} (h : byteCount n ≤ bytes.length) :
    decodeHigh bytes n = decodeLow (bytes.take (byteCount n)).reverse n := by
  have hlength : (bytes.take (byteCount n)).length = byteCount n := List.length_take_of_le h
  have hhigh : field bytes n = .ok (bytes.take (byteCount n)) := field_eq_ok.2 ⟨h, rfl⟩
  have hlow : field (bytes.take (byteCount n)).reverse n = .ok (bytes.take (byteCount n)).reverse :=
    field_eq_ok.2 ⟨by simp [hlength], List.take_of_length_le (by simp [hlength])⟩
  have hdrop : 2 * byteCount n - n % 2 = n := by
    simp only [byteCount]
    omega
  rw [decodeHigh, decodeLow, hhigh, hlow]
  show value _ = value _
  rw [nibbles_reverse, ← nibbles, List.drop_reverse, length_nibbles, List.length_reverse, hlength,
    hdrop]

namespace ByteOrder

theorem nibble_high {bytes : List UInt8} {n place : Nat} (h : byteCount n ≤ bytes.length)
    (hplace : place < n) :
    high.nibble bytes n place = low.nibble (bytes.take (byteCount n)).reverse n place := by
  have hlength : (bytes.take (byteCount n)).length = byteCount n := List.length_take_of_le h
  have hi : place / 2 < byteCount n := by
    rw [byteCount]
    omega
  have hbyte : (bytes.take (byteCount n)).reverse.getD (place / 2) 0 =
      bytes.getD (byteCount n - 1 - place / 2) 0 := by
    rw [List.getD_eq_getElem?_getD, List.getD_eq_getElem?_getD,
      List.getElem?_reverse (by rwa [hlength]), hlength, List.getElem?_take_of_lt (by omega)]
  simp only [nibble, index, hbyte]

theorem digitsOf_high {bytes : List UInt8} {n : Nat} (h : byteCount n ≤ bytes.length) :
    high.digitsOf bytes n = low.digitsOf (bytes.take (byteCount n)).reverse n := by
  refine List.map_congr_left fun place hplace => ?_
  rw [← digit_nibble, nibble_high h (List.mem_range.1 hplace), digit_nibble]

/-- A byte is changed where it stands when counted from the other end. -/
theorem modify_mirrored {bytes : List UInt8} {i : Nat} {f : UInt8 → UInt8} (h : i < bytes.length) :
    bytes.modify (bytes.length - 1 - i) f = (bytes.reverse.modify i f).reverse := by
  refine List.ext_getElem? fun j => ?_
  by_cases hj : j < bytes.length
  · have hlength : (bytes.reverse.modify i f).length = bytes.length := by simp
    rw [List.getElem?_reverse (by rwa [hlength]), hlength, List.getElem?_modify, List.getElem?_modify,
      List.getElem?_reverse (by omega)]
    have hback : bytes.length - 1 - (bytes.length - 1 - j) = j := by omega
    have hplace : bytes.length - 1 - i = j ↔ i = bytes.length - 1 - j := by omega
    simp only [hback, hplace]
  · rw [List.getElem?_eq_none (by simpa using hj), List.getElem?_eq_none (by simpa using hj)]

theorem canonical_high {bytes : List UInt8} {n : Nat} (h : byteCount n ≤ bytes.length) :
    high.canonical bytes n = (low.canonical (bytes.take (byteCount n)).reverse n).reverse := by
  have hlength : (bytes.take (byteCount n)).length = byteCount n := List.length_take_of_le h
  have hfield : (bytes.take (byteCount n)).reverse.take (byteCount n) =
      (bytes.take (byteCount n)).reverse := List.take_of_length_le (by simp [hlength])
  simp only [canonical, hfield]
  split
  · rw [List.reverse_reverse]
  · have hlast : low.index n (n - 1) < (bytes.take (byteCount n)).length := by
      rw [hlength, byteCount, index]
      omega
    rw [← modify_mirrored hlast, hlength]
    rfl

end ByteOrder

/-! ## Both orders -/

theorem decodeLow_eq_ok {bytes : List UInt8} {n v : Nat} : decodeLow bytes n = .ok v ↔
    byteCount n ≤ bytes.length ∧ (∀ d ∈ ByteOrder.low.digitsOf bytes n, d ≤ 9) ∧
      numeral (ByteOrder.low.digitsOf bytes n) = v ∧ v < UInt64.size := by
  have hvalue : ∀ {front}, field bytes n = .ok front →
      (value ((nibbles front).take n).reverse = .ok v ↔
        (∀ d ∈ ByteOrder.low.digitsOf bytes n, d ≤ 9) ∧
          numeral (ByteOrder.low.digitsOf bytes n) = v ∧ v < UInt64.size) := by
    intro front hfront
    obtain ⟨hlength, rfl⟩ := field_eq_ok.1 hfront
    rw [value_reverse_eq_ok, ByteOrder.digit_nibbles hlength, ← ByteOrder.digit_nibbles hlength,
      List.forall_mem_map]
  rw [decodeLow, Outcome.bind_eq_ok]
  constructor
  · rintro ⟨front, hfront, h⟩
    exact ⟨(field_eq_ok.1 hfront).1, (hvalue hfront).1 h⟩
  · rintro ⟨hlength, h⟩
    have hfront := field_eq_ok.2 ⟨hlength, rfl⟩
    exact ⟨_, hfront, (hvalue hfront).2 h⟩

/-- Some digits spell a number with no more digits. -/
theorem numeral_lt {ds : List Nat} (h : ∀ d ∈ ds, d ≤ 9) : numeral ds < Nat.pow 10 ds.length := by
  induction ds with
  | nil => decide
  | cons d ds ih =>
    have hd := h d List.mem_cons_self
    have hrest := ih fun x hx => h x (List.mem_cons_of_mem _ hx)
    have hpow : Nat.pow 10 (ds.length + 1) = 10 * Nat.pow 10 ds.length := Nat.pow_succ'
    rw [numeral, List.length_cons, hpow]
    omega

namespace ByteOrder

variable {o : ByteOrder} {bytes : List UInt8} {v n : Nat} {e : Error}

theorem encode_checked :
    o.encode v n = .ok bytes ↔ checkFits v n = .ok () ∧ o.pack v n = bytes := by
  cases o
  all_goals
    simp only [encode, encodeLow, encodeHigh, pack, Outcome.bind_eq_ok, Outcome.pure_eq_ok]
    constructor
    · intro h
      obtain ⟨fits, hfits, hpacked⟩ := h
      exact ⟨hfits, hpacked⟩
    · intro h
      obtain ⟨hfits, hpacked⟩ := h
      exact ⟨(), hfits, hpacked⟩

theorem encode_eq_ok (h : n ≤ maxDigits ∨ v < UInt64.size) :
    o.encode v n = .ok bytes ↔ (1 ≤ n ∧ v < Nat.pow 10 n) ∧ o.pack v n = bytes := by
  rw [encode_checked, checkFits_eq_ok h]

theorem encode_error (h : o.encode v n = .error e) : ∃ detail, e = .invalidParameter detail := by
  have hfits : checkFits v n = .error e := by
    cases o
    all_goals
      rcases Outcome.bind_eq_error.1 h with h | ⟨_, -, h⟩
      · exact h
      · cases h
  exact checkFits_error hfits

theorem length_pack : (o.pack v n).length = byteCount n := by
  cases o with
  | low => exact length_packLow
  | high => rw [pack, packHigh_eq, List.length_reverse, length_packLow]

theorem length_of_encode (h : o.encode v n = .ok bytes) : bytes.length = byteCount n := by
  obtain ⟨-, rfl⟩ := encode_checked.1 h
  exact length_pack

theorem decode_pack (tail : List UInt8) (hn : v < Nat.pow 10 n) (hv : v < UInt64.size) :
    o.decode (o.pack v n ++ tail) n = .ok v := by
  cases o with
  | low => exact decodeLow_packLow tail hn hv
  | high =>
    have hlength : byteCount n = (packHigh v n).length := (length_pack (o := high)).symm
    have hreversed : ((packHigh v n ++ tail).take (byteCount n)).reverse = packLow v n ++ [] := by
      rw [hlength, List.take_left, packHigh_eq, List.reverse_reverse, List.append_nil]
    have hroom : byteCount n ≤ (packHigh v n ++ tail).length := by
      rw [List.length_append, ← hlength]
      omega
    show decodeHigh (packHigh v n ++ tail) n = .ok v
    rw [decodeHigh_eq hroom, hreversed, decodeLow_packLow [] hn hv]

theorem decode_eq_ok : o.decode bytes n = .ok v ↔
    byteCount n ≤ bytes.length ∧ (∀ d ∈ o.digitsOf bytes n, d ≤ 9) ∧
      numeral (o.digitsOf bytes n) = v ∧ v < UInt64.size := by
  cases o with
  | low => exact decodeLow_eq_ok
  | high =>
    by_cases h : byteCount n ≤ bytes.length
    · have hlength : (bytes.take (byteCount n)).reverse.length = byteCount n := by
        rw [List.length_reverse, List.length_take_of_le h]
      rw [decode, decodeHigh_eq h, decodeLow_eq_ok, digitsOf_high h, hlength]
      simp [h]
    · simp only [decode, decodeHigh, Outcome.bind_eq_ok, field_eq_ok, h, false_and, exists_false]

theorem decode_error (h : o.decode bytes n = .error e) : ∃ detail, e = .protocol detail := by
  cases o
  all_goals
    rcases Outcome.bind_eq_error.1 h with h | ⟨front, -, h⟩
    · exact field_error h
    · exact foldlM_accumulate_error h

theorem pack_numeral (h : byteCount n ≤ bytes.length) (hd : ∀ d ∈ o.digitsOf bytes n, d ≤ 9) :
    o.pack (numeral (o.digitsOf bytes n)) n = o.canonical bytes n := by
  cases o with
  | low => exact packLow_numeral h hd
  | high =>
    have hlength : (bytes.take (byteCount n)).reverse.length = byteCount n := by
      rw [List.length_reverse, List.length_take_of_le h]
    rw [digitsOf_high h] at hd ⊢
    rw [canonical_high h, pack, packHigh_eq, packLow_numeral (Nat.le_of_eq hlength.symm) hd]

/-- What was read can be written again. -/
theorem encode_decode (hn : 1 ≤ n) (h : o.decode bytes n = .ok v) :
    o.encode v n = .ok (o.canonical bytes n) := by
  obtain ⟨hlength, hdigits, rfl, hsize⟩ := decode_eq_ok.1 h
  have hfits := numeral_lt hdigits
  rw [digitsOf, List.length_map, List.length_range, ← digitsOf] at hfits
  exact (encode_eq_ok (.inr hsize)).2 ⟨⟨hn, hfits⟩, pack_numeral hlength hdigits⟩

/-- **A field is written if and only if the number fits, and read if and only if it is all digits** of a
number of 64 bits. What was written is read back, whatever follows it, and what was read is written
again. Fields have any number of digits, and the nineteen up to which the check compares do not show. -/
theorem codec_exact (o : ByteOrder) :
    (∀ (v : UInt64) (n : Nat),
      ((∃ bytes, o.encode v.toNat n = .ok bytes) ↔ 1 ≤ n ∧ v.toNat < Nat.pow 10 n) ∧
      (∀ e, o.encode v.toNat n = .error e → ∃ detail, e = .invalidParameter detail) ∧
      ∀ bytes, o.encode v.toNat n = .ok bytes → bytes.length = byteCount n ∧
        ∀ tail, o.decode (bytes ++ tail) n = .ok v.toNat) ∧
    ∀ bytes n, (∀ v, o.decode bytes n = .ok v ↔
        byteCount n ≤ bytes.length ∧ (∀ d ∈ o.digitsOf bytes n, d ≤ 9) ∧
          numeral (o.digitsOf bytes n) = v ∧ v < UInt64.size) ∧
      (∀ e, o.decode bytes n = .error e → ∃ detail, e = .protocol detail) ∧
      ∀ v, o.decode bytes n = .ok v → 1 ≤ n → o.encode v n = .ok (o.canonical bytes n) := by
  refine ⟨fun v n => ?_,
    fun bytes n => ⟨fun v => decode_eq_ok, fun _ => decode_error, fun v h hn => encode_decode hn h⟩⟩
  have hv : v.toNat < UInt64.size := v.toNat_lt
  have hencode : ∀ {bytes}, o.encode v.toNat n = .ok bytes ↔
      (1 ≤ n ∧ v.toNat < Nat.pow 10 n) ∧ o.pack v.toNat n = bytes := encode_eq_ok (.inr hv)
  refine ⟨⟨?_, fun h => ⟨_, hencode.2 ⟨h, rfl⟩⟩⟩, fun _ => encode_error, fun bytes h => ?_⟩
  · rintro ⟨bytes, h⟩
    exact (hencode.1 h).1
  · obtain ⟨⟨-, hfits⟩, rfl⟩ := hencode.1 h
    exact ⟨length_pack, fun tail => decode_pack tail hfits hv⟩

/-- The greatest number of 64 bits takes twenty digits. In three digits, the nibble that is not in use is
ignored when reading and clear when writing. -/
theorem codec_exact_edges :
    let greatest : List UInt8 := [0x18, 0x44, 0x67, 0x44, 0x07, 0x37, 0x09, 0x55, 0x16, 0x15]
    high.encode 18446744073709551615 20 = .ok greatest ∧
      high.decode (greatest ++ [0xFF]) 20 = .ok 18446744073709551615 ∧
      (∀ bytes, high.encode 18446744073709551615 19 ≠ .ok bytes) ∧
      low.decode [0x99, 0xF9] 3 = .ok 999 ∧ low.encode 999 3 = .ok [0x99, 0x09] := by
  intro greatest
  have hwritten : high.encode (18446744073709551615 : UInt64).toNat 20 = .ok greatest := by decide
  have hread : low.decode [0x99, 0xF9] 3 = .ok 999 := by decide
  obtain ⟨-, -, hback⟩ := (codec_exact high).1 18446744073709551615 20
  obtain ⟨hnarrow, -, -⟩ := (codec_exact high).1 18446744073709551615 19
  have hagain := ((codec_exact low).2 _ _).2.2 _ hread (by decide)
  refine ⟨hwritten, (hback _ hwritten).2 [0xFF], fun bytes h => ?_, hread, hagain⟩
  exact absurd (hnarrow.1 ⟨bytes, h⟩).2 (by decide)

end ByteOrder

end RigControl.Bcd

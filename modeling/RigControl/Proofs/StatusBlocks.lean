/-
The records of a status block. A field is read from its own bytes and from no others, so that the two
records of a VFO block never show in each other, whatever is written into them (`records_apart`). A block
that is too short for a field is refused; the blocks that the rig sends are long enough for all of them.
-/
import RigControl.Ft840.Status
import RigControl.Proofs.Outcome

namespace RigControl.Ft840

variable {block other bytes : List UInt8} {offset length i n : Nat} {l : Layout} {code flag : UInt8}

/-! ## Bytes of a block -/

/-- These bytes stand in a block from an offset on. -/
def Holds (block : List UInt8) (offset : Nat) (bytes : List UInt8) : Prop :=
  ∀ i < bytes.length, block[offset + i]? = bytes[i]?

instance : Decidable (Holds block offset bytes) :=
  inferInstanceAs (Decidable (∀ i < bytes.length, block[offset + i]? = bytes[i]?))

/-- Overwrites the bytes of a block from an offset on. -/
def put (block : List UInt8) (offset : Nat) : List UInt8 → List UInt8
  | [] => block
  | b :: rest => put (block.set offset b) (offset + 1) rest

theorem length_put : (put block offset bytes).length = block.length := by
  induction bytes generalizing block offset with
  | nil => rfl
  | cons b rest ih => rw [put, ih, List.length_set]

/-- What is not overwritten stays. -/
theorem getElem?_put_of_outside (h : i < offset ∨ offset + bytes.length ≤ i) :
    (put block offset bytes)[i]? = block[i]? := by
  induction bytes generalizing block offset with
  | nil => rfl
  | cons b rest ih =>
    rw [List.length_cons] at h
    rw [put, ih (by omega), List.getElem?_set_ne (by omega)]

theorem holds_put (h : offset + bytes.length ≤ block.length) :
    Holds (put block offset bytes) offset bytes := by
  induction bytes generalizing block offset with
  | nil => exact nofun
  | cons b rest ih =>
    rw [List.length_cons] at h
    intro i hi
    cases i with
    | zero =>
      rw [put, getElem?_put_of_outside (by omega), Nat.add_zero, List.getElem?_set_self (by omega)]
      rfl
    | succ i =>
      have hrest : Holds (put (block.set offset b) (offset + 1) rest) (offset + 1) rest :=
        ih (by rw [List.length_set]; omega)
      rw [put, List.getElem?_cons_succ, ← hrest i (Nat.lt_of_succ_lt_succ hi)]
      congr 1
      omega

/-- Another block with the same bytes there holds them as well. -/
theorem Holds.congr (h : Holds block offset bytes)
    (hsame : ∀ i, offset ≤ i → i < offset + bytes.length → other[i]? = block[i]?) :
    Holds other offset bytes := by
  intro i hi
  rw [hsame _ (by omega) (by omega), h i hi]

/-- What stands beside the bytes that are overwritten stays. -/
theorem Holds.put {start : Nat} {more : List UInt8} (h : Holds block offset bytes)
    (hapart : offset + bytes.length ≤ start ∨ start + more.length ≤ offset) :
    Holds (put block start more) offset bytes :=
  h.congr fun i _ _ => getElem?_put_of_outside (by omega)

theorem holds_singleton {b : UInt8} : Holds block offset [b] ↔ block[offset]? = some b := by
  constructor
  · intro h
    exact h 0 Nat.one_pos
  · intro h i hi
    obtain rfl : i = 0 := Nat.lt_one_iff.1 hi
    exact h

/-! ## Numbers in bytes -/

/-- The lowest bytes of a number, the highest first. -/
def spell : Nat → Nat → List UInt8
  | 0, _ => []
  | count + 1, n => spell count (n / 256) ++ [n.toUInt8]

theorem length_spell {count : Nat} : (spell count n).length = count := by
  induction count generalizing n with
  | zero => rfl
  | succ count ih => rw [spell, List.length_append, ih, List.length_singleton]

theorem bigEndian_append {b : UInt8} : bigEndian (bytes ++ [b]) = 256 * bigEndian bytes + b.toNat := by
  rw [bigEndian, List.foldl_append]
  rfl

/-- A number reads back if it has no more bytes. -/
theorem bigEndian_spell {count : Nat} (h : n < Nat.pow 256 count) : bigEndian (spell count n) = n := by
  induction count generalizing n with
  | zero =>
    have hzero : n = 0 := Nat.lt_one_iff.1 h
    rw [hzero]
    rfl
  | succ count ih =>
    have hpow : Nat.pow 256 (count + 1) = 256 * Nat.pow 256 count := Nat.pow_succ'
    have hlow : n.toUInt8.toNat = n % 256 := UInt8.toNat_ofNat'
    rw [spell, bigEndian_append, ih (by omega), hlow]
    omega

/-! ## Fields -/

/-- A field inside the block is the bytes that stand there. -/
theorem field_inside (h : offset + length ≤ block.length) :
    ∃ bytes, field block offset length = .ok bytes ∧ bytes.length = length ∧
      Holds block offset bytes := by
  have hlength : ((block.drop offset).take length).length = length := by
    rw [List.length_take, List.length_drop]
    omega
  refine ⟨_, if_pos h, hlength, fun i hi => ?_⟩
  rw [List.getElem?_take_of_lt (hlength ▸ hi), List.getElem?_drop]

/-- A block that ends before the field does is refused. -/
theorem field_short (h : block.length < offset + length) :
    ∃ detail, field block offset length = .error (.protocol detail) :=
  ⟨_, if_neg (Nat.not_le.2 h)⟩

theorem Holds.le_length (h : Holds block offset bytes) (hne : bytes ≠ []) :
    offset + bytes.length ≤ block.length := by
  have hpos := List.length_pos_iff.2 hne
  have hlast := h (bytes.length - 1) (by omega)
  rw [List.getElem?_eq_getElem (show bytes.length - 1 < bytes.length by omega)] at hlast
  obtain ⟨hlt, -⟩ := List.getElem?_eq_some_iff.1 hlast
  omega

theorem Holds.field_eq (h : Holds block offset bytes) (hne : bytes ≠ []) :
    field block offset bytes.length = .ok bytes := by
  obtain ⟨found, hfound, hlength, hholds⟩ := field_inside (h.le_length hne)
  obtain rfl : found = bytes := by
    refine List.ext_getElem? fun i => ?_
    by_cases hi : i < bytes.length
    · rw [← hholds i (hlength ▸ hi), h i hi]
    · rw [List.getElem?_eq_none (by omega), List.getElem?_eq_none (by omega)]
  exact hfound

theorem Holds.byteAt_eq {b : UInt8} (h : Holds block offset [b]) : byteAt block offset = .ok b := by
  have hfield : field block offset 1 = .ok [b] := h.field_eq (by simp)
  rw [byteAt, hfield]
  rfl

/-- Where the bytes of a field are the same, so is the field. -/
theorem field_congr (hlength : other.length = block.length)
    (hsame : ∀ i, offset ≤ i → i < offset + length → other[i]? = block[i]?) :
    field other offset length = field block offset length := by
  unfold field
  rw [hlength]
  split
  · refine congrArg Except.ok (List.ext_getElem? fun i => ?_)
    rw [List.getElem?_take, List.getElem?_take, List.getElem?_drop, List.getElem?_drop]
    split
    · exact hsame _ (by omega) (by omega)
    · rfl
  · rfl

theorem byteAt_congr (hlength : other.length = block.length) (hsame : other[offset]? = block[offset]?) :
    byteAt other offset = byteAt block offset := by
  have hfield : field other offset 1 = field block offset 1 := by
    refine field_congr hlength fun i hlow hhigh => ?_
    obtain rfl : i = offset := by omega
    exact hsame
  rw [byteAt, hfield, byteAt]

/-! ## Values -/

theorem Holds.decodeFrequency_eq (h : Holds block l.frequency bytes) (hlength : bytes.length = 3) :
    decodeFrequency block l = .ok (10 * bigEndian bytes) := by
  have hfield := h.field_eq (by rintro rfl; cases hlength)
  rw [hlength] at hfield
  rw [decodeFrequency, hfield]
  rfl

theorem Holds.decodeClarifier_eq (h : Holds block l.clarifier bytes) (hlength : bytes.length = 2) :
    decodeClarifier block l = .ok (10 * Int.bmod (bigEndian bytes) 0x10000) := by
  have hfield := h.field_eq (by rintro rfl; cases hlength)
  rw [hlength] at hfield
  rw [decodeClarifier, hfield]
  rfl

/-- A count in three bytes tells a frequency. -/
theorem Holds.decodeFrequency_word {w : BitVec 24} (h : Holds block l.frequency (spell 3 w.toNat)) :
    decodeFrequency block l = .ok (10 * w.toNat) := by
  have hcount : bigEndian (spell 3 w.toNat) = w.toNat := bigEndian_spell w.isLt
  rw [h.decodeFrequency_eq length_spell, hcount]

/-- A count in two bytes tells an offset, with its sign as two's complement. -/
theorem Holds.decodeClarifier_word {w : BitVec 16} (h : Holds block l.clarifier (spell 2 w.toNat)) :
    decodeClarifier block l = .ok (10 * w.toInt) := by
  have hcount : bigEndian (spell 2 w.toNat) = w.toNat := bigEndian_spell w.isLt
  rw [h.decodeClarifier_eq length_spell, hcount, BitVec.toInt_eq_toNat_bmod]

/-- The modes by their codes. -/
def modes : List Mode := [.lsb, .usb, .cw, .am, .fm]

/-- Whether a flag byte tells the narrow filter of a mode. -/
def showsNarrow (flag : UInt8) : Mode → Bool
  | .cw => flag.toNat.testBit 7
  | .am => flag.toNat.testBit 6
  | _ => false

/-- A bit is set if something is left when the others are masked. -/
theorem and_ne_zero {k : Nat} {mask : UInt8} (hmask : ∀ i, mask.toNat.testBit i = decide (k = i)) :
    (flag &&& mask != 0) = flag.toNat.testBit k := by
  have hbits : ∀ i, (flag &&& mask).toNat.testBit i = (flag.toNat.testBit i && decide (k = i)) := by
    intro i
    rw [UInt8.toNat_and, Nat.testBit_and, hmask]
  cases hbit : flag.toNat.testBit k with
  | false =>
    have hzero : flag &&& mask = 0 := by
      refine UInt8.toNat_inj.1 (Nat.eq_of_testBit_eq fun i => ?_)
      by_cases hi : k = i
      · rw [hbits, ← hi, hbit]
        simp
      · rw [hbits, decide_eq_false hi, Bool.and_false]
        simp
    rw [hzero]
    rfl
  | true =>
    have hne : flag &&& mask ≠ 0 := by
      intro hzero
      have hset := hbits k
      rw [hzero, hbit] at hset
      simp at hset
    simp [hne]

/-- The mode goes by the three lowest bits of its byte. -/
theorem decodeMode_eq (hmode : Holds block l.mode [code]) (hflag : Holds block l.flag [flag]) :
    decodeMode block l = match modes[(code &&& 7).toNat]? with
      | some m => .ok (m, showsNarrow flag m)
      | none => .error (.protocol s!"unknown FT-840 mode code {Text.hexLiteral (code &&& 7)}") := by
  have hcw : (flag &&& 0x80 != 0) = flag.toNat.testBit 7 :=
    and_ne_zero fun i => Nat.testBit_two_pow (n := 7) (m := i)
  have ham : (flag &&& 0x40 != 0) = flag.toNat.testBit 6 :=
    and_ne_zero fun i => Nat.testBit_two_pow (n := 6) (m := i)
  have hcode : (code &&& 7).toNat ≤ 7 := by
    rw [UInt8.toNat_and]
    exact Nat.and_le_right
  simp only [decodeMode, hmode.byteAt_eq, hflag.byteAt_eq, Outcome.ok_bind, hcw, ham]
  generalize code &&& 7 = c at hcode ⊢
  have hcases : c = 0 ∨ c = 1 ∨ c = 2 ∨ c = 3 ∨ c = 4 ∨ c = 5 ∨ c = 6 ∨ c = 7 := by
    simp only [← UInt8.toNat_inj, UInt8.toNat_ofNat]
    omega
  rcases hcases with rfl | rfl | rfl | rfl | rfl | rfl | rfl | rfl
  all_goals rfl

/-! ## Records -/

/-- The fields of a record. Both numbers count tens of hertz, the second with a sign. -/
structure Record where
  frequency : BitVec 24
  clarifier : BitVec 16
  mode : Fin 5
  flag : UInt8
deriving DecidableEq, Repr

/-- What a block says about a channel. -/
structure Reading where
  frequency : Outcome Nat
  clarifier : Outcome Int
  mode : Outcome (Mode × Bool)
deriving DecidableEq, Repr

def reading (block : List UInt8) (l : Layout) : Reading :=
  ⟨decodeFrequency block l, decodeClarifier block l, decodeMode block l⟩

namespace Record

/-- What a record is to be read as. -/
def reading (r : Record) : Reading where
  frequency := .ok (10 * r.frequency.toNat)
  clarifier := .ok (10 * r.clarifier.toInt)
  mode := .ok (modes[r.mode], showsNarrow r.flag modes[r.mode])

/-- Writes the fields of a record to their places. -/
def write (r : Record) (l : Layout) (block : List UInt8) : List UInt8 :=
  let block := put block l.frequency (spell 3 r.frequency.toNat)
  let block := put block l.clarifier (spell 2 r.clarifier.toNat)
  put (put block l.mode [r.mode.val.toUInt8]) l.flag [r.flag]

/-- The fields of the record stand in the block. -/
structure In (r : Record) (l : Layout) (block : List UInt8) : Prop where
  frequency : Holds block l.frequency (spell 3 r.frequency.toNat)
  clarifier : Holds block l.clarifier (spell 2 r.clarifier.toNat)
  mode : Holds block l.mode [r.mode.val.toUInt8]
  flag : Holds block l.flag [r.flag]

variable {r : Record}

theorem In.reading_eq (h : r.In l block) : Ft840.reading block l = r.reading := by
  have hcode : ∀ m : Fin 5, (m.val.toUInt8 &&& 7).toNat = m.val := by decide
  have hmode : modes[r.mode.val]? = some modes[r.mode] := List.getElem?_eq_getElem r.mode.isLt
  rw [Ft840.reading, h.frequency.decodeFrequency_word, h.clarifier.decodeClarifier_word,
    decodeMode_eq h.mode h.flag, hcode, hmode, reading]

end Record

/-- The fields of a record stand one behind the other. -/
structure Layout.Ordered (l : Layout) : Prop where
  clarifier : l.frequency + 3 ≤ l.clarifier
  mode : l.clarifier + 2 ≤ l.mode
  flag : l.mode + 1 ≤ l.flag

theorem Layout.displayed_ordered : displayed.Ordered := ⟨by decide, by decide, by decide⟩

theorem Layout.vfoB_ordered : vfoB.Ordered := ⟨by decide, by decide, by decide⟩

/-- A record is read from its own bytes only. -/
theorem reading_congr (hl : l.Ordered) (hlength : other.length = block.length)
    (hsame : ∀ i, l.frequency ≤ i → i ≤ l.flag → other[i]? = block[i]?) :
    reading other l = reading block l := by
  obtain ⟨hclarifier, hmode, hflag⟩ := hl
  have hfrequency : field other l.frequency 3 = field block l.frequency 3 :=
    field_congr hlength fun i _ _ => hsame i (by omega) (by omega)
  have hoffset : field other l.clarifier 2 = field block l.clarifier 2 :=
    field_congr hlength fun i _ _ => hsame i (by omega) (by omega)
  have hcode : byteAt other l.mode = byteAt block l.mode :=
    byteAt_congr hlength (hsame _ (by omega) (by omega))
  have hbits : byteAt other l.flag = byteAt block l.flag :=
    byteAt_congr hlength (hsame _ (by omega) (by omega))
  simp only [reading, decodeFrequency, decodeClarifier, decodeMode, hfrequency, hoffset, hcode, hbits]

namespace Record

variable {r : Record}

theorem length_write : (r.write l block).length = block.length := by
  simp only [write, length_put]

/-- Writing a record changes no byte in front of it or behind it. -/
theorem getElem?_write (hl : l.Ordered) (h : i < l.frequency ∨ l.flag < i) :
    (r.write l block)[i]? = block[i]? := by
  obtain ⟨hclarifier, hmode, hflag⟩ := hl
  simp only [write]
  rw [getElem?_put_of_outside, getElem?_put_of_outside, getElem?_put_of_outside,
    getElem?_put_of_outside]
  all_goals
    simp only [length_spell, List.length_singleton]
    omega

theorem in_write (hl : l.Ordered) (hroom : l.flag < block.length) : r.In l (r.write l block) := by
  obtain ⟨hclarifier, hmode, hflag⟩ := hl
  constructor
  · refine .put (.put (.put (holds_put ?_) ?_) ?_) ?_
    all_goals
      simp only [length_spell]
      omega
  · refine .put (.put (holds_put ?_) ?_) ?_
    all_goals
      simp only [length_put, length_spell]
      omega
  · refine .put (holds_put ?_) ?_
    all_goals
      simp only [length_put, List.length_singleton]
      omega
  · refine holds_put ?_
    simp only [length_put, List.length_singleton]
    omega

/-- Writing a record is not seen in another one. -/
theorem reading_write_other {m : Layout} (hl : l.Ordered) (hm : m.Ordered)
    (hapart : l.flag < m.frequency ∨ m.flag < l.frequency) :
    Ft840.reading (r.write l block) m = Ft840.reading block m :=
  reading_congr hm length_write fun i _ _ => getElem?_write hl (by omega)

/-- A record that is written reads back. -/
theorem reading_write (hl : l.Ordered) (hroom : l.flag < block.length) :
    Ft840.reading (r.write l block) l = r.reading :=
  (in_write hl hroom).reading_eq

end Record

/-! ## Long and short blocks -/

theorem field_ok (h : field block offset length = .ok bytes) :
    offset + length ≤ block.length ∧ bytes.length = length ∧ Holds block offset bytes := by
  by_cases hinside : offset + length ≤ block.length
  · obtain ⟨found, hfound, hrest⟩ := field_inside hinside
    obtain rfl : found = bytes := Except.ok.inj (hfound.symm.trans h)
    exact ⟨hinside, hrest⟩
  · obtain ⟨detail, hshort⟩ := field_short (Nat.lt_of_not_le hinside)
    rw [hshort] at h
    cases h

theorem byteAt_inside (h : offset < block.length) :
    ∃ b, block[offset]? = some b ∧ Holds block offset [b] :=
  ⟨_, List.getElem?_eq_getElem h, holds_singleton.2 (List.getElem?_eq_getElem h)⟩

theorem byteAt_short (h : block.length ≤ offset) :
    ∃ detail, byteAt block offset = .error (.protocol detail) := by
  obtain ⟨detail, hfield⟩ : ∃ detail, field block offset 1 = .error (.protocol detail) :=
    field_short (Nat.lt_succ_of_le h)
  exact ⟨detail, by rw [byteAt, hfield]; rfl⟩

theorem decodeFrequency_inside (h : l.frequency + 3 ≤ block.length) :
    ∃ hz, decodeFrequency block l = .ok hz := by
  obtain ⟨bytes, -, hlength, hholds⟩ := field_inside h
  exact ⟨_, hholds.decodeFrequency_eq hlength⟩

theorem decodeFrequency_short (h : block.length < l.frequency + 3) :
    ∃ detail, decodeFrequency block l = .error (.protocol detail) := by
  obtain ⟨detail, hfield⟩ := field_short h
  exact ⟨detail, by rw [decodeFrequency, hfield]; rfl⟩

theorem decodeClarifier_inside (h : l.clarifier + 2 ≤ block.length) :
    ∃ offset, decodeClarifier block l = .ok offset := by
  obtain ⟨bytes, -, hlength, hholds⟩ := field_inside h
  exact ⟨_, hholds.decodeClarifier_eq hlength⟩

theorem decodeClarifier_short (h : block.length < l.clarifier + 2) :
    ∃ detail, decodeClarifier block l = .error (.protocol detail) := by
  obtain ⟨detail, hfield⟩ := field_short h
  exact ⟨detail, by rw [decodeClarifier, hfield]; rfl⟩

/-- Only the mode codes 5, 6 and 7 are refused. -/
theorem decodeMode_inside (hmode : l.mode < block.length) (hflag : l.flag < block.length) :
    ∃ code, block[l.mode]? = some code ∧
      ((∃ e, decodeMode block l = .error e) ↔ 5 ≤ (code &&& 7).toNat) ∧
      ∀ e, decodeMode block l = .error e → ∃ detail, e = .protocol detail := by
  obtain ⟨code, hcode, hmode⟩ := byteAt_inside hmode
  obtain ⟨flag, -, hflag⟩ := byteAt_inside hflag
  refine ⟨code, hcode, ?_⟩
  rw [decodeMode_eq hmode hflag]
  cases hm : modes[(code &&& 7).toNat]? with
  | some m =>
    have hlt : (code &&& 7).toNat < 5 := (List.getElem?_eq_some_iff.1 hm).1
    exact ⟨⟨nofun, fun hle => absurd hlt (Nat.not_lt.2 hle)⟩, nofun⟩
  | none =>
    have hle : 5 ≤ (code &&& 7).toNat := List.getElem?_eq_none_iff.1 hm
    exact ⟨⟨fun _ => hle, fun _ => ⟨_, rfl⟩⟩, fun e h => ⟨_, (Except.error.inj h).symm⟩⟩

theorem decodeMode_short (h : block.length ≤ l.mode ∨ block.length ≤ l.flag) :
    ∃ detail, decodeMode block l = .error (.protocol detail) := by
  by_cases hmode : block.length ≤ l.mode
  · obtain ⟨detail, hcode⟩ := byteAt_short hmode
    exact ⟨detail, by rw [decodeMode, hcode]; rfl⟩
  · obtain ⟨code, -, hcode⟩ := byteAt_inside (Nat.lt_of_not_le hmode)
    obtain ⟨detail, hflag⟩ := byteAt_short (h.resolve_left hmode)
    exact ⟨detail, by rw [decodeMode, hcode.byteAt_eq, hflag]; rfl⟩

/-- The blocks that the rig sends end behind the records that are read from them. -/
theorem source_inside {v : Vfo} {c : Command} (h : source v = .ok (c, l)) :
    l.Ordered ∧ l.flag < c.replyLength := by
  cases v <;> cases h
  · exact ⟨Layout.displayed_ordered, by decide⟩
  · exact ⟨Layout.vfoB_ordered, by decide⟩
  · exact ⟨Layout.displayed_ordered, by decide⟩
  · exact ⟨Layout.displayed_ordered, by decide⟩

/-- **The records of a block do not touch.** Each of the two in a VFO block is read from its own eight
bytes, so that whatever is written over one of them is not seen in the other, and two records that are
written read back, each with its own numbers, mode and narrow filter. In the blocks that the rig sends all
fields are there, and only the mode codes 5, 6 and 7 are refused. A block that is too short for a field is
refused, and what is read is inside the block. -/
theorem records_apart :
    (∀ block : List UInt8, block.length = Command.readVfoData.replyLength →
      (∀ other : List UInt8, other.length = block.length →
        ((∀ i, 0x01 ≤ i → i ≤ 0x08 → other[i]? = block[i]?) →
          reading other .displayed = reading block .displayed) ∧
        ((∀ i, 0x0A ≤ i → i ≤ 0x11 → other[i]? = block[i]?) →
          reading other .vfoB = reading block .vfoB)) ∧
      (∀ bytes : List UInt8, bytes.length = 8 →
        reading (put block 0x0A bytes) .displayed = reading block .displayed ∧
        reading (put block 0x01 bytes) .vfoB = reading block .vfoB) ∧
      ∀ r s : Record,
        reading (s.write .vfoB (r.write .displayed block)) .displayed = r.reading ∧
        reading (s.write .vfoB (r.write .displayed block)) .vfoB = s.reading) ∧
    (∀ v c l, source v = .ok (c, l) → ∀ block : List UInt8, block.length = c.replyLength →
      (∃ hz, decodeFrequency block l = .ok hz) ∧ (∃ offset, decodeClarifier block l = .ok offset) ∧
      ∃ code, block[l.mode]? = some code ∧
        ((∃ e, decodeMode block l = .error e) ↔ 5 ≤ (code &&& 7).toNat) ∧
        ∀ e, decodeMode block l = .error e → ∃ detail, e = .protocol detail) ∧
    (∀ (block : List UInt8) (l : Layout),
      (block.length < l.frequency + 3 → ∃ detail, decodeFrequency block l = .error (.protocol detail)) ∧
      (block.length < l.clarifier + 2 → ∃ detail, decodeClarifier block l = .error (.protocol detail)) ∧
      (block.length ≤ l.mode ∨ block.length ≤ l.flag →
        ∃ detail, decodeMode block l = .error (.protocol detail))) ∧
    ∀ (block bytes : List UInt8) (offset length : Nat), field block offset length = .ok bytes →
      offset + length ≤ block.length ∧ bytes.length = length ∧ Holds block offset bytes := by
  refine ⟨fun block hblock => ⟨fun other hother => ⟨?_, ?_⟩, fun bytes hbytes => ⟨?_, ?_⟩,
      fun r s => ⟨?_, ?_⟩⟩, fun v c l hsource block hblock => ?_,
    fun block l => ⟨decodeFrequency_short, decodeClarifier_short, decodeMode_short⟩,
    fun block bytes offset length => field_ok⟩
  · exact reading_congr Layout.displayed_ordered hother
  · exact reading_congr Layout.vfoB_ordered hother
  · refine reading_congr Layout.displayed_ordered length_put fun i _ hi => ?_
    exact getElem?_put_of_outside (.inl (Nat.lt_of_le_of_lt hi (by decide)))
  · refine reading_congr Layout.vfoB_ordered length_put fun i hi _ => ?_
    exact getElem?_put_of_outside (.inr (hbytes ▸ Nat.le_trans (by decide) hi))
  · rw [Record.reading_write_other Layout.vfoB_ordered Layout.displayed_ordered (.inr (by decide))]
    exact Record.reading_write Layout.displayed_ordered (hblock ▸ by decide)
  · exact Record.reading_write Layout.vfoB_ordered (Record.length_write.trans hblock ▸ by decide)
  · obtain ⟨hordered, hroom⟩ := source_inside hsource
    obtain ⟨hclarifier, hmode, hflag⟩ := hordered
    refine ⟨decodeFrequency_inside ?_, decodeClarifier_inside ?_, decodeMode_inside ?_ ?_⟩
    all_goals omega

/-- The ends of both ranges, and a flag byte of an AM channel with the bit for CW. Without the flag byte
of the second record its mode is refused. -/
theorem records_apart_ends :
    let blank : List UInt8 := List.replicate 18 0x55
    let r : Record := ⟨0xFFFFFF, 0x8000, 3, 0x80⟩
    let s : Record := ⟨0x000001, 0x7FFF, 2, 0xC0⟩
    let block : List UInt8 := [0x55, 0xFF, 0xFF, 0xFF, 0x55, 0x80, 0x00, 0x03, 0x80, 0x55, 0x00, 0x00, 0x01,
      0x55, 0x7F, 0xFF, 0x02, 0xC0]
    blank.length = Command.readVfoData.replyLength ∧ s.write .vfoB (r.write .displayed blank) = block ∧
      reading block .displayed = ⟨.ok 167772150, .ok (-327680), .ok (.am, false)⟩ ∧
      reading block .vfoB = ⟨.ok 10, .ok 327670, .ok (.cw, true)⟩ ∧
      ∃ detail, decodeMode (block.take 17) .vfoB = .error (.protocol detail) := by
  intro blank r s block
  have hlength : blank.length = Command.readVfoData.replyLength := by decide
  have hblock : s.write .vfoB (r.write .displayed blank) = block := by decide
  obtain ⟨hr, hs⟩ := (records_apart.1 blank hlength).2.2 r s
  rw [hblock] at hr hs
  have hshort := (records_apart.2.2.1 (block.take 17) .vfoB).2.2 (.inr (by decide))
  exact ⟨hlength, hblock, hr.trans (by decide), hs.trans (by decide), hshort⟩

end RigControl.Ft840

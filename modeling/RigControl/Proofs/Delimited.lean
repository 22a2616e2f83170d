/-
Commands in text tell where they end. A command that was built holds its terminator once, at its end,
unless the terminator is a digit or a separator or stands in the mnemonic; text with a terminator in it is
refused. So the commands that come over a link one behind another are read one by one, in whatever chunks
they come, and nothing is left over (`frames_delimited`).
-/
import RigControl.Proofs.AsciiFrames
import RigControl.Proofs.Delivery
import RigControl.Proofs.Echoes

namespace RigControl

open Text

/-! ## Reading block after block -/

namespace Port

variable {σ : Type} [Link σ] {terminator : UInt8} {limit n : Nat} {l m : σ} {pending further : List UInt8}
  {blocks chunks : List (List UInt8)} {waits : List Nat}

/-- Blocks that arrive one behind another are read in this order, and what follows them is left. -/
theorem reads_blocks (pacing : Pacing) (hblocks : ∀ block ∈ blocks, Block terminator limit block)
    (hwaits : waits.length = blocks.length) (harrive : Link.Arrives n l chunks m)
    (htime : ∀ wait ∈ waits, n ≤ Link.now l + wait)
    (hbytes : pending ++ chunks.flatten = blocks.flatten ++ further) : ∃ q left,
      reads (waits.map fun wait => (.upTo terminator limit, wait)) ⟨l, pending, pacing⟩ =
        (blocks.map .ok, q) ∧
      Link.Arrives n q.link left m ∧ q.pending ++ left.flatten = further := by
  -- Over the blocks. Each read leaves the rest of them, and the clock has not gone back.
  induction blocks generalizing l chunks pending pacing waits with
  | nil =>
    obtain rfl := List.length_eq_zero_iff.1 hwaits
    exact ⟨_, chunks, rfl, harrive, hbytes⟩
  | cons block blocks ih =>
    obtain ⟨wait, waits, rfl⟩ := List.exists_cons_of_length_eq_add_one hwaits
    rw [List.forall_mem_cons] at hblocks htime
    rw [List.flatten_cons, List.append_assoc] at hbytes
    obtain ⟨⟨l', pending', pacing'⟩, left, hread, hleft, hlater, hkept⟩ :=
      read_block pacing hblocks.1 harrive htime.1 hbytes
    have hlater : Link.now l ≤ Link.now l' := hlater
    obtain ⟨q, rest, hreads, hrest, hend⟩ := ih pacing' hblocks.2 (Nat.succ.inj hwaits) hleft
      (fun w hw => Nat.le_trans (htime.2 w hw) (Nat.add_le_add_right hlater w)) hkept
    refine ⟨q, rest, ?_, hrest, hend⟩
    have hread : (read (.upTo terminator limit) wait).run ⟨l, pending, pacing⟩ =
        (.ok block, ⟨l', pending', pacing'⟩) := hread
    rw [List.map_cons, reads_cons, hread, hreads, List.map_cons]

end Port

/-! ## Built commands -/

namespace AsciiFrame

variable {f : AsciiFrame} {mnemonic : String} {xs : List Field} {bytes frame : List UInt8}

/-- The terminator is neither a digit nor the separator. -/
structure Marked (f : AsciiFrame) : Prop where
  no_digit : ¬ (0x30 ≤ f.terminator ∧ f.terminator ≤ 0x39)
  no_separator : f.separator ≠ some f.terminator

theorem notMem_fieldBytes (hf : f.Marked) {x : Field} (h : f.fieldBytes x = .ok bytes) :
    f.terminator ∉ bytes := by
  obtain ⟨hfits, rfl⟩ := fieldBytes_eq_ok.1 h
  cases x with
  | num value width => exact fun hmem => hf.no_digit (zeroPadded_digits.mem_utf8 hmem)
  | text s => exact hfits

theorem notMem_fieldsBytes (hf : f.Marked) (h : f.fieldsBytes xs = .ok bytes) :
    f.terminator ∉ bytes := by
  induction xs generalizing bytes with
  | nil =>
    cases h
    exact nofun
  | cons x xs ih =>
    obtain ⟨first, hfirst, h⟩ := Outcome.bind_eq_ok.1 h
    obtain ⟨others, hothers, h⟩ := Outcome.bind_eq_ok.1 h
    obtain rfl := Outcome.pure_eq_ok.1 h
    have hsep : f.terminator ∉ f.separator.toList := fun hmem =>
      hf.no_separator (Option.mem_toList.1 hmem)
    simp only [List.mem_append, not_or]
    exact ⟨⟨hsep, notMem_fieldBytes hf hfirst⟩, ih hothers⟩

/-- A command ends with its only terminator. -/
theorem build_delimited (hf : f.Marked) (hmnemonic : f.terminator ∉ utf8 mnemonic.toList)
    (h : f.build mnemonic xs = .ok frame) :
    ∃ front, f.terminator ∉ front ∧ frame = front ++ [f.terminator] := by
  obtain ⟨body, hbody, h⟩ := Outcome.bind_eq_ok.1 h
  refine ⟨_, ?_, (Outcome.pure_eq_ok.1 h).symm⟩
  simp only [List.mem_append, not_or]
  exact ⟨hmnemonic, notMem_fieldsBytes hf hbody⟩

theorem build_ends_once (hf : f.Marked) (hmnemonic : f.terminator ∉ utf8 mnemonic.toList)
    (h : f.build mnemonic xs = .ok frame) :
    frame.count f.terminator = 1 ∧ frame.getLast? = some f.terminator := by
  obtain ⟨front, hfront, rfl⟩ := build_delimited hf hmnemonic h
  refine ⟨?_, List.getLast?_concat⟩
  rw [List.count_append, List.count_eq_zero_of_not_mem hfront, List.count_singleton_self]

/-- **Built commands tell where they end.** If the terminator is neither a digit nor the separator and
stands in none of the mnemonics, each of the commands that were built holds it once, at its end. So if they
all come before a deadline, in whatever chunks, reads up to the terminator give them back one after another
and leave nothing. -/
theorem frames_delimited (hf : f.Marked) {commands : List (String × List Field)}
    (hmnemonics : ∀ c ∈ commands, f.terminator ∉ utf8 c.1.toList) {frames : List (List UInt8)}
    (hbuilt : commands.mapM (fun c => f.build c.1 c.2) = .ok frames) :
    (∀ frame ∈ frames, frame.count f.terminator = 1 ∧ frame.getLast? = some f.terminator) ∧
    ∀ {σ : Type} [Link σ] (p : Port σ) (limit deadline : Nat) (chunks : List (List UInt8)) (l : σ)
      (waits : List Nat), (∀ frame ∈ frames, frame.length ≤ limit) →
      Link.Arrives deadline p.link chunks l → p.pending ++ chunks.flatten = frames.flatten →
      waits.length = frames.length → (∀ wait ∈ waits, deadline ≤ Link.now p.link + wait) →
      ∃ q, Port.reads (waits.map fun wait => (.upTo f.terminator limit, wait)) p =
          (frames.map .ok, q) ∧ q.pending = [] := by
  have hends : ∀ frame ∈ frames, ∃ front, f.terminator ∉ front ∧ frame = front ++ [f.terminator] :=
    Outcome.forall_of_mapM_eq_ok hbuilt fun c hc frame h => build_delimited hf (hmnemonics c hc) h
  refine ⟨?_, fun p limit deadline chunks l waits hlimit harrive hbytes hwaits htime => ?_⟩
  · exact Outcome.forall_of_mapM_eq_ok hbuilt fun c hc frame h => build_ends_once hf (hmnemonics c hc) h
  · have hblocks : ∀ frame ∈ frames, Block f.terminator limit frame := by
      intro frame hframe
      obtain ⟨front, hfront, heq⟩ := hends frame hframe
      exact ⟨front, hfront, heq, hlimit frame hframe⟩
    obtain ⟨link, pending, pacing⟩ := p
    rw [← List.append_nil frames.flatten] at hbytes
    obtain ⟨q, left, hreads, -, hend⟩ :=
      Port.reads_blocks pacing hblocks hwaits harrive htime hbytes
    exact ⟨q, hreads, (List.append_eq_nil_iff.1 hend).1⟩

/-- Three commands in four chunks, of which one is empty, with the first byte read ahead. The longest
command is as long as a block may be. -/
theorem frames_delimited_across_chunks :
    let commands : List (String × List Field) :=
      [("FO", [.num 1 1, .num 145 4]), ("BC", []), ("ME", [.text ['a', 'é']])]
    let frames : List (List UInt8) := [[0x46, 0x4F, 0x20, 0x31, 0x20, 0x30, 0x31, 0x34, 0x35, 0x0D],
      [0x42, 0x43, 0x0D], [0x4D, 0x45, 0x20, 0x61, 0xC3, 0xA9, 0x0D]]
    let pieces : List (Nat × List UInt8) := [(5, [0x4F, 0x20, 0x31, 0x20]), (0, []),
      (7, [0x30, 0x31, 0x34, 0x35, 0x0D, 0x42, 0x43, 0x0D, 0x4D, 0x45, 0x20, 0x61, 0xC3]), (2, [0xA9, 0x0D])]
    let link : TimedLink := { queue := pieces.map (fun c => ⟨c.1, .ok c.2⟩) ++ [] }
    let p : Port TimedLink := { link := link, pending := [0x46] }
    crSpaced.Marked ∧ (∀ c ∈ commands, crSpaced.terminator ∉ utf8 c.1.toList) ∧
      commands.mapM (fun c => crSpaced.build c.1 c.2) = .ok frames ∧
      ∃ q, Port.reads [(.upTo 0x0D 10, 20), (.upTo 0x0D 10, 15), (.upTo 0x0D 10, 15)] p =
        (frames.map .ok, q) ∧ q.pending = [] := by
  intro commands frames pieces link p
  have hmarked : crSpaced.Marked := ⟨by decide, by decide⟩
  have hmnemonics : ∀ c ∈ commands, crSpaced.terminator ∉ utf8 c.1.toList := by decide +kernel
  have hbuilt : commands.mapM (fun c => crSpaced.build c.1 c.2) = .ok frames := by decide +kernel
  have harrive : Link.Arrives 15 link (pieces.map (·.2)) _ :=
    TimedLink.arrives pieces [] rfl (by decide) (by decide)
  refine ⟨hmarked, hmnemonics, hbuilt, ?_⟩
  exact (frames_delimited hmarked hmnemonics hbuilt).2 p 10 15 _ _ [20, 15, 15] (by decide) harrive rfl rfl
    (by decide)

end AsciiFrame

end RigControl

/-
Settings that a newer Yaesu rig keeps. A simulated rig keeps digits under some mnemonics (`Keeper`): a
command sets them and is not answered, and a query is answered with them. So setting a number and asking for
it succeed (`Keeper.sets`, `Keeper.gets`).
-/
import RigControl.Newcat.Operations
import RigControl.Proofs.Exchanges
import RigControl.Proofs.NumberCommands

namespace RigControl.Newcat

open AsciiFrame (semicolon semicolon_ascii)

variable {mnemonic operation : String} {body : List Char} {r : Request} {n width : Nat}

theorem digits_clear (h : Text.Digits body) : semicolon.terminator ∉ Text.utf8 body :=
  fun hmem => absurd (h.mem_utf8 hmem).2 (by decide)

/-- The text of a command holds its terminator at the end only. -/
theorem clear_append (hmnemonic : semicolon.terminator ∉ Text.utf8 mnemonic.toList)
    (hbody : semicolon.terminator ∉ Text.utf8 body) :
    semicolon.terminator ∉ Text.utf8 mnemonic.toList ++ Text.utf8 body := by
  rw [List.mem_append, not_or]
  exact ⟨hmnemonic, hbody⟩

/-- A rig that keeps digits under some mnemonics. -/
structure Keeper (S : Type) where
  device : Device S
  isWhole : ∀ bytes, device.isWhole bytes = (bytes.getLast? == some semicolon.terminator)
  keeps : String → Prop
  clear : ∀ mnemonic, keeps mnemonic → semicolon.terminator ∉ Text.utf8 mnemonic.toList
  /-- What the rig keeps under a mnemonic. -/
  text : S → String → List Char
  write_text : ∀ s mnemonic body, keeps mnemonic → Text.Digits body →
    text (device.next s (Text.utf8 (semicolon.commandText mnemonic body))) mnemonic = body
  query_answer : ∀ s mnemonic, keeps mnemonic → ∃ further,
    device.answer s (semicolon.query mnemonic) =
      Text.utf8 (semicolon.commandText mnemonic (text s mnemonic)) ++ further

namespace Keeper

variable {S : Type} (K : Keeper S) {s : S} {k : Tracking} {timeout : Nat}

theorem framed (hkeeps : K.keeps mnemonic) (hbody : semicolon.terminator ∉ Text.utf8 body) :
    K.device.Framed (Text.utf8 (semicolon.commandText mnemonic body)) :=
  Device.framed_of_terminated K.isWhole (AsciiFrame.utf8_commandText semicolon_ascii)
    (clear_append (K.clear mnemonic hkeeps) hbody)

/-- **A number that is set is kept.** -/
theorem sets (hkeeps : K.keeps mnemonic) (h : command operation mnemonic [.num n width] = .ok r) :
    ∃ s', (Dialogue.tell r).Takes K.device timeout (k, s) (.ok ()) (k, s') ∧
      K.text s' mnemonic = Text.zeroPadded width n := by
  obtain ⟨-, rfl⟩ := command_num_eq_ok.1 h
  have hdigits : Text.Digits (Text.zeroPadded width n) := Text.zeroPadded_digits
  exact ⟨_, .tell (.written (K.framed hkeeps (digits_clear hdigits)) rfl),
    K.write_text s mnemonic _ hkeeps hdigits⟩

/-- **A query is answered with what is kept.** -/
theorem gets (htimeout : 0 < timeout) (hkeeps : K.keeps mnemonic)
    (hdigits : Text.Digits (K.text s mnemonic))
    (hlength : (Text.utf8 mnemonic.toList).length + (K.text s mnemonic).length < maxReply) :
    ∃ s', (ask mnemonic (query operation mnemonic)).Takes K.device timeout (k, s)
      (.ok (K.text s mnemonic)) (k, s') := by
  have hquery : semicolon.query mnemonic = Text.utf8 (semicolon.commandText mnemonic []) :=
    AsciiFrame.query_eq semicolon_ascii
  have hframed : K.device.Framed (semicolon.query mnemonic) := by
    rw [hquery]
    exact K.framed hkeeps nofun
  have hblock : Block semicolon.terminator maxReply
      (Text.utf8 (semicolon.commandText mnemonic (K.text s mnemonic))) := by
    refine ⟨_, clear_append (K.clear mnemonic hkeeps) (digits_clear hdigits),
      AsciiFrame.utf8_commandText semicolon_ascii, ?_⟩
    rw [AsciiFrame.utf8_commandText semicolon_ascii, List.length_append, List.length_append,
      List.length_singleton, Text.length_utf8_of_ascii fun c hc => Text.ascii_of_isDigit (hdigits.digit c hc)]
    omega
  obtain ⟨further, hanswer⟩ := K.query_answer s mnemonic hkeeps
  refine ⟨K.device.next s (semicolon.query mnemonic),
    .bind (.ask (.replied hframed htimeout rfl rfl hblock hanswer)) ?_⟩
  rw [← value_digits hdigits]
  exact .lift

/-- A rig with one number, which answers nothing else. -/
def cell (mnemonic : String) (hclear : semicolon.terminator ∉ Text.utf8 mnemonic.toList) :
    Keeper (List Char) where
  device := {
    isWhole := fun bytes => bytes.getLast? == some semicolon.terminator
    next := fun s frame =>
      match semicolon.parse mnemonic frame with
      | .ok (c :: body) => c :: body
      | _ => s
    answer := fun s frame =>
      if frame = semicolon.query mnemonic then Text.utf8 (semicolon.commandText mnemonic s) else [] }
  isWhole _ := rfl
  keeps := (· = mnemonic)
  clear := by
    rintro _ rfl
    exact hclear
  text s _ := s
  write_text := by
    rintro s _ body rfl hbody
    obtain ⟨c, rest, rfl⟩ := List.exists_cons_of_ne_nil hbody.ne_nil
    dsimp only
    rw [AsciiFrame.parse_self]
    rfl
  query_answer := by
    rintro s _ rfl
    exact ⟨[], by simp⟩

end Keeper

end RigControl.Newcat

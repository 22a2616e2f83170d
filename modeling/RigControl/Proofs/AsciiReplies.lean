/-
Which replies in text are accepted, and what they say. A reply is accepted if its bytes are text, end with
the terminator and have the mnemonic in front (`Addressed`), and any other bytes are an error of the
protocol. A command that was built is such a reply: it gives its fields again, run together if there is no
separator, and one by one if there is one that none of them holds (`commands_read_back`).

The conditions are about bytes, while parsing goes by characters. For an ASCII terminator both come to the
same, since no other character has such a byte at its end (`getLast?_utf8`).
-/
import RigControl.Proofs.AsciiFrames

namespace RigControl.AsciiFrame

open Text

variable {f : AsciiFrame} {mnemonic : String} {reply : List UInt8} {xs : List Field}

/-- The bytes are text, end with the terminator and have the mnemonic in front. -/
structure Addressed (f : AsciiFrame) (mnemonic : String) (reply : List UInt8) : Prop where
  text : ∃ s, reply = utf8 s
  ended : reply.getLast? = some f.terminator
  named : utf8 mnemonic.toList <+: reply.dropLast

theorem ascii_of_lt (ht : f.terminator < 0x80) (hs : ∀ sep ∈ f.separator, sep < 0x80) : f.Ascii :=
  ⟨utf8_ascii ht, fun sep hsep => utf8_ascii (hs sep hsep)⟩

/-- Such bytes are the text of a command. -/
theorem addressed_iff (ht : f.terminator < 0x80) :
    f.Addressed mnemonic reply ↔ ∃ body, reply = utf8 (f.commandText mnemonic body) := by
  have hend : ∀ s, utf8 (s ++ [charOf f.terminator]) = utf8 s ++ [f.terminator] := by
    intro s
    rw [utf8_append]
    exact congrArg (utf8 s ++ ·) (utf8_ascii ht)
  constructor
  · rintro ⟨⟨s, rfl⟩, hended, hnamed⟩
    have hlast : s.getLast? = some (charOf f.terminator) := (getLast?_utf8 ht).1 hended
    obtain ⟨front, rfl⟩ := List.getLast?_eq_some_iff.1 hlast
    rw [hend, List.dropLast_concat] at hnamed
    obtain ⟨body, rfl⟩ := prefix_of_utf8 hnamed
    exact ⟨body, rfl⟩
  · rintro ⟨body, rfl⟩
    refine ⟨⟨_, rfl⟩, ?_, ?_⟩
    · rw [commandText, hend, List.getLast?_concat]
    · rw [commandText, hend, List.dropLast_concat, utf8_append]
      exact List.prefix_append _ _

theorem parse_error {e : Error} (h : f.parse mnemonic reply = .error e) :
    ∃ detail, e = .protocol detail := by
  unfold parse at h
  repeat' split at h
  all_goals cases h
  all_goals exact ⟨_, rfl⟩

theorem spread_of_none (hsep : f.separator = none) (texts : List (List Char)) :
    f.spread texts = texts.flatten := by
  rw [spread, hsep, List.flatMap_def]
  exact congrArg List.flatten (List.map_id texts)

/-- **Commands in text read back**, if their terminator and their separator are ASCII. A command can be
built if its fields fit. Without a separator its fields are parsed as one text, and with one that none
of them holds they are parsed one by one. Parsing accepts what is addressed and nothing else. -/
theorem commands_read_back (ht : f.terminator < 0x80) (hs : ∀ sep ∈ f.separator, sep < 0x80)
    (mnemonic : String) :
    (∀ xs, (∃ frame, f.build mnemonic xs = .ok frame) ↔ ∀ x ∈ xs, f.Fits x) ∧
    (∀ xs frame, xs ≠ [] → f.build mnemonic xs = .ok frame →
      (f.separator = none → f.parse mnemonic frame = .ok (xs.map Field.shown).flatten) ∧
      (∀ sep, f.separator = some sep → (∀ x ∈ xs, charOf sep ∉ x.shown) →
        f.fields mnemonic frame = .ok (xs.map Field.shown))) ∧
    (∀ reply, f.Addressed mnemonic reply → ∃ body,
      reply = utf8 (f.commandText mnemonic body) ∧ f.parse mnemonic reply = .ok (f.strip body)) ∧
    ∀ reply, ¬ f.Addressed mnemonic reply →
      ∃ detail, f.parse mnemonic reply = .error (.protocol detail) := by
  have hf := ascii_of_lt ht hs
  refine ⟨fun xs => ?_, fun xs frame hne h => ?_, fun reply h => ?_, fun reply h => ?_⟩
  · constructor
    · rintro ⟨frame, h⟩
      exact ((build_eq_ok hf).1 h).1
    · intro hfits
      exact ⟨_, (build_eq_ok hf).2 ⟨hfits, rfl⟩⟩
  · obtain ⟨-, rfl⟩ := (build_eq_ok hf).1 h
    refine ⟨fun hsep => ?_, fun sep hsep hclear => ?_⟩
    · rw [parse_self, spread_of_none hsep]
      simp only [strip, hsep]
    · obtain ⟨x, rest, rfl⟩ := List.exists_cons_of_ne_nil hne
      refine fields_self hsep fun s hmem => ?_
      obtain ⟨y, hy, rfl⟩ := List.mem_map.1 (List.map_cons ▸ hmem)
      exact hclear y hy
  · obtain ⟨body, rfl⟩ := (addressed_iff ht).1 h
    exact ⟨body, rfl, parse_self⟩
  · cases hparse : f.parse mnemonic reply with
    | ok s =>
      obtain ⟨body, hreply, -⟩ := parse_ok.1 hparse
      exact absurd ((addressed_iff ht).2 ⟨body, hreply⟩) h
    | error e =>
      obtain ⟨detail, rfl⟩ := parse_error hparse
      exact ⟨detail, rfl⟩

/-- An empty field between two numbers is read back as well. -/
theorem commands_read_back_empty_field :
    (0x0D : UInt8) < 0x80 ∧ (∀ sep ∈ some (0x20 : UInt8), sep < 0x80) ∧
      crSpaced.build "FO" [.num 1 1, .text [], .num 435000000 10] =
        .ok (utf8 "FO 1  0435000000\r".toList) ∧
      crSpaced.fields "FO" (utf8 "FO 1  0435000000\r".toList) =
        .ok [['1'], [], "0435000000".toList] := by
  have ht : (0x0D : UInt8) < 0x80 := by decide
  have hs : ∀ sep ∈ some (0x20 : UInt8), sep < 0x80 := by
    intro sep hsep
    cases hsep
    decide
  have hbuild : crSpaced.build "FO" [.num 1 1, .text [], .num 435000000 10] =
      .ok (utf8 "FO 1  0435000000\r".toList) := by decide +kernel
  have hread := (commands_read_back (f := crSpaced) ht hs "FO").2.1 _ _ (by decide) hbuild
  exact ⟨ht, hs, hbuild, hread.2 0x20 rfl (by decide)⟩

end RigControl.AsciiFrame

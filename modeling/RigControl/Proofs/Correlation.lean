/-
Replies and the questions that they answer. Anything can arrive on a link, and a reply carries no number:
it is told from other traffic by what it says. Whenever an operation succeeds, each reply that it has used
is one to its own question.
-/
import RigControl.Models.Icom
import RigControl.Proofs.AsciiFrames
import RigControl.Proofs.Correlation.Civ
import RigControl.Proofs.Traffic

namespace RigControl

open Outcome

variable {α : Type} {d : Descriptor} {config : Config} {k : Tracking} {v : Vfo} {r : Request}

/-! ## Newer Yaesu rigs -/

namespace Newcat

/-- The exchange of a query: the bare mnemonic, and a reply with the mnemonic, the value and a
semicolon. -/
def Reported (mnemonic : String) (value : List Char) (h : List Event) : Prop :=
  ∃ k q, q.frame = Text.utf8 (mnemonic.toList ++ [';']) ∧
    h = [.exchange k q (.ok (Text.utf8 (mnemonic.toList ++ value ++ [';'])))]

/-- The exchange of a query that has some value. -/
def Asked (mnemonic : String) (h : List Event) : Prop :=
  ∃ value, Reported mnemonic value h

/-- What is asked about a level. -/
def levelMnemonic : Level → Option String
  | .attenuator => some "RA0"
  | .preamp => some "PA0"
  | .rawStrength | .strength => some "SM0"
  | _ => none

/-- How the query of an operation is answered when it succeeds. -/
def Correlated (k : Tracking) {α : Type} : Operation α → List Event → Prop
  | .getFrequency v, h => ∃ mnemonic, frequencyMnemonic (k.resolve v) = .ok mnemonic ∧ Asked mnemonic h
  | .getMode v, h => ∃ mnemonic, modeMnemonic (k.resolve v) = .ok mnemonic ∧ Asked mnemonic h
  | .getVfo, h => Asked "VS" h
  | .getPtt _, h => Asked "TX" h
  | .getSplit _, h => Asked "FT" h
  | .getLevel _ l, h => ∃ mnemonic, levelMnemonic l = some mnemonic ∧ Asked mnemonic h
  | _, _ => True

/-- Only a reply to the mnemonic has a value. -/
theorem value_ok {mnemonic : String} {reply : List UInt8} {s : List Char}
    (h : value mnemonic reply = .ok s) : reply = Text.utf8 (mnemonic.toList ++ s ++ [';']) := by
  unfold value at h
  split at h
  · cases h
  · obtain ⟨body, hreply, hbody⟩ := AsciiFrame.parse_ok.1 h
    have hs : body = s := hbody
    rw [hreply, hs]
    rfl

theorem ask_reported {mnemonic : String} (hr : r.frame = AsciiFrame.semicolon.query mnemonic) :
    (ask mnemonic r).Settles (fun _ => True) k fun h value _ => Reported mnemonic value h := by
  refine .ask_bind trivial fun reply => .lift trivial fun value hvalue => ⟨k, r, ?_, ?_⟩
  · rw [hr, AsciiFrame.query_eq AsciiFrame.semicolon_ascii]
    simp [AsciiFrame.commandText]
    rfl
  · rw [value_ok hvalue]

theorem ask_correlated {mnemonic : String} (hr : r.frame = AsciiFrame.semicolon.query mnemonic) :
    (ask mnemonic r).Settles (fun _ => True) k fun h _ _ => Asked mnemonic h :=
  (ask_reported hr).imp fun _ value _ hreported => ⟨value, hreported⟩

/-- What is made of the value is no further traffic. -/
theorem read_correlated {mnemonic : String} {decode : List Char → Outcome α}
    (hr : r.frame = AsciiFrame.semicolon.query mnemonic) :
    (do decode (← ask mnemonic r) : Dialogue α).Settles (fun _ => True) k fun h _ _ =>
      Asked mnemonic h :=
  .bind_silent (ask_correlated hr) fun _ _ => .lift trivial fun _ _ => rfl

theorem getFrequency_correlated : (getFrequency d v).Settles (fun _ => True) k fun h _ _ =>
    ∃ mnemonic, frequencyMnemonic (k.resolve v) = .ok mnemonic ∧ Asked mnemonic h := by
  refine .lift_bind trivial fun _ _ => .known_bind (.lift_bind trivial fun mnemonic hm => ?_)
  refine .lift_bind trivial fun r hr => ?_
  have hframe : r.frame = AsciiFrame.semicolon.query mnemonic := by
    rw [readFrequency, hm] at hr
    cases hr
    rfl
  exact (read_correlated hframe).imp fun _ _ _ hasked => ⟨mnemonic, hm, hasked⟩

theorem getMode_correlated : (getMode d v).Settles (fun _ => True) k fun h _ _ =>
    ∃ mnemonic, modeMnemonic (k.resolve v) = .ok mnemonic ∧ Asked mnemonic h := by
  refine .lift_bind trivial fun _ _ => .known_bind (.lift_bind trivial fun mnemonic hm => ?_)
  refine .lift_bind trivial fun r hr => ?_
  have hframe : r.frame = AsciiFrame.semicolon.query mnemonic := by
    rw [readMode, hm] at hr
    cases hr
    rfl
  refine .bind_silent ?_ fun _ _ => .lift_bind trivial fun m _ => .pure rfl
  exact (ask_correlated hframe).imp fun _ _ _ hasked => ⟨mnemonic, hm, hasked⟩

theorem getVfo_correlated : (getVfo d).Settles (fun _ => True) k fun h _ _ => Asked "VS" h := by
  refine .bind_silent (ask_correlated rfl) fun _ _ => .lift_bind trivial fun v _ => ?_
  exact .bind_silent (.selected_silent trivial) fun _ _ => .pure rfl

/-- A level is asked for once, whatever is made of the value. -/
theorem askLevel_correlated {mnemonic : String} {l : Level} {f : List Char → Dialogue α}
    (hr : r.frame = AsciiFrame.semicolon.query mnemonic) (hl : levelMnemonic l = some mnemonic)
    (hf : ∀ value k', (f value).Settles (fun _ => True) k' fun h _ _ => h = []) :
    (ask mnemonic r >>= f).Settles (fun _ => True) k fun h _ _ =>
      ∃ mnemonic, levelMnemonic l = some mnemonic ∧ Asked mnemonic h :=
  .bind_silent ((ask_correlated hr).imp fun _ _ _ hasked => ⟨mnemonic, hl, hasked⟩) hf

theorem getLevel_correlated {l : Level} : (getLevel d l).Settles (fun _ => True) k fun h _ _ =>
    ∃ mnemonic, levelMnemonic l = some mnemonic ∧ Asked mnemonic h := by
  refine .lift_bind trivial fun _ _ => ?_
  split
  · refine askLevel_correlated rfl rfl fun _ _ => .lift_bind trivial fun _ _ => ?_
    exact .lift_bind trivial fun _ _ => .pure rfl
  · refine askLevel_correlated rfl rfl fun _ _ => .lift_bind trivial fun _ _ => ?_
    exact .lift_bind trivial fun _ _ => .pure rfl
  · exact askLevel_correlated rfl rfl fun _ _ => .lift_bind trivial fun _ _ => .pure rfl
  · refine askLevel_correlated rfl rfl fun _ _ => .lift_bind trivial fun _ _ => ?_
    split
    · exact .lift_bind trivial fun _ _ => .pure rfl
    · exact .fail trivial
  · exact .fail trivial

theorem respond_correlated (op : Operation α) :
    (respond d config op).Settles (fun _ => True) k fun h _ _ => Correlated k op h := by
  cases op with
  | getFrequency v => exact getFrequency_correlated
  | getMode v => exact getMode_correlated
  | getVfo => exact getVfo_correlated
  | getPtt v => exact read_correlated rfl
  | getSplit v => exact read_correlated rfl
  | getLevel v l => exact getLevel_correlated
  | _ => exact .any

end Newcat

/-! ## The TM-D710 -/

namespace Tmd710

/-- A reply to a mnemonic that has these fields. -/
def Replied (mnemonic : String) (texts : List (List Char)) (reply : List UInt8) : Prop :=
  ∃ body, reply = Text.utf8 (mnemonic.toList ++ body ++ ['\r']) ∧
    Text.pieces ' ' (AsciiFrame.crSpaced.strip body) = texts

/-- How the question of an operation is answered when it succeeds. -/
def Correlated (k : Tracking) {α : Type} : Operation α → List Event → α → Prop
  | .getFrequency v, h, _ => ∃ q reply number others, readFrequency (k.resolve v) = .ok q ∧
      h = [.exchange k q (.ok reply)] ∧ Replied "FO" (number :: others) reply ∧
      bandField number = .ok (k.resolve v)
  | .getVfo, h, v => ∃ reply control ptt, h = [.exchange k readBandControl (.ok reply)] ∧
      Replied "BC" [control, ptt] reply ∧ bandField control = .ok v
  | _, _, _ => True

theorem fields_ok {mnemonic : String} {reply : List UInt8} {texts : List (List Char)}
    (h : fields mnemonic reply = .ok texts) : Replied mnemonic texts reply := by
  unfold fields at h
  split at h
  · cases h
  · split at h
    · cases h
    · obtain ⟨text, htext, h⟩ := bind_eq_ok.1 h
      obtain ⟨body, hreply, rfl⟩ := AsciiFrame.parse_ok.1 htext
      exact ⟨body, hreply, Except.ok.inj h⟩

theorem parseFrequency_ok {reply : List UInt8} {hz : Nat} (h : parseFrequency reply = .ok (v, hz)) :
    ∃ number others, Replied "FO" (number :: others) reply ∧ bandField number = .ok v := by
  obtain ⟨texts, htexts, h⟩ := bind_eq_ok.1 h
  split at h
  · rename_i number hz others
    obtain ⟨band, hband, h⟩ := bind_eq_ok.1 h
    obtain ⟨n, -, h⟩ := bind_eq_ok.1 h
    cases h
    exact ⟨number, hz :: others, fields_ok htexts, hband⟩
  · cases h

theorem parseBandControl_ok {reply : List UInt8} {control ptt : Vfo}
    (h : parseBandControl reply = .ok (control, ptt)) :
    ∃ first second, Replied "BC" [first, second] reply ∧ bandField first = .ok control := by
  obtain ⟨texts, htexts, h⟩ := bind_eq_ok.1 h
  split at h
  · rename_i first second
    obtain ⟨c, hc, h⟩ := bind_eq_ok.1 h
    obtain ⟨p, -, h⟩ := bind_eq_ok.1 h
    cases h
    exact ⟨first, second, fields_ok htexts, hc⟩
  · cases h

theorem getFrequency_correlated : (getFrequency d v).Settles (fun _ => True) k fun h hz _ =>
    Correlated k (.getFrequency v) h hz := by
  refine .lift_bind trivial fun _ _ => .known_bind (.lift_bind trivial fun q hq => ?_)
  refine .ask_bind trivial fun reply => .lift_bind trivial fun (reported, hz) hparsed => ?_
  refine .lift_bind trivial fun _ hband => .pure ?_
  obtain ⟨number, others, hfields, hnumber⟩ := parseFrequency_ok hparsed
  have hasked : k.resolve v = reported := checkBand_ok.1 hband
  exact ⟨q, reply, number, others, hq, rfl, hfields, hasked ▸ hnumber⟩

theorem getVfo_correlated : (getVfo d).Settles (fun _ => True) k fun h v _ =>
    Correlated k .getVfo h v := by
  refine .ask_bind trivial fun reply => .lift_bind trivial fun (control, ptt) hparsed => ?_
  refine .bind (.selected_silent trivial) fun h' _ k'' hsilent => .pure ?_
  obtain ⟨first, second, hfields, hfirst⟩ := parseBandControl_ok hparsed
  exact ⟨reply, first, second, by simp [hsilent], hfields, hfirst⟩

theorem respond_correlated (op : Operation α) :
    (respond d config op).Settles (fun _ => True) k fun h a _ => Correlated k op h a := by
  cases op with
  | getFrequency v => exact getFrequency_correlated
  | getVfo => exact getVfo_correlated
  | _ => exact .any

end Tmd710

/-! ## All families -/

/-- How the requests of an operation are answered when it succeeds. The FT-840 sends bare status blocks,
which say nothing of the question, and the EKD-500 sends nothing that counts. -/
def Backend.Correlated (b : Backend) (k : Tracking) (op : Operation α) (h : List Event) (a : α) :
    Prop :=
  match b with
  | newcat => Newcat.Correlated k op h
  | civ bus => Civ.Correlated bus k op h
  | tmd710 => Tmd710.Correlated k op h a
  | ft840 | ekd500 => True

theorem Backend.respond_correlated {b : Backend} (op : Operation α) :
    (b.respond d config op).Settles (fun _ => True) k fun h a _ => b.Correlated k op h a := by
  cases b with
  | newcat => exact Newcat.respond_correlated op
  | civ bus => exact Civ.respond_correlated op
  | tmd710 => exact Tmd710.respond_correlated op
  | ft840 | ekd500 => exact .any

namespace Rig

variable {σ : Type} [Link σ] {s t : Rig σ}

/-- **Replies answer their questions**: whatever arrives on the link, an operation succeeds only if each
reply that it has used was one to what it had asked, and a CI-V rig has accepted all that it wrote. -/
theorem replies_answer {op : Operation α} {a : α} (hrun : (perform op).run s = (.ok a, t)) :
    s.backend.Correlated s.session.known op (s.history op) a :=
  (perform_settles (Backend.respond_correlated op) hrun).2 a rfl

/-- An IC-7800 is brought to its sub receiver, which it accepts, and asked for the frequency there. -/
theorem replies_answer_ic7800 :
    let bus : Civ.Bus := { rig := 0x6A }
    let back : Civ.Bus := { rig := 0xE0, controller := 0x6A }
    let select : Request := bus.request "set_vfo" 0x07 [0xD1]
    let link : ScriptedLink := { script := [⟨select.frame, back.frame Civ.accepted []⟩,
      ⟨bus.readFrequency.frame, back.frame 0x03 [0x00, 0x50, 0x25, 0x14, 0x00]⟩] }
    let r : Rig ScriptedLink := ⟨.civ bus, .start Models.ic7800 {} link⟩
    let after := (perform (.getFrequency .sub)).run r
    after.1 = .ok 14255000 ∧
      bus.AskedOf r.session.known .sub [.frequency] (r.history (.getFrequency .sub)) := by
  intro bus back select link r after
  have hok : after.1 = .ok 14255000 := by decide +kernel
  have hrun : (perform (.getFrequency .sub)).run r = (.ok 14255000, after.2) := by
    rw [← hok]
  exact ⟨hok, replies_answer hrun⟩

end Rig

end RigControl

/-
Settings that a CI-V rig keeps. A command that is accepted and a question that is answered take the
conversation on, behind any number of echoes (`Bus.Sound.command_takes`, `Bus.Sound.ask_takes`).

A simulated rig keeps what it is set to on some topics (`Keeper`): a write changes what is kept on its own
topic and on no other and is accepted, and a read changes nothing and is answered with what is kept. So
writing to such a rig and reading from it succeed (`Keeper.sets`, `Keeper.gets`).
-/
import RigControl.Proofs.Exchanges
import RigControl.Proofs.Mirror.Civ

namespace RigControl

namespace Civ

variable {b : Bus} {command : UInt8} {payload bytes : List UInt8} {t u : Topic}

/-! ## Answers -/

/-- The frame in which the rig answers to a read. -/
def Bus.answer (b : Bus) (t : Topic) (data : List UInt8) : List UInt8 :=
  (Bus.mk b.controller b.rig).frame t.command (t.sub ++ data)

theorem Bus.Sound.answer_block (hb : b.Sound) (ht : Clear (t.command :: t.sub)) (hdata : Clear bytes)
    (hlength : t.sub.length + bytes.length ≤ 58) :
    Block terminator Bus.maxFrame (b.answer t bytes) := by
  refine ⟨[preamble, preamble, b.controller, b.rig] ++ ((t.command :: t.sub) ++ bytes), ?_, ?_, ?_⟩
  · have hpreamble : terminator ≠ preamble := by decide
    have hclear : terminator ∉ (t.command :: t.sub) ++ bytes :=
      fun h => absurd (ht.append hdata _ h) (by decide)
    rw [List.mem_append, not_or]
    refine ⟨?_, hclear⟩
    simp only [List.mem_cons, List.not_mem_nil, or_false, not_or]
    exact ⟨hpreamble, hpreamble, hb.controller_clear.1.symm, hb.rig_clear.1.symm⟩
  · simp [Bus.answer, Bus.frame, Frame.encode]
  · rw [Bus.answer, Bus.length_frame, List.length_append]
    show _ ≤ 64
    omega

/-- The session takes the data from the answer to its question. -/
theorem Bus.Sound.expectData_answer (hb : b.Sound) (ht : Clear (t.command :: t.sub))
    (hdata : Clear bytes) : b.expectData (b.answer t bytes) t.command t.sub = .ok bytes := by
  let f : Frame := ⟨b.controller, b.rig, t.command, t.sub ++ bytes⟩
  have hcollision : collision ∉ f.body := by
    have hclear : collision ∉ (t.command :: t.sub) ++ bytes :=
      fun h => absurd (ht.append hdata _ h) (by decide)
    show collision ∉ b.controller :: b.rig :: ((t.command :: t.sub) ++ bytes)
    rw [List.mem_cons, List.mem_cons, not_or, not_or]
    exact ⟨hb.controller_clear.2.1.symm, hb.rig_clear.2.symm, hclear⟩
  have hdecode : Frame.decode (b.answer t bytes) = .ok f :=
    Frame.decode_of_heard (show Frame.Heard f ([] ++ f.encode) from
      Frame.heard_encode (by decide) hb.controller_clear.2.2 hcollision)
  have hbus : b.decode (b.answer t bytes) = .ok f := busDecode_ok.2 ⟨hdecode, rfl, rfl⟩
  have hrefused : f.isRefused = false := by
    have hcommand : t.command ≠ refused := by
      intro h
      exact absurd (ht _ List.mem_cons_self) (by rw [h]; decide)
    simp [Frame.isRefused, f, hcommand]
  unfold Bus.expectData
  rw [hbus]
  simp [Outcome.pure_eq_ok, hrefused, f, bind, Except.bind]

/-- The bytes answer a frame behind echoes of it. -/
def Behind (frame answer bytes : List UInt8) : Prop :=
  ∃ echoes further, bytes = (List.replicate echoes frame).flatten ++ (answer ++ further)

section

variable {S : Type} {D : Device S} {timeout : Nat} {k : Tracking} {s : S} {operation : String}

variable (hb : b.Sound) (hwhole : ∀ bytes, D.isWhole bytes = (bytes.getLast? == some terminator))
  (htimeout : 0 < timeout)
include hb hwhole htimeout

/-- A command that the rig accepts succeeds. -/
theorem Bus.Sound.command_takes (hcommand : command < 0xFA) (hpayload : Clear payload)
    (hlength : payload.length ≤ 58)
    (hanswer : Behind (b.frame command payload) b.ack (D.answer s (b.frame command payload))) :
    (b.command (b.request operation command payload)).Takes D timeout (k, s) (.ok ())
      (k, D.next s (b.frame command payload)) := by
  have hdiffers : b.ack ≠ b.frame command payload := by
    intro h
    have hcode : some accepted = some command := congrArg (fun frame => frame[4]?) h
    rw [← Option.some.inj hcode] at hcommand
    exact absurd hcommand (by decide)
  obtain ⟨echoes, further, hanswer⟩ := hanswer
  have hends : D.Ends timeout (b.request operation command payload) s (.ok b.ack)
      (D.next s (b.frame command payload)) :=
    .answered (hb.framed_of hwhole hcommand hpayload) htimeout rfl rfl
      (hb.block hcommand hpayload hlength) hb.ack_block hdiffers hanswer
  refine .bind (.ask hends) ?_
  rw [← hb.expectAccepted_ack]
  exact .lift

/-- A question that the rig answers gives the data of the answer. -/
theorem Bus.Sound.ask_takes (ht : Clear (t.command :: t.sub)) (hne : bytes ≠ []) (hdata : Clear bytes)
    (hlength : t.sub.length + bytes.length ≤ 58)
    (hanswer : Behind (b.frame t.command t.sub) (b.answer t bytes)
      (D.answer s (b.frame t.command t.sub))) :
    (b.ask operation t).Takes D timeout (k, s) (.ok bytes) (k, D.next s (b.frame t.command t.sub)) := by
  have hcommand : t.command < 0xFA := ht _ List.mem_cons_self
  have hsub : Clear t.sub := fun a ha => ht a (List.mem_cons_of_mem _ ha)
  have hdiffers : b.answer t bytes ≠ b.frame t.command t.sub := by
    intro h
    have hlengths := congrArg List.length h
    have hpos := List.length_pos_iff.2 hne
    rw [Bus.answer, Bus.length_frame, Bus.length_frame, List.length_append] at hlengths
    omega
  obtain ⟨echoes, further, hanswer⟩ := hanswer
  have hends : D.Ends timeout (b.read operation t) s (.ok (b.answer t bytes))
      (D.next s (b.frame t.command t.sub)) :=
    .answered (hb.framed_of hwhole hcommand hsub) htimeout rfl rfl
      (hb.block hcommand hsub (Nat.le_trans (Nat.le_add_right _ _) hlength))
      (hb.answer_block ht hdata hlength) hdiffers hanswer
  refine .bind (.ask hends) ?_
  rw [← hb.expectData_answer ht hdata]
  exact .lift

end

/-! ## Rigs that keep their settings -/

/-- A rig that keeps what it is set to on some topics. -/
structure Keeper (b : Bus) (S : Type) where
  device : Device S
  isWhole : ∀ bytes, device.isWhole bytes = (bytes.getLast? == some terminator)
  keeps : Topic → Prop
  clear : ∀ t, keeps t → Clear (t.command :: t.sub)
  /-- What the rig keeps on a topic. -/
  data : S → Topic → List UInt8
  write_data : ∀ s t bytes, keeps t → bytes ≠ [] → Clear bytes →
    data (device.next s (b.frame t.command (t.sub ++ bytes))) t = bytes
  write_other : ∀ s t bytes u, keeps t → bytes ≠ [] → Clear bytes → keeps u → u ≠ t →
    data (device.next s (b.frame t.command (t.sub ++ bytes))) u = data s u
  write_answer : ∀ s t bytes, keeps t → bytes ≠ [] → Clear bytes →
    let frame := b.frame t.command (t.sub ++ bytes)
    Behind frame b.ack (device.answer s frame)
  read_data : ∀ s t u, keeps t → keeps u → data (device.next s (b.frame t.command t.sub)) u = data s u
  read_answer : ∀ s t, keeps t →
    let frame := b.frame t.command t.sub
    Behind frame (b.answer t (data s t)) (device.answer s frame)

namespace Keeper

variable {S : Type} {s : S} {k : Tracking} {timeout : Nat} {operation : String}

section

variable (K : Keeper b S) (hb : b.Sound) (htimeout : 0 < timeout) (ht : K.keeps t)
include hb htimeout ht

/-- **A write is accepted and kept**, and what is kept on other topics stays. -/
theorem sets (hne : bytes ≠ []) (hclear : Clear bytes) (hlength : t.sub.length + bytes.length ≤ 58) :
    ∃ s', (b.command (b.write operation t bytes)).Takes K.device timeout (k, s) (.ok ()) (k, s') ∧
      K.data s' t = bytes ∧ ∀ u, K.keeps u → u ≠ t → K.data s' u = K.data s u := by
  have hcommand : t.command < 0xFA := K.clear t ht _ List.mem_cons_self
  have hsub : Clear t.sub := fun a ha => K.clear t ht a (List.mem_cons_of_mem _ ha)
  refine ⟨_, hb.command_takes K.isWhole htimeout hcommand (hsub.append hclear) ?_
    (K.write_answer s t bytes ht hne hclear), K.write_data s t bytes ht hne hclear, fun u hu hother => ?_⟩
  · rwa [List.length_append]
  · exact K.write_other s t bytes u ht hne hclear hu hother

/-- **A read is answered with what is kept**, and everything stays. -/
theorem gets (hne : K.data s t ≠ []) (hclear : Clear (K.data s t))
    (hlength : t.sub.length + (K.data s t).length ≤ 58) :
    ∃ s', (b.ask operation t).Takes K.device timeout (k, s) (.ok (K.data s t)) (k, s') ∧
      ∀ u, K.keeps u → K.data s' u = K.data s u :=
  ⟨_, hb.ask_takes K.isWhole htimeout (K.clear t ht) hne hclear hlength (K.read_answer s t ht),
    fun u hu => K.read_data s t u ht hu⟩

end

/-! ## A rig with a shelf -/

/-- The topics that the rig keeps. -/
def shelved : List Topic := [.preamp, .clockDate, .clockTime, .clockOffset]

/-- The topic that a frame is about, with the data behind it. -/
def about? (frame : List UInt8) : Option (Topic × List UInt8) :=
  let body := (frame.drop 4).dropLast
  (shelved.find? fun t => (t.command :: t.sub).isPrefixOf body).map fun t =>
    (t, body.drop (t.sub.length + 1))

theorem about?_frame (ht : t ∈ shelved) :
    about? (b.frame t.command (t.sub ++ bytes)) = some (t, bytes) := by
  have hbody : ((b.frame t.command (t.sub ++ bytes)).drop 4).dropLast =
      t.command :: (t.sub ++ bytes) := by
    show (t.command :: ((t.sub ++ bytes) ++ [terminator])).dropLast = _
    rw [← List.cons_append, List.dropLast_concat]
  rw [about?, hbody]
  simp only [shelved, List.mem_cons, List.not_mem_nil, or_false] at ht
  rcases ht with rfl | rfl | rfl | rfl <;> rfl

/-- One echo and an answer, over a shelf with the data of each topic. -/
def plain (b : Bus) : Keeper b (Topic → List UInt8) where
  device := {
    isWhole := fun bytes => bytes.getLast? == some terminator
    next := fun s frame =>
      match about? frame with
      | some (t, bytes) => if bytes = [] then s else fun u => if u = t then bytes else s u
      | none => s
    answer := fun s frame =>
      match about? frame with
      | some (t, bytes) => frame ++ if bytes = [] then b.answer t (s t) else b.ack
      | none => frame }
  isWhole _ := rfl
  keeps t := t ∈ shelved
  clear := by decide
  data s := s
  write_data s t bytes ht hne _ := by simp [about?_frame ht, hne]
  write_other s t bytes u ht hne _ _ hother := by simp [about?_frame ht, hne, hother]
  write_answer s t bytes ht hne _ := ⟨1, [], by simp [about?_frame ht, hne]⟩
  read_data s t u ht _ := by
    have hread : about? (b.frame t.command (t.sub ++ [])) = some (t, []) := about?_frame ht
    rw [List.append_nil] at hread
    simp [hread]
  read_answer s t ht := by
    have hread : about? (b.frame t.command (t.sub ++ [])) = some (t, []) := about?_frame ht
    rw [List.append_nil] at hread
    exact ⟨1, [], by simp [hread]⟩

/-- The link to the rig, with nothing on the shelf. -/
def plainLink (b : Bus) : Simulated (Topic → List UInt8) where
  device := (plain b).device
  rig _ := []

/-! ## A rig with one item -/

/-- The data in a frame about a topic. -/
def dataOf (t : Topic) (frame : List UInt8) : List UInt8 :=
  (frame.drop (5 + t.sub.length)).dropLast

theorem dataOf_frame : dataOf t (b.frame t.command (t.sub ++ bytes)) = bytes := by
  have hframe : b.frame t.command (t.sub ++ bytes) =
      ([preamble, preamble, b.rig, b.controller, t.command] ++ t.sub) ++ (bytes ++ [terminator]) := by
    rw [Bus.frame, Frame.encode]
    simp
  have hfront : ([preamble, preamble, b.rig, b.controller, t.command] ++ t.sub).length =
      5 + t.sub.length := by
    rw [List.length_append]
    rfl
  rw [dataOf, hframe, ← hfront, List.drop_left, List.dropLast_concat]

theorem dataOf_read : dataOf t (b.frame t.command t.sub) = [] := by
  have hread : dataOf t (b.frame t.command (t.sub ++ [])) = [] := dataOf_frame
  rwa [List.append_nil] at hread

/-- One echo and an answer. The data of every frame is taken for the item. -/
def cell (b : Bus) (t : Topic) (ht : Clear (t.command :: t.sub)) : Keeper b (List UInt8) where
  device := {
    isWhole := fun bytes => bytes.getLast? == some terminator
    next := fun s frame => if dataOf t frame = [] then s else dataOf t frame
    answer := fun s frame => frame ++ if dataOf t frame = [] then b.answer t s else b.ack }
  isWhole _ := rfl
  keeps := (· = t)
  clear := by
    rintro _ rfl
    exact ht
  data s _ := s
  write_data := by
    rintro s _ bytes rfl hne -
    simp [dataOf_frame, hne]
  write_other := by
    rintro s _ bytes _ rfl - - rfl hother
    exact absurd rfl hother
  write_answer := by
    rintro s _ bytes rfl hne -
    exact ⟨1, [], by simp [dataOf_frame, hne]⟩
  read_data := by
    rintro s _ _ rfl rfl
    simp [dataOf_read]
  read_answer := by
    rintro s _ rfl
    exact ⟨1, [], by simp [dataOf_read]⟩

end Keeper

end Civ

end RigControl

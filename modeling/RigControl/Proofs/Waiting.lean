/-
Waiting for a reply comes to an end. The wait skips any number of echoes and is as patient after each of them
as before, so that no clock bounds it. What bounds it is the input. An echo is a copy of the frame, and its
bytes are gone once they are read; if the frame is not empty, there is room for so many copies only.

The wait is described as a loop that may go on for ever (`Port.Awaits`), with the number of blocks that it
reads. It is what `Port.awaitReply` runs, which has no outcome where the loop does not end (`Port.awaits_iff`).
On a link that has a number of bytes left (`Link.Holds`) the loop ends (`Port.wait_ends`).
-/
import RigControl.Proofs.Echoes

namespace RigControl

theorem Reply.extent?_eq_none {y : Reply} : y.extent? = Option.none ↔ y = .none := by
  cases y with
  | none => exact iff_of_true rfl rfl
  | required | optional => exact iff_of_false nofun nofun

/-! ## Links that run dry -/

namespace Link

variable {σ : Type} [Link σ] {l m : σ} {n : Nat} {bytes : List UInt8}

/-- The link has at most `n` bytes left. Each call gives some of them or times out. -/
structure Holds (l : σ) (n : Nat) : Prop where
  most : ∀ {bytes m}, Received l bytes m → bytes.length ≤ n
  call : ∀ {bytes m wait o k}, Received l bytes m → (receive Port.room wait).run m = (o, k) →
    o = .error .timeout ∨ ∃ chunk, o = .ok chunk ∧ chunk ≠ []

theorem Holds.received (h : Holds l n) (hbytes : Received l bytes m) : Holds m (n - bytes.length) where
  most hmore := by
    have hall := h.most (hbytes.append hmore)
    rw [List.length_append] at hall
    omega
  call hmore := h.call (hbytes.append hmore)

end Link

namespace TimedLink

variable {room wait : Nat} {l m : TimedLink} {o : Outcome (List UInt8)} {bytes : List UInt8}

/-- The bytes of all chunks in a queue. -/
def stock (queue : List Chunk) : List UInt8 := queue.flatMap fun c => Port.handed c.content

/-- Every chunk in a queue brings bytes. -/
def Filled (queue : List Chunk) : Prop := ∀ c ∈ queue, ∃ bytes, c.content = .ok bytes ∧ bytes ≠ []

/-- A call takes its bytes off the front of the queue. -/
theorem receive_filled (h : Filled l.queue) (hcall : (receive room wait).run l = (o, m)) :
    Filled m.queue ∧ stock l.queue = Port.handed o ++ stock m.queue ∧
      (o = .error .timeout ∨ ∃ chunk, o = .ok chunk ∧ (0 < room → chunk ≠ [])) := by
  simp only [Action.run, receive, waitFor] at hcall
  split at hcall
  · cases hcall
    rename_i hqueue
    exact ⟨fun c hc => absurd hc List.not_mem_nil, by rw [hqueue]; rfl, .inl rfl⟩
  · rename_i c rest hqueue
    rw [hqueue] at h ⊢
    obtain ⟨bytes, hbytes, hne⟩ := h c List.mem_cons_self
    have hrest : Filled rest := fun d hd => h d (List.mem_cons_of_mem c hd)
    split at hcall
    · cases hcall
      exact ⟨List.forall_mem_cons.2 ⟨⟨bytes, hbytes, hne⟩, hrest⟩, rfl, .inl rfl⟩
    · simp only [hbytes] at hcall
      split at hcall
      · cases hcall
        refine ⟨hrest, ?_, .inr ⟨bytes, rfl, fun _ => hne⟩⟩
        rw [stock, List.flatMap_cons, hbytes]
        rfl
      · rename_i hlong
        cases hcall
        have hleft : bytes.drop room ≠ [] := by
          rw [ne_eq, List.drop_eq_nil_iff]
          exact hlong
        refine ⟨List.forall_mem_cons.2 ⟨⟨bytes.drop room, rfl, hleft⟩, hrest⟩, ?_,
          .inr ⟨bytes.take room, rfl, fun hroom => ?_⟩⟩
        · rw [stock, stock, List.flatMap_cons, List.flatMap_cons, hbytes]
          show bytes ++ _ = bytes.take room ++ (bytes.drop room ++ _)
          rw [← List.append_assoc, List.take_append_drop]
        · intro htake
          rcases List.take_eq_nil_iff.1 htake with hzero | hnil
          · omega
          · exact hne hnil

theorem received_filled (h : Filled l.queue) (hbytes : Link.Received l bytes m) :
    Filled m.queue ∧ stock l.queue = bytes ++ stock m.queue := by
  induction hbytes with
  | nil l => exact ⟨h, rfl⟩
  | got hcall _ ih =>
    obtain ⟨hfilled, hstock, -⟩ := receive_filled h hcall
    obtain ⟨hlast, hrest⟩ := ih hfilled
    exact ⟨hlast, by rw [hstock, hrest, List.append_assoc]; rfl⟩
  | missed hcall _ ih =>
    obtain ⟨hfilled, hstock, -⟩ := receive_filled h hcall
    obtain ⟨hlast, hrest⟩ := ih hfilled
    exact ⟨hlast, by rw [hstock, hrest]; rfl⟩

/-- A queue of chunks that bring bytes has these bytes left. -/
theorem holds_stock (h : Filled l.queue) : Link.Holds l (stock l.queue).length where
  most hbytes := by
    rw [(received_filled h hbytes).2, List.length_append]
    omega
  call hbytes hcall := by
    obtain ⟨hfilled, -⟩ := received_filled h hbytes
    rcases (receive_filled hfilled hcall).2.2 with htimeout | ⟨chunk, hok, hne⟩
    · exact .inl htimeout
    · exact .inr ⟨chunk, hok, hne (by decide)⟩

end TimedLink

/-! ## The loops -/

namespace Port

variable {σ : Type} [Link σ] {r : Request} {x : Extent} {deadline timeout n blocks fills : Nat}
  {p q : Port σ} {o : Outcome (List UInt8)}

/-- Reading a block looks for more input as often as this, and ends like this. -/
inductive Reads (deadline : Nat) (x : Extent) : Port σ → Nat → Outcome (List UInt8) → Port σ → Prop
  | block {p : Port σ} {n : Nat} (hcut : x.cut? p.pending = some n) :
      Reads deadline x p 0 (.ok (p.pending.take n)) { p with pending := p.pending.drop n }
  | failed {p q : Port σ} {e : Error} (hcut : x.cut? p.pending = none)
      (hfill : fill deadline p = (.error e, q)) : Reads deadline x p 1 (.error e) q
  | more {p q t : Port σ} {fills : Nat} {o : Outcome (List UInt8)} (hcut : x.cut? p.pending = none)
      (hfill : fill deadline p = (.ok (), q)) (rest : Reads deadline x q fills o t) :
      Reads deadline x p (fills + 1) o t

/-- Waiting for the reply to a request reads as many blocks as this, looks for more input as often as this,
and ends like this. -/
inductive Awaits (r : Request) (timeout : Nat) :
    Port σ → Nat → Nat → Outcome (List UInt8) → Port σ → Prop
  | nothing {p : Port σ} (hreply : r.reply = .none) : Awaits r timeout p 0 0 (.ok []) p
  | failed {p q : Port σ} {x : Extent} {fills : Nat} {e : Error} (hreply : r.reply.extent? = some x)
      (hread : Reads (Link.now p.link + timeout) x p fills (.error e) q) :
      Awaits r timeout p 1 fills (.error e) q
  | reply {p q : Port σ} {x : Extent} {fills : Nat} {block : List UInt8}
      (hreply : r.reply.extent? = some x)
      (hread : Reads (Link.now p.link + timeout) x p fills (.ok block) q)
      (hother : ¬ (r.skipEcho = true ∧ block = r.frame)) : Awaits r timeout p 1 fills (.ok block) q
  | echo {p q t : Port σ} {x : Extent} {blocks fills more : Nat} {block : List UInt8}
      {o : Outcome (List UInt8)} (hreply : r.reply.extent? = some x)
      (hread : Reads (Link.now p.link + timeout) x p fills (.ok block) q)
      (hecho : r.skipEcho = true ∧ block = r.frame) (rest : Awaits r timeout q blocks more o t) :
      Awaits r timeout p (blocks + 1) (fills + more) o t

/-! ### They are what is run -/

theorem Reads.readBy_eq (h : Reads deadline x p fills o q) : readBy deadline x p = (o, q) := by
  induction h with
  | block hcut => exact readBy_cut hcut
  | failed hcut hfill => exact readBy_failed hcut hfill
  | more hcut hfill _ ih => rw [readBy_filled hcut hfill, ih]

/-- An echo has bytes, unless the wait for the reply is endless. -/
theorem Reads.echo_ne_nil {block : List UInt8} (hends : ¬ r.Endless) (hreply : r.reply.extent? = some x)
    (h : Reads deadline x p fills (.ok block) q) (hecho : r.skipEcho = true ∧ block = r.frame) :
    r.frame ≠ [] := by
  intro hframe
  obtain ⟨hskip, rfl⟩ := hecho
  rw [hframe] at h
  exact hends ⟨hskip, hframe, x, hreply, readBy_nil h.readBy_eq⟩

/-- The loop does not end by itself when it meets an echo without bytes. -/
theorem Awaits.not_endless (h : Awaits r timeout p blocks fills o q) : ¬ r.Endless := by
  rintro ⟨hskip, hframe, x, hreply, hcut⟩
  have hread : ∀ {deadline : Nat} {p q : Port σ} {fills : Nat} {o : Outcome (List UInt8)},
      Reads deadline x p fills o q → o = .ok [] := by
    intro deadline p q fills o h
    cases h with
    | block h =>
      rw [hcut] at h
      cases h
      rfl
    | failed h => exact absurd (h.symm.trans (hcut _)) nofun
    | more h => exact absurd (h.symm.trans (hcut _)) nofun
  induction h with
  | nothing hnone =>
    rw [hnone] at hreply
    cases hreply
  | failed hx h =>
    obtain rfl := Option.some.inj (hx.symm.trans hreply)
    cases hread h
  | reply hx h hother =>
    obtain rfl := Option.some.inj (hx.symm.trans hreply)
    cases hread h
    exact hother ⟨hskip, hframe.symm⟩
  | echo _ _ _ _ ih => exact ih

theorem Awaits.run_eq (h : Awaits r timeout p blocks fills o q) :
    (awaitReply r timeout).run p = (o, q) := by
  induction h with
  | nothing hreply =>
    rw [awaitReply, hreply]
    rfl
  | failed hreply hread =>
    rw [run_awaitReply hreply]
    exact awaitBlock_failed hread.readBy_eq
  | reply hreply hread hother =>
    rw [run_awaitReply hreply]
    exact awaitBlock_other hread.readBy_eq hother
  | echo hreply hread hecho rest ih =>
    have hframe := hread.echo_ne_nil rest.not_endless hreply hecho
    rw [run_awaitReply hreply, awaitBlock_echo hread.readBy_eq hecho hframe, ← run_awaitReply hreply, ih]

theorem reads_readBy (deadline : Nat) (x : Extent) (p : Port σ) :
    ∃ fills, Reads deadline x p fills (readBy deadline x p).1 (readBy deadline x p).2 := by
  fun_induction readBy deadline x p with
  | case1 p n hcut => exact ⟨0, .block hcut⟩
  | case2 p hcut q hfill ih =>
    obtain ⟨fills, hrest⟩ := ih
    exact ⟨fills + 1, .more hcut hfill hrest⟩
  | case3 p hcut e q hfill => exact ⟨1, .failed hcut hfill⟩

theorem awaits_awaitBlock (hends : ¬ r.Endless) (hreply : r.reply.extent? = some x) (timeout : Nat)
    (p : Port σ) : ∃ blocks fills,
    Awaits r timeout p blocks fills (awaitBlock r x timeout p).1 (awaitBlock r x timeout p).2 := by
  have hreads : ∀ {p q : Port σ} {o : Outcome (List UInt8)}, read x timeout p = (o, q) →
      ∃ fills, Reads (Link.now p.link + timeout) x p fills o q := by
    intro p q o hread
    obtain ⟨fills, h⟩ := reads_readBy (Link.now p.link + timeout) x p
    rw [show readBy (Link.now p.link + timeout) x p = (o, q) from hread] at h
    exact ⟨fills, h⟩
  fun_induction awaitBlock r x timeout p with
  | case1 p q hread hecho =>
    obtain ⟨fills, h⟩ := hreads hread
    obtain ⟨hskip, hframe⟩ := isEcho_iff.1 hecho
    exact absurd hframe.symm (h.echo_ne_nil hends hreply ⟨hskip, hframe⟩)
  | case2 p block q hread hecho hne ih =>
    obtain ⟨fills, h⟩ := hreads hread
    obtain ⟨blocks, more, hrest⟩ := ih
    exact ⟨_, _, .echo hreply h (isEcho_iff.1 hecho) hrest⟩
  | case3 p block q hread hother =>
    obtain ⟨fills, h⟩ := hreads hread
    exact ⟨1, fills, .reply hreply h (mt isEcho_iff.2 hother)⟩
  | case4 p e q hread =>
    obtain ⟨fills, h⟩ := hreads hread
    exact ⟨1, fills, .failed hreply h⟩

/-- **The loop and what is run are the same.** Either the loop ends, as what is run does, or the wait is
endless: it meets an echo without bytes each time, and changes nothing. -/
theorem awaits_iff (r : Request) (timeout : Nat) (p : Port σ) :
    (∀ o q, (∃ blocks fills, Awaits r timeout p blocks fills o q) ↔
      ¬ r.Endless ∧ (awaitReply r timeout).run p = (o, q)) ∧
    (r.Endless → (awaitReply r timeout).run p = (.error (.halt .endless), p)) := by
  refine ⟨fun o q => ⟨?_, ?_⟩, awaitReply_endless⟩
  · rintro ⟨blocks, fills, h⟩
    exact ⟨h.not_endless, h.run_eq⟩
  · rintro ⟨hends, hrun⟩
    cases hreply : r.reply.extent? with
    | none =>
      rw [awaitReply, hreply] at hrun
      cases hrun
      exact ⟨0, 0, .nothing (Reply.extent?_eq_none.1 hreply)⟩
    | some x =>
      obtain ⟨blocks, fills, h⟩ := awaits_awaitBlock hends hreply timeout p
      rw [← run_awaitReply hreply, hrun] at h
      exact ⟨blocks, fills, h⟩

/-! ### What they spend -/

/-- Looking for more input brings some of the bytes that are left, or times out. -/
theorem fill_holds {o : Outcome Unit} (h : Link.Holds p.link n) (hfill : fill deadline p = (o, q)) :
    o = .error .timeout ∨ ∃ chunk left, o = .ok () ∧ chunk ≠ [] ∧ q.pending = p.pending ++ chunk ∧
      Link.Holds q.link left ∧ left + chunk.length = n := by
  unfold fill at hfill
  split at hfill
  · cases hfill
    exact .inl rfl
  · split at hfill
    · rename_i chunk l hr
      cases hfill
      rcases h.call (.nil p.link) hr with htimeout | ⟨_, hok, hne⟩
      · cases htimeout
      · cases hok
        have hreceived : Link.Received p.link (chunk ++ []) l := .got hr (.nil l)
        rw [List.append_nil] at hreceived
        have hsize := h.most hreceived
        exact .inr ⟨chunk, _, rfl, hne, rfl, h.received hreceived, Nat.sub_add_cancel hsize⟩
    · rename_i e l hr
      cases hfill
      rcases h.call (.nil p.link) hr with htimeout | ⟨_, hok, -⟩
      · cases htimeout
        exact .inl rfl
      · cases hok

/-- What a block and the search for it take is missing afterwards. -/
theorem Reads.spends (h : Reads deadline x p fills o q) (hlink : Link.Holds p.link n) :
    o = .error .timeout ∧ fills ≤ n + 1 ∨ ∃ block left, o = .ok block ∧ Link.Holds q.link left ∧
      fills + left ≤ n ∧ block.length + (q.pending.length + left) = p.pending.length + n := by
  induction h generalizing n with
  | @block p n' hcut =>
    have hle := Extent.cut?_le hcut
    refine .inr ⟨_, n, rfl, hlink, by omega, ?_⟩
    rw [List.length_take, List.length_drop]
    omega
  | failed hcut hfill =>
    rcases fill_holds hlink hfill with htimeout | ⟨_, _, hok, -⟩
    · cases htimeout
      exact .inl ⟨rfl, by omega⟩
    · cases hok
  | @more p q t fills o hcut hfill rest ih =>
    rcases fill_holds hlink hfill with htimeout | ⟨chunk, left, -, hne, hpending, hleft, hsum⟩
    · cases htimeout
    · have hchunk := List.length_pos_iff.2 hne
      rcases ih hleft with ⟨htimeout, hfills⟩ | ⟨block, left', hblock, hleft', hfills, hbytes⟩
      · exact .inl ⟨htimeout, by omega⟩
      · refine .inr ⟨block, left', hblock, hleft', by omega, ?_⟩
        rw [hbytes, hpending, List.length_append]
        omega

/-- Every block but the last one is a copy of the frame. -/
theorem Awaits.spends (hframe : r.frame ≠ []) (h : Awaits r timeout p blocks fills o q)
    (hlink : Link.Holds p.link n) :
    blocks * r.frame.length ≤ n + p.pending.length + r.frame.length ∧ fills ≤ n + 1 ∧
      (o = .error .timeout ∨ ∃ reply, o = .ok reply ∧ ¬ (r.skipEcho = true ∧ reply = r.frame)) := by
  induction h generalizing n with
  | nothing =>
    exact ⟨by omega, by omega, .inr ⟨[], rfl, fun hecho => hframe hecho.2.symm⟩⟩
  | failed hreply hread =>
    rcases hread.spends hlink with ⟨htimeout, hfills⟩ | ⟨_, _, hok, -⟩
    · exact ⟨by omega, hfills, .inl htimeout⟩
    · cases hok
  | @reply p q x fills block hreply hread hother =>
    rcases hread.spends hlink with ⟨htimeout, -⟩ | ⟨_, _, hok, -, hfills, -⟩
    · cases htimeout
    · exact ⟨by omega, by omega, .inr ⟨block, rfl, hother⟩⟩
  | echo hreply hread hecho rest ih =>
    rcases hread.spends hlink with ⟨htimeout, -⟩ | ⟨_, left, hok, hleft, hfills, hbytes⟩
    · cases htimeout
    · cases hok
      rw [hecho.2] at hbytes
      obtain ⟨hblocks, hmore, hend⟩ := ih hleft
      refine ⟨?_, by omega, hend⟩
      rw [Nat.succ_mul]
      omega

/-! ### They end -/

theorem reads_end (deadline : Nat) (x : Extent) (hlink : Link.Holds p.link n) :
    ∃ fills o q, Reads deadline x p fills o q := by
  -- Each search that succeeds leaves fewer bytes on the link.
  induction n using Nat.strongRecOn generalizing p with
  | ind n ih =>
    cases hcut : x.cut? p.pending with
    | some k => exact ⟨_, _, _, .block hcut⟩
    | none =>
      match hfill : fill deadline p with
      | (.error e, q) => exact ⟨_, _, _, .failed hcut hfill⟩
      | (.ok (), q) =>
        rcases fill_holds hlink hfill with htimeout | ⟨chunk, left, -, hne, -, hleft, hsum⟩
        · cases htimeout
        · have hchunk := List.length_pos_iff.2 hne
          obtain ⟨fills, o, t, hrest⟩ := ih left (by omega) hleft
          exact ⟨_, _, _, .more hcut hfill hrest⟩

theorem awaits_end (timeout : Nat) (hframe : r.frame ≠ []) (hlink : Link.Holds p.link n) :
    ∃ blocks fills o q, Awaits r timeout p blocks fills o q := by
  cases hreply : r.reply.extent? with
  | none => exact ⟨_, _, _, _, .nothing (Reply.extent?_eq_none.1 hreply)⟩
  | some x =>
    -- Each echo leaves fewer bytes, be it on the link or at hand.
    induction hk : p.pending.length + n using Nat.strongRecOn generalizing p n with
    | ind k ih =>
      obtain ⟨fills, o, q, hread⟩ := reads_end (Link.now p.link + timeout) x hlink
      cases o with
      | error e => exact ⟨_, _, _, _, .failed hreply hread⟩
      | ok block =>
        by_cases hecho : r.skipEcho = true ∧ block = r.frame
        · rcases hread.spends hlink with ⟨htimeout, -⟩ | ⟨_, left, hok, hleft, -, hbytes⟩
          · cases htimeout
          · cases hok
            have hlength : 0 < block.length := List.length_pos_iff.2 (hecho.2 ▸ hframe)
            obtain ⟨blocks, more, o, t, hrest⟩ := ih _ (by omega) hleft rfl
            exact ⟨_, _, _, _, .echo hreply hread hecho hrest⟩
        · exact ⟨_, _, _, _, .reply hreply hread hecho⟩

/-- **Waiting for a reply ends**, whatever shape the reply has, if the frame is not empty and the link has a
number of bytes left. It reads at most one block for each frame that the bytes left and those at hand have
room for, and one more; and it does not look for input more often than there are bytes, and once more. It
ends with a block that is no echo or with a timeout. -/
theorem wait_ends {σ : Type} [Link σ] {r : Request} {p : Port σ} {n : Nat} (hframe : r.frame ≠ [])
    (hlink : Link.Holds p.link n) (timeout : Nat) :
    (∃ blocks fills o q, Awaits r timeout p blocks fills o q) ∧
      ∀ blocks fills o q, Awaits r timeout p blocks fills o q →
        (awaitReply r timeout).run p = (o, q) ∧
        blocks ≤ (n + p.pending.length) / r.frame.length + 1 ∧ fills ≤ n + 1 ∧
        (o = .error .timeout ∨ ∃ reply, o = .ok reply ∧ ¬ (r.skipEcho = true ∧ reply = r.frame)) := by
  refine ⟨awaits_end timeout hframe hlink, fun blocks fills o q h => ?_⟩
  obtain ⟨hblocks, hfills, hend⟩ := h.spends hframe hlink
  have hlength : 0 < r.frame.length := List.length_pos_iff.2 hframe
  refine ⟨h.run_eq, ?_, hfills, hend⟩
  rw [← Nat.add_div_right _ hlength]
  exact (Nat.le_div_iff_mul_le hlength).2 hblocks

/-- Two echoes and a byte more come in pieces, the last of them later than the patience with which the wait
began. There is room for no more blocks than are read. -/
theorem wait_ends_renewed :
    let r := (Civ.Bus.mk 0x6A 0xE0).request "get_freq" 0x03 []
    let queue : List Chunk := [⟨5, .ok [0xE0, 0x03]⟩,
      ⟨30, .ok [0xFD, 0xFE, 0xFE, 0x6A, 0xE0, 0x03, 0xFD]⟩, ⟨40, .ok [0xFE]⟩]
    let p : Port TimedLink := { link := { queue := queue }, pending := [0xFE, 0xFE, 0x6A] }
    r.frame ≠ [] ∧ Link.Holds p.link 10 ∧ ∃ q, Awaits r 50 p 3 4 (.error .timeout) q ∧
      (awaitReply r 50).run p = (.error .timeout, q) ∧
      3 ≤ (10 + p.pending.length) / r.frame.length + 1 := by
  intro r queue p
  have hframe : r.frame ≠ [] := by decide
  have hfilled : TimedLink.Filled queue := by
    intro c hc
    simp only [queue, List.mem_cons, List.not_mem_nil, or_false] at hc
    rcases hc with rfl | rfl | rfl
    all_goals exact ⟨_, rfl, nofun⟩
  have hlink : Link.Holds p.link 10 := TimedLink.holds_stock hfilled
  have hruns : Awaits r 50 p 3 4 (.error .timeout) _ :=
    .echo rfl (.more rfl rfl (.more rfl rfl (.block rfl))) ⟨rfl, rfl⟩
      (.echo rfl (.block rfl) ⟨rfl, rfl⟩ (.failed rfl (.more rfl rfl (.failed rfl rfl))))
  obtain ⟨hrun, hblocks, -⟩ := (wait_ends hframe hlink 50).2 _ _ _ _ hruns
  exact ⟨hframe, hlink, _, hruns, hrun, hblocks⟩

end Port

end RigControl

/-
When an echo over TCP comes to a standstill.

A handler that is inside `framed.send` does not read.  Two ends can therefore block
each other: each waits for room in a buffer that only the other can empty.
-/
import GameSockets.Library.Duplex
import GameSockets.Server
import GameSockets.Tcp.Link

namespace GameSockets
namespace Tcp

open Library Duplex

/-! ## The two directions as lanes -/

namespace PeerHandler

/-- The length of the frame that a step of a handler begins to write. -/
def begins (h : PeerHandler) : Option HandlerAction → Option Nat
  | some .take =>
    match h.writeRx.pending with
    | [] => none
    | p :: _ => if h.broken ∨ maxFrame < p.length then none else some (lengthSize + p.length)
  | _ => none

/-- What the handler has still to write, and what its socket holds. -/
def lane (h : PeerHandler) (out : Bytes) : Lane :=
  { unsent := h.writeBuf.length, buffered := out.length }

theorem WellFormed.unsent_eq_zero {h : PeerHandler} (hw : h.WellFormed)
    (hphase : h.phase ≠ .sending) : h.writeBuf.length = 0 := by
  by_contra hne
  refine hphase (hw.sending.mpr ?_)
  rintro heq
  rw [heq] at hne
  exact hne rfl

/-- A step of a handler is a move of a party. -/
theorem partyStep_of_step {uuid : Uuid} {h h' : PeerHandler} {b : HandlerAction}
    {events : List GameNetworkEvent} {cap : Nat} {out inp : Bytes} (hw : h.WellFormed)
    (hstep : h.step uuid b = some (h', events))
    (hroom : (out ++ h.written (some b)).length ≤ cap) :
    ∃ m, partyStep cap (h.lane out) (readOff (some b) ++ inp).length m =
        some (h'.lane (out ++ h.written (some b)), inp.length) ∧
      (∀ n, m = .start n → h.begins (some b) = some n) ∧ (m = .giveUp → b = .writeFail) := by
  have idles : ∀ h' : PeerHandler, h'.writeBuf = h.writeBuf →
      partyStep cap (h.lane out) inp.length .idle =
        some (h'.lane (out ++ []), inp.length) := by
    intro h' hbuf
    rw [List.append_nil, lane, lane, hbuf]
    rfl
  cases steps_of_step hstep with
  | @read chunk hphase hdecode hchunk =>
    refine ⟨.read chunk.length, ?_, by simp, by simp⟩
    have hidle := hw.unsent_eq_zero (by rw [hphase]; simp)
    show partyStep cap _ (chunk ++ inp).length _ = some (h.lane (out ++ []), _)
    rw [List.append_nil, List.length_append]
    exact partyStep_read hidle (List.length_pos_iff.mpr hchunk)
  | frame => exact ⟨.idle, idles _ rfl, by simp, by simp⟩
  | tooLong => exact ⟨.idle, idles _ rfl, by simp, by simp⟩
  | hangUp => exact ⟨.idle, idles _ rfl, by simp, by simp⟩
  | refuse => exact ⟨.idle, idles _ rfl, by simp, by simp⟩
  | @take p rx hphase hrecv haccepted =>
    refine ⟨.start (lengthSize + p.length), ?_, ?_, by simp⟩
    · have hidle := hw.unsent_eq_zero (by rw [hphase]; simp)
      show partyStep cap _ _ _ = some (lane _ (out ++ []), _)
      rw [List.append_nil, lane, lane, Framing.length_frame]
      exact partyStep_start hidle
    · rintro n hn
      cases hn
      simp only [begins, (Channel.recv_eq_some hrecv).1]
      exact if_neg haccepted
  | @write n hphase hpos hle =>
    refine ⟨.write n, ?_, by simp, by simp⟩
    have hlen : (out ++ h.written (some (.write n))).length = out.length + n := by
      rw [List.length_append, written, List.length_take_of_le hle]
    rw [hlen] at hroom
    rw [lane, lane, hlen, List.length_drop]
    exact partyStep_write hpos hle hroom
  | writeFail =>
    refine ⟨.giveUp, ?_, by simp, by simp⟩
    show partyStep cap _ _ _ = some (lane _ (out ++ []), _)
    rw [List.append_nil]
    rfl

end PeerHandler

namespace TcpBackend

/-- A step at one end of a connection is a move of a party. -/
theorem partyStep_of_stepEnd {uuid : Uuid} {cap : Nat} {s t : TcpBackend}
    {out inp out' inp' : Bytes} {a : Action} (hs : Sane s)
    (h : s.stepEnd uuid cap out inp a = some (t, out', inp')) :
    ∃ m, partyStep cap ((s.handlerOf uuid).lane out) inp.length m =
        some ((t.handlerOf uuid).lane out', inp'.length) ∧
      (∀ n, m = .start n → (s.handlerOf uuid).begins (a.atHandler uuid) = some n) ∧
      (m = .giveUp → a = .handler uuid .writeFail) := by
  obtain ⟨hstep, rfl, rfl, hroom⟩ := stepEnd_eq_some h
  unfold written at hroom ⊢
  cases hat : a.atHandler uuid with
  | none =>
    obtain ⟨q, hq⟩ := handlerOf_of_not_handler hs.registered hstep hat
    refine ⟨.idle, ?_, by simp, by simp⟩
    rw [hq]
    exact congrArg (fun o => some ((s.handlerOf uuid).lane o, inp'.length))
      (List.append_nil out).symm
  | some b =>
    obtain ⟨⟨events, -, hspeaks⟩, -⟩ := step_logs hstep
    have hspeaks := hspeaks uuid
    rw [hat] at hspeaks hroom
    obtain ⟨h, h', hh, hh', hb⟩ := hspeaks
    have hw := hs.handlers uuid h hh
    simp only [handlerOf, hh, hh', Option.getD_some] at hroom ⊢
    obtain ⟨m, hparty, hstart, hgive⟩ := PeerHandler.partyStep_of_step hw hb hroom
    refine ⟨m, hparty, hstart, fun hm => ?_⟩
    rw [Action.atHandler_eq_some hat, hgive hm]

end TcpBackend

/-- The sizes of the buffers; `true` is the lane to the right. -/
def Wire.cap (w : Wire) : Bool → Nat
  | true => w.capRight
  | false => w.capLeft

namespace Link

def lanes (w : Wire) (s : Link) : Bool → Lane
  | true => (s.left.handlerOf w.left).lane s.toRight
  | false => (s.right.handlerOf w.right).lane s.toLeft

/-- The lane on which an action begins to write, and how much. -/
def begins (w : Wire) (s : Link) : LinkAction → Option (Bool × Nat)
  | .left a => ((s.left.handlerOf w.left).begins (a.atHandler w.left)).map fun n => (true, n)
  | .right a =>
    ((s.right.handlerOf w.right).begins (a.atHandler w.right)).map fun n => (false, n)

/-- A write of one end's handler fails. -/
def Fails (w : Wire) (a : LinkAction) : Prop :=
  a = .left (.handler w.left .writeFail) ∨ a = .right (.handler w.right .writeFail)

theorem lanes_step {w : Wire} {s t : Link} {a : LinkAction} (hl : s.left.Sane) (hr : s.right.Sane)
    (h : step w s a = some t) :
    ∃ b m, Duplex.step w.cap (lanes w s) b m = some (lanes w t) ∧
      (∀ n, m = .start n → begins w s a = some (b, n)) ∧ (m = .giveUp → Fails w a) := by
  rcases step_cases h with ⟨c, rfl, hother, hend⟩ | ⟨c, rfl, hother, hend⟩
  · obtain ⟨m, hparty, hstart, hgive⟩ := TcpBackend.partyStep_of_stepEnd hl hend
    refine ⟨true, m, ?_, fun n hn => ?_, fun hm => Or.inl (congrArg _ (hgive hm))⟩
    · refine Option.map_eq_some_iff.mpr ⟨_, hparty, ?_⟩
      funext d
      cases d with
      | true => rfl
      | false => exact (congrArg (fun r => (r.handlerOf w.right).lane t.toLeft) hother).symm
    · rw [begins, hstart n hn, Option.map_some]
  · obtain ⟨m, hparty, hstart, hgive⟩ := TcpBackend.partyStep_of_stepEnd hr hend
    refine ⟨false, m, ?_, fun n hn => ?_, fun hm => Or.inr (congrArg _ (hgive hm))⟩
    · refine Option.map_eq_some_iff.mpr ⟨_, hparty, ?_⟩
      funext d
      cases d with
      | true => exact (congrArg (fun l => (l.handlerOf w.left).lane t.toRight) hother).symm
      | false => rfl
    · rw [begins, hstart n hn, Option.map_some]

end Link

/-! ## What a healthy connection can do -/

/-- A step that needs no failure, and no end of the stream. -/
def HandlerAction.Advances : HandlerAction → Prop
  | .hangUp => False
  | .writeFail => False
  | _ => True

namespace TcpBackend

/-- The backend runs, and the handler of the UUID is connected. -/
def Healthy (s : TcpBackend) (uuid : Uuid) : Prop :=
  s.running = true ∧ s.handlers uuid ≠ none ∧ (s.handlerOf uuid).phase ≠ .closed

instance (s : TcpBackend) (uuid : Uuid) : Decidable (s.Healthy uuid) :=
  inferInstanceAs (Decidable (_ ∧ _ ∧ _))

theorem stepEnd_handler {s : TcpBackend} {uuid : Uuid} {cap : Nat} {out inp : Bytes}
    {h : PeerHandler} {b : HandlerAction} (hrunning : s.running = true)
    (hh : s.handlers uuid = some h) (hstep : ∃ r, h.step uuid b = some r)
    (hin : readOff (some b) <+: inp)
    (hroom : out.length + (h.written (some b)).length ≤ cap) :
    ∃ r, s.stepEnd uuid cap out inp (.handler uuid b) = some r := by
  obtain ⟨⟨h', events⟩, hstep⟩ := hstep
  have hat : (Action.handler uuid b).atHandler uuid = some b := if_pos rfl
  have hs : s.step (.handler uuid b) = some ((s.emit events).setHandler uuid h') := by
    simp only [step, hrunning, hh, hstep, Option.map_some]
  have hwritten : s.written uuid (.handler uuid b) = h.written (some b) := by
    rw [written, hat, handlerOf, hh, Option.getD_some]
  rw [stepEnd, hwritten, hat, if_pos ⟨hroom, hin⟩, hs]
  exact ⟨_, rfl⟩

/-- A healthy handler can go on if it has room to write, or nothing to write and
something to read or to take. -/
theorem stepEnd_advances {s : TcpBackend} {uuid : Uuid} {cap : Nat} {out inp : Bytes}
    (hs : Sane s) (hhealthy : s.Healthy uuid) (hout : out.length ≤ cap)
    (hwork : 0 < (s.handlerOf uuid).writeBuf.length ∧ out.length < cap ∨
      (s.handlerOf uuid).writeBuf.length = 0 ∧
        (0 < inp.length ∨ (s.handlerOf uuid).writeRx.pending ≠ [])) :
    ∃ b, b.Advances ∧ ∃ r, s.stepEnd uuid cap out inp (.handler uuid b) = some r := by
  obtain ⟨hrunning, hhandler, hopen⟩ := hhealthy
  obtain ⟨h, hh⟩ := Option.ne_none_iff_exists'.mp hhandler
  have hw := hs.handlers uuid h hh
  simp only [handlerOf, hh, Option.getD_some] at hwork hopen
  rcases hwork with ⟨hpos, hroom⟩ | ⟨hidle, hwork⟩
  · have hphase : h.phase = .sending := hw.sending.mpr (List.ne_nil_of_length_pos hpos)
    refine ⟨.write 1, trivial, stepEnd_handler hrunning hh
      ⟨_, if_pos ⟨hphase, Nat.one_pos, hpos⟩⟩ List.nil_prefix ?_⟩
    rw [PeerHandler.written, List.length_take]
    omega
  · have hphase : h.phase = .selecting := by
      cases hphase : h.phase with
      | selecting => rfl
      | sending => exact absurd (List.eq_nil_of_length_eq_zero hidle) (hw.sending.mp hphase)
      | closed => exact absurd hphase hopen
    rcases hwork with hin | hqueue
    · cases hdecode : decodeFrame h.readBuf with
      | incomplete =>
        obtain ⟨x, rest, rfl⟩ := List.exists_cons_of_length_pos hin
        refine ⟨.read [x], trivial, stepEnd_handler hrunning hh ?_ ⟨rest, rfl⟩ hout⟩
        simp only [PeerHandler.step, hphase, hdecode]
        exact ⟨_, rfl⟩
      | tooLong =>
        refine ⟨.decode, trivial, stepEnd_handler hrunning hh ?_ List.nil_prefix hout⟩
        simp only [PeerHandler.step, hphase, hdecode]
        exact ⟨_, rfl⟩
      | frame bytes rest =>
        refine ⟨.decode, trivial, stepEnd_handler hrunning hh ?_ List.nil_prefix hout⟩
        simp only [PeerHandler.step, hphase, hdecode]
        exact ⟨_, rfl⟩
    · obtain ⟨p, rest, hpending⟩ := List.exists_cons_of_ne_nil hqueue
      have hrecv := Channel.recv_of_pending hpending
      refine ⟨.take, trivial, stepEnd_handler hrunning hh ?_ List.nil_prefix hout⟩
      simp only [PeerHandler.step, hphase, hrecv]
      split
      · exact ⟨_, rfl⟩
      · exact ⟨_, rfl⟩

/-- A handler inside `framed.send` can do nothing while its buffer is full. -/
theorem stepEnd_of_full {s : TcpBackend} {uuid : Uuid} {cap : Nat} {out inp : Bytes}
    {b : HandlerAction} (hphase : (s.handlerOf uuid).phase = .sending) (hfull : cap ≤ out.length)
    (hb : b.Advances) : s.stepEnd uuid cap out inp (.handler uuid b) = none := by
  cases hend : s.stepEnd uuid cap out inp (.handler uuid b) with
  | none => rfl
  | some r =>
    exfalso
    obtain ⟨hstep, hout, -, hroom⟩ := stepEnd_eq_some hend
    have hat : (Action.handler uuid b).atHandler uuid = some b := if_pos rfl
    obtain ⟨⟨events, -, hspeaks⟩, -⟩ := step_logs hstep
    have hspeaks := hspeaks uuid
    rw [hat] at hspeaks
    obtain ⟨h, h', hh, -, hb'⟩ := hspeaks
    rw [hout, written, hat, handlerOf, hh, Option.getD_some, List.length_append] at hroom
    rw [handlerOf, hh, Option.getD_some] at hphase
    have stays : h.phase ≠ .selecting := by
      rw [hphase]
      exact fun heq => by cases heq
    cases PeerHandler.steps_of_step hb' with
    | read hselecting => exact stays hselecting
    | frame hselecting => exact stays hselecting
    | tooLong hselecting => exact stays hselecting
    | hangUp => exact hb
    | refuse hselecting => exact stays hselecting
    | take hselecting => exact stays hselecting
    | write _ hpos hle =>
      rw [PeerHandler.written, List.length_take_of_le hle] at hroom
      omega
    | writeFail => exact hb

end TcpBackend

namespace Link

def Healthy (w : Wire) (s : Link) : Prop := s.left.Healthy w.left ∧ s.right.Healthy w.right

instance (w : Wire) (s : Link) : Decidable (Healthy w s) := inferInstanceAs (Decidable (_ ∧ _))

/-- There are bytes in a buffer, bytes of a packet that a handler is sending, or queued
packets. -/
def Pending (w : Wire) (s : Link) : Prop :=
  (∃ b, 0 < (lanes w s b).unsent ∨ 0 < (lanes w s b).buffered) ∨
    (s.left.handlerOf w.left).writeRx.pending ≠ [] ∨
      (s.right.handlerOf w.right).writeRx.pending ≠ []

/-- One of the two handlers takes a step. -/
def Advances (w : Wire) (s t : Link) : Prop :=
  ∃ b : HandlerAction, b.Advances ∧
    (step w s (.left (.handler w.left b)) = some t ∨
      step w s (.right (.handler w.right b)) = some t)

/-- Both handlers are inside `framed.send`, and both buffers are full. -/
def Blocked (w : Wire) (s : Link) : Prop :=
  (s.left.handlerOf w.left).phase = .sending ∧ (s.right.handlerOf w.right).phase = .sending ∧
    w.capRight ≤ s.toRight.length ∧ w.capLeft ≤ s.toLeft.length

instance (w : Wire) (s : Link) : Decidable (Blocked w s) :=
  inferInstanceAs (Decidable (_ ∧ _ ∧ _ ∧ _))

theorem not_advances_of_blocked {w : Wire} {s t : Link} (h : Blocked w s) : ¬ Advances w s t := by
  obtain ⟨hleft, hright, hfull, hfull'⟩ := h
  rintro ⟨b, hb, hstep | hstep⟩
  · rw [step, TcpBackend.stepEnd_of_full hleft hfull hb] at hstep
    cases hstep
  · rw [step, TcpBackend.stepEnd_of_full hright hfull' hb] at hstep
    cases hstep

/-- What the steps of the link, and of the applications, keep unless a write jams it. -/
structure Open (w : Wire) (s : Link) : Prop where
  left : s.left.Sane
  right : s.right.Sane
  bounded : Bounded w.cap (lanes w s)
  open_ : ¬ Jammed w.cap (lanes w s)

theorem not_blocked_of_open {w : Wire} {s : Link} (h : Open w s) : ¬ Blocked w s := by
  rintro ⟨hleft, hright, hfull, hfull'⟩
  refine h.open_ fun b => ?_
  cases b with
  | true =>
    have hpos := List.length_pos_iff.mpr ((h.left.handlerOf w.left).sending.mp hleft)
    exact Nat.lt_of_le_of_lt hfull (Nat.lt_add_of_pos_right hpos)
  | false =>
    have hpos := List.length_pos_iff.mpr ((h.right.handlerOf w.right).sending.mp hright)
    exact Nat.lt_of_le_of_lt hfull' (Nat.lt_add_of_pos_right hpos)

theorem advances_of_open {w : Wire} {s : Link} (hcap : ∀ b, 0 < w.cap b) (h : Open w s)
    (hhealthy : Healthy w s) (hpending : Pending w s) : ∃ t, Advances w s t := by
  have left : ((lanes w s true).unsent > 0 ∧ (lanes w s true).buffered < w.cap true ∨
      (lanes w s true).unsent = 0 ∧ (0 < (lanes w s false).buffered ∨
        (s.left.handlerOf w.left).writeRx.pending ≠ [])) → ∃ t, Advances w s t := by
    intro hwork
    obtain ⟨b, hb, r, hr⟩ :=
      TcpBackend.stepEnd_advances h.left hhealthy.1 (h.bounded true) hwork
    exact ⟨_, b, hb, Or.inl (congrArg (Option.map _) hr)⟩
  have right : ((lanes w s false).unsent > 0 ∧ (lanes w s false).buffered < w.cap false ∨
      (lanes w s false).unsent = 0 ∧ (0 < (lanes w s true).buffered ∨
        (s.right.handlerOf w.right).writeRx.pending ≠ [])) → ∃ t, Advances w s t := by
    intro hwork
    obtain ⟨b, hb, r, hr⟩ :=
      TcpBackend.stepEnd_advances h.right hhealthy.2 (h.bounded false) hwork
    exact ⟨_, b, hb, Or.inr (congrArg (Option.map _) hr)⟩
  by_cases hwork : ∃ b, 0 < (lanes w s b).unsent ∨ 0 < (lanes w s b).buffered
  · obtain ⟨b, hb⟩ := progress hcap h.bounded h.open_ hwork
    cases b with
    | true => exact left (hb.imp id (And.imp_right Or.inl))
    | false => exact right (hb.imp id (And.imp_right Or.inl))
  · simp only [not_exists, not_or, Nat.not_lt, Nat.le_zero_eq] at hwork
    rcases hpending with hbytes | hqueue | hqueue
    · obtain ⟨b, hb⟩ := hbytes
      have := hwork b
      omega
    · exact left (Or.inr ⟨(hwork true).1, Or.inr hqueue⟩)
    · exact right (Or.inr ⟨(hwork false).1, Or.inr hqueue⟩)

/-- A handler takes a packet while the other end has more to write than its buffer
takes only if the packet's frame fits its own buffer. -/
def InRoom (w : Wire) (s : Link) (a : LinkAction) : Prop :=
  match begins w s a with
  | none => True
  | some (b, n) =>
    Overfull w.cap (lanes w s) (!b) → (lanes w s b).buffered + n ≤ w.cap b

instance (w : Wire) (s : Link) (a : LinkAction) : Decidable (InRoom w s a) :=
  match h : begins w s a with
  | none => .isTrue (by rw [InRoom, h]; trivial)
  | some (b, n) =>
    decidable_of_iff
      (w.cap (!b) < (lanes w s (!b)).buffered + (lanes w s (!b)).unsent →
        (lanes w s b).buffered + n ≤ w.cap b)
      (by rw [InRoom, h]; rfl)

theorem open_step {w : Wire} {s t : Link} {a : LinkAction} (h : Open w s) (hroom : InRoom w s a)
    (hstep : step w s a = some t) : Open w t := by
  obtain ⟨hl, hr⟩ := sane_step h.left h.right hstep
  obtain ⟨b, m, hm, hstart, -⟩ := lanes_step h.left h.right hstep
  refine ⟨hl, hr, bounded_step h.bounded hm, not_jammed_step h.bounded h.open_ hm ?_⟩
  intro n hn
  rw [InRoom, hstart n hn] at hroom
  exact hroom

/-- Without a failure a jammed link stays jammed. -/
theorem jammed_step {w : Wire} {s t : Link} {a : LinkAction} (hl : s.left.Sane)
    (hr : s.right.Sane) (hbounded : Bounded w.cap (lanes w s))
    (hjam : Jammed w.cap (lanes w s)) (ha : ¬ Fails w a) (hstep : step w s a = some t) :
    Jammed w.cap (lanes w t) := by
  obtain ⟨b, m, hm, -, hgive⟩ := lanes_step hl hr hstep
  exact Duplex.jammed_step hbounded hjam hm fun heq => ha (hgive heq)

end Link

end Tcp
end GameSockets

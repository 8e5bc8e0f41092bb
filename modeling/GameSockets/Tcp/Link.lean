/-
Two backends joined by one TCP connection.

Each end has its own UUID for the connection, and may have any number of others.  The
kernel holds the bytes that one end has written and the other has not read, up to the
size of its buffers.
-/
import GameSockets.Tcp.Reachable

namespace GameSockets
namespace Tcp

open Library

/-- The bytes that a step of a handler puts into its socket. -/
def PeerHandler.written (h : PeerHandler) : Option HandlerAction → Bytes
  | some (.write n) => h.writeBuf.take n
  | _ => []

/-- The bytes that a step of a handler takes out of its socket. -/
def readOff : Option HandlerAction → Bytes
  | some (.read chunk) => chunk
  | _ => []

namespace TcpBackend

/-- The handler of a UUID; one that is not there yet is as good as new. -/
def handlerOf (s : TcpBackend) (uuid : Uuid) : PeerHandler :=
  (s.handlers uuid).getD PeerHandler.new

/-- Whatever is no step of a handler changes no more than its queue. -/
theorem handlerOf_of_not_handler {s t : TcpBackend} {a : Action} {uuid : Uuid}
    (hreg : Registered s) (hstep : s.step a = some t) (hnone : a.atHandler uuid = none) :
    ∃ q, t.handlerOf uuid = { s.handlerOf uuid with writeRx := q } := by
  have hev := step_evolves hreg hstep uuid
  rw [hnone] at hev
  unfold handlerOf
  generalize s.sendOf uuid a = sent at hev
  generalize s.handlers uuid = old at hev ⊢
  generalize s.held uuid = before at hev
  generalize t.handlers uuid = new at hev ⊢
  generalize t.held uuid = after at hev
  have offered : ∀ {h h' : PeerHandler} {p : Bytes}, h.offer p = some h' →
      ∃ q, h' = { h with writeRx := q } := by
    intro h h' p hoffer
    unfold PeerHandler.offer at hoffer
    split at hoffer
    · cases hoffer
      exact ⟨_, rfl⟩
    · split at hoffer <;> cases hoffer
      exact ⟨_, rfl⟩
  cases hev with
  | same h waiting => exact ⟨_, rfl⟩
  | spawned => exact ⟨_, rfl⟩
  | pushed hoffer => exact offered hoffer
  | waits hoffer => exact ⟨_, rfl⟩
  | resumed hoffer => exact offered hoffer

def written (s : TcpBackend) (uuid : Uuid) (a : Action) : Bytes :=
  (s.handlerOf uuid).written (a.atHandler uuid)

/-- A step at one end of a connection: the backend, the bytes on their way out, and
the bytes on their way in.  The network cuts the stream of bytes as it likes. -/
def stepEnd (uuid : Uuid) (cap : Nat) (s : TcpBackend) (out inp : Bytes) (a : Action) :
    Option (TcpBackend × Bytes × Bytes) :=
  if out.length + (s.written uuid a).length ≤ cap ∧ readOff (a.atHandler uuid) <+: inp then
    (s.step a).map fun t =>
      (t, out ++ s.written uuid a, inp.drop (readOff (a.atHandler uuid)).length)
  else none

theorem stepEnd_eq_some {uuid : Uuid} {cap : Nat} {s t : TcpBackend} {out inp out' inp' : Bytes}
    {a : Action} (h : s.stepEnd uuid cap out inp a = some (t, out', inp')) :
    s.step a = some t ∧ out' = out ++ s.written uuid a ∧ inp = readOff (a.atHandler uuid) ++ inp' ∧
      out'.length ≤ cap := by
  unfold stepEnd at h
  split at h
  · next hcond =>
    obtain ⟨hroom, rest, hrest⟩ := hcond
    obtain ⟨t', hstep, heq⟩ := Option.map_eq_some_iff.mp h
    cases heq
    refine ⟨hstep, rfl, ?_, by rw [List.length_append]; exact hroom⟩
    rw [← hrest, List.drop_left]
  · cases h

theorem Sane.handlerOf {s : TcpBackend} (h : Sane s) (uuid : Uuid) :
    (s.handlerOf uuid).WellFormed := by
  rw [TcpBackend.handlerOf]
  cases hh : s.handlers uuid with
  | none => exact PeerHandler.wellFormed_new
  | some hd => exact h.handlers uuid hd hh

end TcpBackend

/-- The connection: its UUID at each end, and the sizes of the kernel's buffers. -/
structure Wire where
  left : Uuid
  right : Uuid
  capRight : Nat
  capLeft : Nat

structure Link where
  left : TcpBackend
  right : TcpBackend
  /-- the bytes on their way to the right end -/
  toRight : Bytes
  toLeft : Bytes

inductive LinkAction where
  | left (a : Action)
  | right (a : Action)

namespace Link

def init : Link :=
  { left := TcpBackend.init, right := TcpBackend.init, toRight := [], toLeft := [] }

def step (w : Wire) (s : Link) : LinkAction → Option Link
  | .left a =>
    (s.left.stepEnd w.left w.capRight s.toRight s.toLeft a).map fun (b, out, inp) =>
      { s with left := b, toRight := out, toLeft := inp }
  | .right a =>
    (s.right.stepEnd w.right w.capLeft s.toLeft s.toRight a).map fun (b, out, inp) =>
      { s with right := b, toLeft := out, toRight := inp }

/-- A step is one of either end. -/
theorem step_cases {w : Wire} {s t : Link} {a : LinkAction} (h : step w s a = some t) :
    (∃ b, a = .left b ∧ t.right = s.right ∧
        s.left.stepEnd w.left w.capRight s.toRight s.toLeft b =
          some (t.left, t.toRight, t.toLeft)) ∨
      ∃ b, a = .right b ∧ t.left = s.left ∧
        s.right.stepEnd w.right w.capLeft s.toLeft s.toRight b =
          some (t.right, t.toLeft, t.toRight) := by
  cases a with
  | left b =>
    obtain ⟨⟨t', out, inp⟩, hstep, rfl⟩ := Option.map_eq_some_iff.mp h
    exact Or.inl ⟨b, rfl, rfl, hstep⟩
  | right b =>
    obtain ⟨⟨t', out, inp⟩, hstep, rfl⟩ := Option.map_eq_some_iff.mp h
    exact Or.inr ⟨b, rfl, rfl, hstep⟩

theorem sane_step {w : Wire} {s t : Link} {a : LinkAction} (hl : s.left.Sane) (hr : s.right.Sane)
    (h : step w s a = some t) : t.left.Sane ∧ t.right.Sane := by
  rcases step_cases h with ⟨b, -, hright, hstep⟩ | ⟨b, -, hleft, hstep⟩
  · refine ⟨TcpBackend.sane_step hl (TcpBackend.stepEnd_eq_some hstep).1, ?_⟩
    rw [hright]
    exact hr
  · refine ⟨?_, TcpBackend.sane_step hr (TcpBackend.stepEnd_eq_some hstep).1⟩
    rw [hleft]
    exact hl

end Link

end Tcp
end GameSockets

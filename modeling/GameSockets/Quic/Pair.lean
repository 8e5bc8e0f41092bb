/-
Two backends with one connection between them.

What joins them are the streams of the connection: an end accepts the streams of the other
in the order in which that end has opened them.  Everything else that reaches an end is left
open, as for a backend alone.
-/
import GameSockets.Allocation
import GameSockets.Quic.Backend

namespace GameSockets
namespace Quic

open Library

/-- An end of the connection. -/
inductive End where
  | left
  | right
deriving DecidableEq

def End.other : End → End
  | .left => .right
  | .right => .left

@[simp] theorem End.other_other (e : End) : e.other.other = e := by cases e <;> rfl

theorem End.other_ne (e : End) : e.other ≠ e := by cases e <;> decide

theorem End.eq_other {e e' : End} (h : e' ≠ e) : e' = e.other := by
  cases e <;> cases e' <;> first | rfl | exact absurd rfl h

namespace QuicBackend

/-- The QUIC streams of connection `c` that an action opens, as their indices. -/
def opens (s : QuicBackend) (c : Uuid) : Action → List UInt16
  | .command env =>
    match s.peer.cmdTx.recv with
    | some (.createStream c' i .reliable, _) =>
      if c' = c ∧ c' ∈ s.connections ∧ env.openOk then [i] else []
    | _ => []
  | _ => []

end QuicBackend

/-- Two backends with a connection between them, and the indices of the streams that each
end has opened on it.  The other end has received those that it has accepted. -/
structure QuicPair where
  ends : End → QuicBackend
  streams : End → Channel UInt16

inductive PairAction where
  /-- the application at one end calls `create_stream` -/
  | createStream (e : End) (conn : GameConnection) (reliability : GameStreamReliability)
  /-- an action of one end, other than to issue a `CreateStream` or to accept a stream of the
  connection -/
  | backend (e : End) (a : Action)
  /-- one end accepts the next stream of the other -/
  | acceptStream (e : End)

/-- The action is a call of `create_stream` at the end. -/
def PairAction.creates (e : End) : PairAction → Bool
  | .createStream e' _ _ => e' = e
  | _ => false

/-- The action is one of the pair, where the end calls the connection `c`. -/
def Action.joint (c : Uuid) : Action → Bool
  | .issue (.createStream _ _ _) => true
  | .acceptStream uuid _ => uuid = c
  | _ => false

namespace QuicPair

def init : QuicPair := { ends := fun _ => .init, streams := fun _ => Channel.empty }

def setEnd (s : QuicPair) (e : End) (backend : QuicBackend) : QuicPair :=
  { s with ends := Function.update s.ends e backend }

section Pair

variable (profile : Profile) (uuid : End → Uuid)

/-- Each end has a UUID for the connection. -/
def step (s : QuicPair) : PairAction → Option QuicPair
  | .createStream e conn reliability =>
    match (s.ends e).peer.createStreamIn profile conn reliability with
    | .ok peer => some (s.setEnd e { s.ends e with peer := peer })
    | _ => none
  | .backend e a =>
    if a.joint (uuid e) then none
    else
      ((s.ends e).step a).map fun backend =>
        { ends := Function.update s.ends e backend,
          streams := Function.update s.streams e
            ((s.streams e).sendAll ((s.ends e).opens (uuid e) a)) }
  | .acceptStream e =>
    match (s.streams e.other).recv with
    | none => none
    | some (i, rest) =>
      ((s.ends e).step (.acceptStream (uuid e) (putU16 i))).map fun backend =>
        { ends := Function.update s.ends e backend,
          streams := Function.update s.streams e.other rest }

/-- The streams that the end has opened, as their indices. -/
def opened (s : QuicPair) (e : End) : List UInt16 := (s.streams e).log

/-- The streams of the other end that the end has accepted. -/
def accepted (s : QuicPair) (e : End) : List UInt16 := (s.streams e.other).received

/-- The branches of `step`. -/
inductive Steps (s : QuicPair) : PairAction → QuicPair → Prop where
  | createStream {e : End} {conn : GameConnection} {reliability : GameStreamReliability}
    {peer : GamePeer}
    (hcall : (s.ends e).peer.createStreamIn profile conn reliability = .ok peer) :
    Steps s (.createStream e conn reliability) (s.setEnd e { s.ends e with peer := peer })
  | backend {e : End} {a : Action} {backend : QuicBackend} (hother : a.joint (uuid e) = false)
    (hstep : (s.ends e).step a = some backend) :
    Steps s (.backend e a)
      { ends := Function.update s.ends e backend,
        streams := Function.update s.streams e
          ((s.streams e).sendAll ((s.ends e).opens (uuid e) a)) }
  | acceptStream {e : End} {i : UInt16} {rest : Channel UInt16} {backend : QuicBackend}
    (hrecv : (s.streams e.other).recv = some (i, rest))
    (hstep : (s.ends e).step (.acceptStream (uuid e) (putU16 i)) = some backend) :
    Steps s (.acceptStream e)
      { ends := Function.update s.ends e backend,
        streams := Function.update s.streams e.other rest }

variable {profile uuid}

theorem steps_of_step {s t : QuicPair} {a : PairAction} (h : s.step profile uuid a = some t) :
    Steps profile uuid s a t := by
  cases a with
  | createStream e conn reliability =>
    simp only [step] at h
    split at h
    · next hcall =>
      cases h
      exact .createStream hcall
    · cases h
  | backend e a =>
    simp only [step] at h
    split at h
    · cases h
    · next hother =>
      obtain ⟨backend, hstep, rfl⟩ := Option.map_eq_some_iff.mp h
      exact .backend (Bool.eq_false_iff.mpr hother) hstep
  | acceptStream e =>
    simp only [step] at h
    split at h
    · cases h
    · next hrecv =>
      obtain ⟨backend, hstep, rfl⟩ := Option.map_eq_some_iff.mp h
      exact .acceptStream hrecv hstep

end Pair

end QuicPair

end Quic
end GameSockets

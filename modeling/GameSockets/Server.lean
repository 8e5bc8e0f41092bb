/-
`server.rs`: the echo server's loop.

One action of the model is one pass of the loop, which polls one event.
-/
import GameSockets.BenchmarkPacket

namespace GameSockets
namespace Server

open Library

inductive Phase where
  | running
  | returned (result : Except GameSocketError Unit)
  | panicked
deriving DecidableEq

/-- The handle, and the `GlobalState` of the source. -/
structure ServerState where
  peer : GamePeer
  clients : List GameConnection
  phase : Phase

section Loop

variable (crc : Bytes → UInt32)

def handleEvent (st : ServerState) : GameNetworkEvent → ServerState
  | .connected connection => { st with clients := st.clients ++ [connection] }
  | .disconnected connection => { st with clients := st.clients.filter (· ≠ connection) }
  | .message connection stream data =>
    match BenchmarkPacket.fromBytes crc data with
    | none => st
    | some packet =>
      match st.peer.send connection stream (packet.toBytes crc) with
      | .ok peer => { st with peer := peer }
      | .err e => { st with phase := .returned (.error e) }
      | .panic => { st with phase := .panicked }
  | .error _ _ => st
  | .streamCreated _ _ => st
  | .streamClosed _ _ => st

def poll (st : ServerState) : ServerState :=
  match st.peer.poll with
  | .error _ => { st with phase := .returned (.ok ()) }
  | .ok none => st
  | .ok (some (event, peer)) => handleEvent crc { st with peer := peer } event

def step (st : ServerState) : Option ServerState :=
  match st.phase with
  | .running => some (poll crc st)
  | _ => none

/-- The state at the head of the loop. -/
def init (ip : String) (port : UInt16) : ServerState :=
  { peer := { GamePeer.new with cmdTx := GamePeer.new.cmdTx.send (.bind ip port) },
    clients := [],
    phase := .running }

variable {crc}

/-- What the server sends when it handles an event: a packet it can read goes back
as it came. -/
theorem handleEvent_sends (st : ServerState) (e : GameNetworkEvent) :
    (handleEvent crc st e).peer.eventRx = st.peer.eventRx ∧
      ∀ m ∈ (handleEvent crc st e).peer.cmdTx.log.filterMap BackendCommand.sent,
        m ∈ st.peer.cmdTx.log.filterMap BackendCommand.sent ∨ e.delivered = some m := by
  cases e with
  | message c stream data =>
    rw [handleEvent]
    split
    · exact ⟨rfl, fun m hm => Or.inl hm⟩
    · next packet hpacket =>
      cases hsend : st.peer.send c stream (packet.toBytes crc) with
      | ok peer =>
        obtain ⟨-, rfl⟩ := GamePeer.sendCmd_eq_ok hsend
        refine ⟨rfl, fun m hm => ?_⟩
        rw [BenchmarkPacket.toBytes_of_fromBytes hpacket] at hm
        simp only [Channel.log_send, List.filterMap_append, List.mem_append] at hm
        rcases hm with hm | hm
        · exact Or.inl hm
        · exact Or.inr (List.mem_singleton.mp hm ▸ rfl)
      | err e => exact ⟨rfl, fun m hm => Or.inl hm⟩
      | panic => exact ⟨rfl, fun m hm => Or.inl hm⟩
  | connected c => exact ⟨rfl, fun m hm => Or.inl hm⟩
  | disconnected c => exact ⟨rfl, fun m hm => Or.inl hm⟩
  | error c inner => exact ⟨rfl, fun m hm => Or.inl hm⟩
  | streamCreated c stream => exact ⟨rfl, fun m hm => Or.inl hm⟩
  | streamClosed c stream => exact ⟨rfl, fun m hm => Or.inl hm⟩

/-- One pass loses no event, and every packet it sends is one it has received. -/
theorem step_sends {st st' : ServerState} (h : step crc st = some st') :
    st'.peer.eventRx.log = st.peer.eventRx.log ∧
      ∀ m ∈ st'.peer.cmdTx.log.filterMap BackendCommand.sent,
        m ∈ st.peer.cmdTx.log.filterMap BackendCommand.sent ∨
          m ∈ st.peer.eventRx.log.filterMap GameNetworkEvent.delivered := by
  simp only [step] at h
  split at h
  · cases h
    unfold poll
    split
    · exact ⟨rfl, fun m hm => Or.inl hm⟩
    · exact ⟨rfl, fun m hm => Or.inl hm⟩
    · next e peer hpoll =>
      obtain ⟨rx, hrecv, rfl⟩ := GamePeer.poll_eq_some hpoll
      obtain ⟨hrx, hsends⟩ :=
        @handleEvent_sends crc { st with peer := { st.peer with eventRx := rx } } e
      refine ⟨?_, fun m hm => ?_⟩
      · rw [hrx]
        exact Channel.log_recv hrecv
      · rcases hsends m hm with hm | hm
        · exact Or.inl hm
        · exact Or.inr (List.mem_filterMap.mpr ⟨e, Channel.mem_log_of_recv hrecv, hm⟩)
  · cases h

end Loop

end Server
end GameSockets

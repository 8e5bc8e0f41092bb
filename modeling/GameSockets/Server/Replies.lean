/-
What the server sends over a whole run: the packets it has polled, once each and in order.

The loop polls, answers, and polls again, so while it runs its answers are up to date.  An
answer that its backend no longer takes ends the loop and stays out.
-/
import GameSockets.Handle
import GameSockets.Server

namespace GameSockets
namespace Server

open Library GamePeer

section Replies

variable (crc : Bytes → UInt32)

/-- A payload that the server sends back. -/
def readable (m : Transfer) : Bool := (BenchmarkPacket.fromBytes crc m.data).isSome

/-- The payloads that the server has polled. -/
def heard (st : ServerState) : List Transfer :=
  st.peer.eventRx.received.filterMap GameNetworkEvent.delivered

/-- Everything passed to `server.send`. -/
def sends (st : ServerState) : List Transfer := st.peer.cmdTx.log.filterMap BackendCommand.sent

/-- The server sends the packets back that it has polled. -/
structure Replies (st : ServerState) : Prop where
  sent : sends st <+: (heard st).filter (readable crc)
  running : st.phase = .running → sends st = (heard st).filter (readable crc)

variable {crc}

theorem replies_init (ip : String) (port : UInt16) : Replies crc (init ip port) :=
  ⟨List.prefix_refl _, fun _ => rfl⟩

/-- The backend takes commands and adds events. -/
theorem Replies.backend {st : ServerState} (h : Replies crc st) {peer : GamePeer}
    (hcmd : peer.cmdTx.log = st.peer.cmdTx.log)
    (hevents : peer.eventRx.received = st.peer.eventRx.received) :
    Replies crc { st with peer := peer } := by
  have hsends : sends { st with peer := peer } = sends st := by rw [sends, hcmd, sends]
  have hheard : heard { st with peer := peer } = heard st := by rw [heard, hevents, heard]
  exact ⟨by rw [hsends, hheard]; exact h.sent,
    fun hphase => by rw [hsends, hheard]; exact h.running hphase⟩

/-- How an event is answered, by a server whose answers are up to date until then. -/
theorem replies_handleEvent {st : ServerState} (e : GameNetworkEvent) {before : List Transfer}
    (hsends : sends st = before.filter (readable crc))
    (hheard : heard st = before ++ e.delivered.toList) : Replies crc (handleEvent crc st e) := by
  have quiet : (∀ m, e.delivered = some m → readable crc m = false) → ∀ st' : ServerState,
      st'.peer = st.peer → Replies crc st' := by
    intro hnone st' hpeer
    have hlast : e.delivered.toList.filter (readable crc) = [] := by
      rw [List.filter_eq_nil_iff]
      intro m hm
      rw [hnone m (Option.mem_toList.mp hm)]
      exact Bool.false_ne_true
    have hup : sends st' = (heard st').filter (readable crc) := by
      rw [sends, heard, hpeer, ← sends, ← heard, hheard, List.filter_append, hlast,
        List.append_nil, hsends]
    exact ⟨hup ▸ List.prefix_refl _, fun _ => hup⟩
  cases e with
  | message c stream data =>
    rw [handleEvent]
    split
    · next hnone =>
      refine quiet (fun m hm => ?_) st rfl
      cases hm
      rw [readable, hnone]
      rfl
    · next packet hpacket =>
      have hread : readable crc { connection := c, stream := stream, data := data } = true := by
        rw [readable, hpacket]
        rfl
      have hall : (heard st).filter (readable crc) =
          sends st ++ [{ connection := c, stream := stream, data := data }] := by
        rw [hheard, hsends, List.filter_append, GameNetworkEvent.delivered, Option.toList_some,
          List.filter_cons_of_pos hread, List.filter_nil]
      have behind : ∀ phase, phase ≠ .running → Replies crc { st with phase := phase } := by
        refine fun phase hphase => ⟨?_, fun h => absurd h hphase⟩
        show sends st <+: (heard st).filter (readable crc)
        rw [hall]
        exact List.prefix_append _ _
      cases hsend : st.peer.send c stream (packet.toBytes crc) with
      | ok peer =>
        obtain ⟨-, rfl⟩ := sendCmd_eq_ok hsend
        have hup : (st.peer.cmdTx.send (.send c stream (packet.toBytes crc))).log.filterMap
            BackendCommand.sent = (heard st).filter (readable crc) := by
          rw [hall, Channel.log_send, List.filterMap_append,
            BenchmarkPacket.toBytes_of_fromBytes hpacket]
          rfl
        exact ⟨hup ▸ List.prefix_refl _, fun _ => hup⟩
      | err e => exact behind _ (fun h => by cases h)
      | panic => exact behind _ (fun h => by cases h)
  | connected c => exact quiet (fun m hm => by cases hm) _ rfl
  | disconnected c => exact quiet (fun m hm => by cases hm) _ rfl
  | error c inner => exact quiet (fun m hm => by cases hm) _ rfl
  | streamCreated c stream => exact quiet (fun m hm => by cases hm) _ rfl
  | streamClosed c stream => exact quiet (fun m hm => by cases hm) _ rfl

theorem replies_step {st st' : ServerState} (h : Replies crc st)
    (hstep : step crc st = some st') : Replies crc st' := by
  simp only [step] at hstep
  split at hstep
  · next hphase =>
    cases hstep
    have hup := h.running hphase
    unfold poll
    split
    · exact ⟨h.sent, fun _ => hup⟩
    · exact h
    · next e peer hpoll =>
      obtain ⟨rx, hrecv, rfl⟩ := poll_eq_some hpoll
      refine replies_handleEvent e hup ?_
      rw [heard, (Channel.recv_eq_some hrecv).2, List.filterMap_append, heard,
        List.filterMap_cons, List.filterMap_nil]
      cases e.delivered <;> rfl
  · cases hstep

/-- The server only answers. -/
theorem uses_step {st st' : ServerState} (hstep : step crc st = some st') :
    Uses (fun cmd => ∃ m, cmd.sent = some m) st.peer st'.peer := by
  have handled : ∀ (st : ServerState) e,
      Uses (fun cmd => ∃ m, cmd.sent = some m) st.peer (handleEvent crc st e).peer := by
    intro st e
    cases e with
    | message c stream data =>
      rw [handleEvent]
      split
      · exact .refl _ _
      · next packet _ =>
        cases hsend : st.peer.send c stream (packet.toBytes crc) with
        | ok peer =>
          obtain ⟨-, rfl⟩ := sendCmd_eq_ok hsend
          exact uses_issue ⟨_, rfl⟩ rfl rfl
        | err e => exact .refl _ _
        | panic => exact .refl _ _
    | connected c => exact .refl _ _
    | disconnected c => exact .refl _ _
    | error c inner => exact .refl _ _
    | streamCreated c stream => exact .refl _ _
    | streamClosed c stream => exact .refl _ _
  simp only [step] at hstep
  split at hstep
  · cases hstep
    unfold poll
    split
    · exact .refl _ _
    · exact .refl _ _
    · next e peer hpoll =>
      obtain ⟨rx, hrecv, rfl⟩ := poll_eq_some hpoll
      exact (uses_poll hrecv).trans (handled { st with peer := { st.peer with eventRx := rx } } e)
  · cases hstep

/-! ## One connection -/

/-- The server answers all that it polls on a connection if it can read it. -/
theorem readable_heardOn {st : ServerState} {uuid : Uuid}
    (hread : ∀ x ∈ heardOn uuid st.peer.eventRx.received,
      (BenchmarkPacket.fromBytes crc x.2).isSome = true) :
    ((heard st).filter (readable crc)).filterMap (carried uuid) =
      heardOn uuid st.peer.eventRx.received := by
  rw [heardOn, List.filterMap_filter]
  refine List.filterMap_congr fun m hm => ?_
  split
  · rfl
  · next hunread =>
    cases hcarried : carried uuid m with
    | none => rfl
    | some x =>
      have hx := hread x (List.mem_filterMap.mpr ⟨m, hm, hcarried⟩)
      rw [carried_eq_some] at hcarried
      rw [readable, hcarried] at hunread
      exact absurd hx hunread

/-- What the server has passed to `send` for a connection is what it has polled there, up to the
answer that failed. -/
theorem Replies.answers {st : ServerState} (h : Replies crc st) {uuid : Uuid}
    (hread : ∀ x ∈ heardOn uuid st.peer.eventRx.received,
      (BenchmarkPacket.fromBytes crc x.2).isSome = true) :
    sendsTo uuid st.peer.cmdTx.log <+: heardOn uuid st.peer.eventRx.received := by
  rw [← readable_heardOn hread]
  exact h.sent.filterMap _

end Replies

end Server
end GameSockets

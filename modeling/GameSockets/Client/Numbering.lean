/-
How the client numbers its packets: the ids sent on a stream are 0, 1, 2, … in
order, and the stream's counter is the number of packets sent on it.
-/
import GameSockets.Client.Pacing
import Mathlib.Data.List.Nodup
import Mathlib.Data.List.Range

namespace GameSockets
namespace Client

open Library

/-- The id field of an encoded packet. -/
def packetId (data : Bytes) : UInt64 := getU64 (data.take 8)

/-- Everything passed to `client.send`. -/
def sends (st : ClientState) : List Transfer := st.peer.cmdTx.log.filterMap BackendCommand.sent

/-- The ids of the packets of one stream. -/
def idsOn (stream : GameStream) (ms : List Transfer) : List UInt64 :=
  (ms.filter (·.stream = stream)).map fun m => packetId m.data

/-- The first `k` ids. -/
def firstIds (k : Nat) : List UInt64 := (List.range k).map UInt64.ofNat

theorem firstIds_succ (k : Nat) : firstIds (k + 1) = firstIds k ++ [UInt64.ofNat k] := by
  rw [firstIds, List.range_succ, List.map_append]
  rfl

theorem mem_firstIds {k : Nat} (hk : k ≤ UInt64.size) {id : UInt64} :
    id ∈ firstIds k ↔ id.toNat < k := by
  rw [firstIds, List.mem_map]
  constructor
  · rintro ⟨i, hi, rfl⟩
    rw [List.mem_range] at hi
    rwa [UInt64.toNat_ofNat_of_lt' (Nat.lt_of_lt_of_le hi hk)]
  · intro h
    exact ⟨id.toNat, List.mem_range.mpr h, UInt64.ofNat_toNat⟩

theorem nodup_firstIds {k : Nat} (hk : k ≤ UInt64.size) : (firstIds k).Nodup := by
  refine List.Nodup.map_on ?_ List.nodup_range
  intro i hi j hj h
  rw [List.mem_range] at hi hj
  rw [← UInt64.toNat_ofNat_of_lt' (Nat.lt_of_lt_of_le hi hk), h,
    UInt64.toNat_ofNat_of_lt' (Nat.lt_of_lt_of_le hj hk)]

theorem idsOn_append (stream : GameStream) (ms ns : List Transfer) :
    idsOn stream (ms ++ ns) = idsOn stream ms ++ idsOn stream ns := by
  rw [idsOn, List.filter_append, List.map_append]
  rfl

theorem packetId_toBytes (crc : Bytes → UInt32) (p : BenchmarkPacket) :
    packetId (p.toBytes crc) = p.id := by
  have htake : (p.toBytes crc).take 8 = putU64 p.id := by
    simp only [BenchmarkPacket.toBytes, List.append_assoc]
    exact List.take_left' (length_putU64 _)
  rw [packetId, htake, getU64_putU64]

section Numbering

variable (crc : Bytes → UInt32) (entropy : Bytes) (args : CliArgs)

/-- The packets of each stream are numbered from zero.  A panic may leave the
counter behind. -/
structure Numbered (st : ClientState) : Prop where
  encoded : ∀ m ∈ sends st, ∃ p : BenchmarkPacket, m.data = p.toBytes crc
  ids : ∀ stream, ∃ k ≤ UInt64.size, idsOn stream (sends st) = firstIds k ∧
    (st.phase ≠ .panicked → ((st.packetSequences stream).getD 0).toNat = k)

/-- What the functions of the pacing block keep. -/
structure Paced (st st' : ClientState) : Prop where
  recorder : st'.recorder = st.recorder
  eventRx : st'.peer.eventRx = st.peer.eventRx
  sends : sends st <+: sends st'
  numbered : Numbered crc st → Numbered crc st'

variable {crc}

theorem numbered_of_eq {st st' : ClientState} (h : Numbered crc st) (hs : sends st' = sends st)
    (hq : st'.packetSequences = st.packetSequences)
    (hp : st'.phase ≠ .panicked → st.phase ≠ .panicked) : Numbered crc st' := by
  refine ⟨by rw [hs]; exact h.encoded, fun stream => ?_⟩
  obtain ⟨k, hk, hids, hseq⟩ := h.ids stream
  exact ⟨k, hk, by rw [hs, hids], fun hne => by rw [hq]; exact hseq (hp hne)⟩

theorem not_panicked {st : ClientState} (h : st.phase = .pacing) : st.phase ≠ .panicked := by
  rw [h]
  exact fun h => by cases h

theorem Paced.trans {st st' st'' : ClientState} (h : Paced crc st st') (h' : Paced crc st' st'') :
    Paced crc st st'' :=
  ⟨h'.recorder.trans h.recorder, h'.eventRx.trans h.eventRx, h.sends.trans h'.sends,
    fun hn => h'.numbered (h.numbered hn)⟩

/-- A change of the timers, the flags or the phase. -/
theorem paced_of_peer_eq {st st' : ClientState} (hr : st'.recorder = st.recorder)
    (hpeer : st'.peer = st.peer) (hq : st'.packetSequences = st.packetSequences)
    (hp : st'.phase ≠ .panicked → st.phase ≠ .panicked) : Paced crc st st' := by
  have hs : sends st' = sends st := by rw [sends, hpeer, sends]
  exact ⟨hr, by rw [hpeer], ⟨[], by rw [hs, List.append_nil]⟩,
    fun h => numbered_of_eq h hs hq hp⟩

variable {entropy args}

theorem sends_post (conn : GameConnection) (stream : GameStream) (micros : UInt64)
    (st : ClientState) :
    sends (post crc entropy args conn stream micros st) =
      sends st ++
        [{ connection := conn, stream := stream,
           data := (nextPacket entropy args stream micros st).toBytes crc }] := by
  rw [sends, post, Channel.log_send, List.filterMap_append]
  rfl

/-- A packet that is not counted is the last one. -/
theorem sendPacket_over {stream : GameStream} {st : ClientState}
    (h : ¬ Sendable entropy args stream st) (conn : GameConnection) (micros : UInt64) :
    (sendPacket crc entropy args conn stream micros st).phase.over = true ∧
      sends (sendPacket crc entropy args conn stream micros st) =
        if Fits entropy args ∧ st.peer.alive = true then
          sends (post crc entropy args conn stream micros st)
        else sends st := by
  rw [sendPacket_eq]
  by_cases hfits : Fits entropy args
  · by_cases halive : st.peer.alive = true
    · have hcount : ¬ (counter st stream).toNat + 1 < UInt64.size :=
        fun hcount => h ⟨hfits, halive, hcount⟩
      rw [if_pos hfits, if_pos halive, if_neg hcount, if_pos ⟨hfits, halive⟩]
      exact ⟨rfl, rfl⟩
    · rw [if_pos hfits, if_neg halive, if_neg fun hout => halive hout.2]
      exact ⟨rfl, rfl⟩
  · rw [if_neg hfits, if_neg fun hout => hfits hout.1]
    exact ⟨rfl, rfl⟩

variable (crc entropy args)

/-- The packet sent carries the counter, and the counter goes up by one. -/
theorem paced_sendPacket {st : ClientState} (hphase : st.phase = .pacing) (conn : GameConnection)
    (stream : GameStream) (micros : UInt64) :
    Paced crc st (sendPacket crc entropy args conn stream micros st) := by
  have hrun := not_panicked hphase
  -- the state once the packet is with the backend, whatever the counter does next
  have sent : ∀ st' : ClientState,
      sends st' = sends (post crc entropy args conn stream micros st) →
      (st'.phase ≠ .panicked → ∀ other, (counter st' other).toNat =
        (counter st other).toNat + if other = stream then 1 else 0) →
      Numbered crc st → Numbered crc st' := by
    intro st' hs hq hn
    rw [sends_post] at hs
    refine ⟨?_, fun other => ?_⟩
    · intro m hm
      rw [hs, List.mem_append, List.mem_singleton] at hm
      rcases hm with hm | rfl
      · exact hn.encoded m hm
      · exact ⟨nextPacket entropy args stream micros st, rfl⟩
    · obtain ⟨k, hk, hids, hseq⟩ := hn.ids other
      have hcount : (counter st other).toNat = k := hseq hrun
      by_cases ho : other = stream
      · subst ho
        have hlt : k < UInt64.size := hcount ▸ UInt64.toNat_lt_size _
        refine ⟨k + 1, hlt, ?_, fun hne => (hq hne other).trans (by rw [if_pos rfl]; omega)⟩
        have hlast : packetId ((nextPacket entropy args other micros st).toBytes crc) =
            UInt64.ofNat k := by
          rw [packetId_toBytes, ← hcount, UInt64.ofNat_toNat, nextPacket]
        rw [hs, idsOn_append, hids, firstIds_succ, ← hlast]
        simp [idsOn]
      · refine ⟨k, hk, ?_, fun hne => (hq hne other).trans (by rw [if_neg ho]; exact hcount)⟩
        rw [hs, idsOn_append, hids]
        simp [idsOn, Ne.symm ho]
  have hpre : sends st <+: sends (post crc entropy args conn stream micros st) :=
    ⟨_, (sends_post conn stream micros st).symm⟩
  rw [sendPacket_eq]
  split_ifs with hfits halive hcount
  · refine ⟨rfl, rfl, hpre, sent _ rfl fun _ other => ?_⟩
    by_cases ho : other = stream
    · subst ho
      rw [if_pos rfl]
      exact toNat_counter_count hcount
    · rw [if_neg ho, counter_count_of_ne ho]
      rfl
  · exact ⟨rfl, rfl, hpre, sent _ rfl fun hne => absurd rfl hne⟩
  · exact paced_of_peer_eq rfl rfl rfl fun _ => hrun
  · exact paced_of_peer_eq rfl rfl rfl fun _ => hrun

theorem paced_pieces : Pieces crc entropy args (Paced crc) where
  trans := Paced.trans
  send := fun hphase => paced_sendPacket crc entropy args hphase
  adjust := fun hphase _ _ _ _ _ => paced_of_peer_eq rfl rfl rfl fun _ => not_panicked hphase

theorem paced_pace {st : ClientState} (hphase : st.phase = .pacing) (r : PaceReading) :
    Paced crc st (pace crc entropy args r st) := (paced_pieces crc entropy args).pace r hphase

variable {crc}

/-! ## Polling -/

/-- The row that a message leads to. -/
def rowOf (crc : Bytes → UInt32) (r : PollReading) (start : Option Nat) (m : Transfer) :
    Option BenchmarkRecord :=
  (BenchmarkPacket.fromBytes crc m.data).bind fun packet =>
    if pastWarmup args start r.instant then some (toRecord r m.stream packet) else none

theorem handleEvent_recorder (r : PollReading) (st : ClientState) (e : GameNetworkEvent) :
    (handleEvent crc args r st e).recorder =
      st.recorder ++ (e.delivered.bind (rowOf args crc r st.benchmarkStartTime)).toList := by
  generalize hst : handleEvent crc args r st e = st'
  cases handles_of_handleEvent hst with
  | garbled hnone => simp [GameNetworkEvent.delivered, rowOf, hnone]
  | early hpacket hearly => simp [GameNetworkEvent.delivered, rowOf, hpacket, hearly]
  | recorded hpacket hlate => simp [GameNetworkEvent.delivered, rowOf, hpacket, hlate]
  | _ => exact (List.append_nil st.recorder).symm

/-- What a call of the peer other than `send` keeps. -/
structure Handled (st st' : ClientState) : Prop where
  sends : sends st' = sends st
  eventRx : st'.peer.eventRx = st.peer.eventRx
  packetSequences : st'.packetSequences = st.packetSequences

variable (crc)

theorem handled_handleEvent (r : PollReading) (st : ClientState) (e : GameNetworkEvent) :
    Handled st (handleEvent crc args r st e) := by
  generalize hst : handleEvent crc args r st e = st'
  cases handles_of_handleEvent hst with
  | connected hcan hasks hnext => exact ⟨hasks.sent, hasks.eventRx, rfl⟩
  | refused hcan hasks hover => exact ⟨hasks.sent, hasks.eventRx, rfl⟩
  | _ => exact ⟨rfl, rfl, rfl⟩

/-- A poll takes an event off the queue and handles it, or only moves the phase. -/
theorem poll_cases (r : PollReading) (st : ClientState) :
    (∃ e peer, st.peer.poll = .ok (some (e, peer)) ∧
        poll crc args r st = handleEvent crc args r { st with peer := peer } e) ∨
      (∀ e peer, st.peer.poll ≠ .ok (some (e, peer))) ∧
        ∃ phase, phase ≠ .panicked ∧ poll crc args r st = { st with phase := phase } := by
  unfold poll
  cases st.peer.poll with
  | error e =>
    exact Or.inr ⟨fun _ _ h => (nomatch h), .returned (.error e), fun h => (nomatch h), rfl⟩
  | ok found =>
    cases found with
    | none => exact Or.inr ⟨fun _ _ h => (nomatch h), .pacing, fun h => (nomatch h), rfl⟩
    | some found => exact Or.inl ⟨found.1, found.2, rfl, rfl⟩

/-- What a poll does to the packets sent, the events and the rows. -/
theorem poll_spec (r : PollReading) (st : ClientState) :
    sends (poll crc args r st) = sends st ∧
      (poll crc args r st).peer.eventRx.log = st.peer.eventRx.log ∧
      ∀ row ∈ (poll crc args r st).recorder, row ∈ st.recorder ∨
        ∃ m ∈ st.peer.eventRx.log.filterMap GameNetworkEvent.delivered,
          rowOf args crc r st.benchmarkStartTime m = some row := by
  rcases poll_cases crc args r st with ⟨e, peer, hpoll, heq⟩ | ⟨-, phase, -, heq⟩
  · obtain ⟨rx, hrecv, rfl⟩ := GamePeer.poll_eq_some hpoll
    have hhandled :=
      handled_handleEvent crc args r { st with peer := { st.peer with eventRx := rx } } e
    rw [heq]
    refine ⟨?_, ?_, fun row hrow => ?_⟩
    · rw [hhandled.sends, sends, sends]
    · rw [hhandled.eventRx]
      exact Channel.log_recv hrecv
    · rw [handleEvent_recorder, List.mem_append, Option.mem_toList] at hrow
      rcases hrow with hrow | hrow
      · exact Or.inl hrow
      · obtain ⟨m, hm, hrow⟩ := Option.bind_eq_some_iff.mp hrow
        exact Or.inr ⟨m, List.mem_filterMap.mpr ⟨e, Channel.mem_log_of_recv hrecv, hm⟩, hrow⟩
  · rw [heq]
    exact ⟨rfl, rfl, fun row hrow => Or.inl hrow⟩

variable {crc}

theorem numbered_handled {st st' : ClientState} (h : Handled st st') (hphase : st.phase = .polling)
    (hn : Numbered crc st) : Numbered crc st' :=
  numbered_of_eq hn h.sends h.packetSequences fun _ hp => by
    rw [hphase] at hp
    cases hp

/-! ## Every step -/

theorem numbered_init (t60 t20 : Nat) : Numbered crc (init args t60 t20) :=
  ⟨fun m hm => by simp [sends, init, GamePeer.new, BackendCommand.sent] at hm,
    fun _ => ⟨0, Nat.zero_le _, rfl, fun _ => rfl⟩⟩

theorem numbered_step {st st' : ClientState} {a : Action} (hn : Numbered crc st)
    (h : step crc entropy args st a = some st') : Numbered crc st' := by
  cases steps_of_step h with
  | @poll r hphase =>
    rcases poll_cases crc args r st with ⟨e, peer, hpoll, heq⟩ | ⟨-, phase, -, heq⟩
    · obtain ⟨rx, -, rfl⟩ := GamePeer.poll_eq_some hpoll
      rw [heq]
      have hn' : Numbered crc { st with peer := { st.peer with eventRx := rx } } :=
        numbered_of_eq hn rfl rfl id
      exact numbered_handled (handled_handleEvent crc args r _ e) hphase hn'
    · rw [heq]
      exact numbered_of_eq hn rfl rfl fun _ hp => by rw [hphase] at hp; cases hp
  | @pace r hphase =>
    exact (paced_pace crc entropy args hphase r).numbered hn
  | emits =>
    exact numbered_of_eq hn rfl rfl id
  | stops =>
    exact numbered_of_eq hn rfl rfl id

end Numbering

end Client
end GameSockets

/-
The rows of the results file against the packets polled.

Every row comes from a poll of its own, in the order of the polls.  The filter of the loop lets a
packet through once enough time has passed, so on a clock that never goes back the rows are those
of the last packets polled.
-/
import GameSockets.Client.Warmup
import GameSockets.Stats

namespace GameSockets
namespace Client

open Library

/-- The payloads that the client has polled. -/
def heard (st : ClientState) : List Transfer :=
  st.peer.eventRx.received.filterMap GameNetworkEvent.delivered

/-- What a row says of its packet: stream, id and payload size. -/
def rowKey (row : BenchmarkRecord) : UInt16 × UInt64 × UInt64 :=
  (row.streamId, row.packetId, row.payloadSize)

/-- The same of an encoded packet. -/
def packetKey (m : Transfer) : UInt16 × UInt64 × UInt64 :=
  (m.stream.streamId, packetId m.data,
    UInt64.ofNat (m.data.length - BenchmarkPacket.headerSize))

/-- The timestamp of an encoded packet. -/
def packetTimestamp (data : Bytes) : UInt64 := getU64 ((data.drop 8).take 8)

/-- The ids of one stream. -/
def idsOf (id : UInt16) (keys : List (UInt16 × UInt64 × UInt64)) : List UInt64 :=
  (keys.filter (·.1 = id)).map (·.2.1)

theorem idsOf_rowKey (records : List BenchmarkRecord) (id : UInt16) :
    idsOf id (records.map rowKey) = (Stats.streamRecords records id).map (·.packetId) := by
  rw [idsOf, List.filter_map, List.map_map, Stats.streamRecords]
  rfl

theorem idsOf_packetKey (ms : List Transfer) (id : UInt16) :
    idsOf id (ms.map packetKey) = idsOn { streamId := id } ms := by
  have hstream : ∀ m : Transfer,
      decide (m.stream.streamId = id) = decide (m.stream = { streamId := id }) := by
    intro m
    rw [decide_eq_decide]
    constructor
    · rintro rfl
      rfl
    · exact congrArg GameStream.streamId
  rw [idsOf, List.filter_map, List.map_map, idsOn]
  refine congrArg (List.map _) (List.filter_congr fun m _ => hstream m)

theorem idsOf_sublist {keys keys' : List (UInt16 × UInt64 × UInt64)} (h : keys.Sublist keys')
    (id : UInt16) : (idsOf id keys).Sublist (idsOf id keys') := (h.filter _).map _

theorem firstIds_increasing {k : Nat} (hk : k ≤ UInt64.size) :
    (firstIds k).Pairwise (· < ·) := by
  rw [firstIds, List.pairwise_map]
  refine List.pairwise_lt_range.imp_of_mem fun hi hj hlt => ?_
  rw [List.mem_range] at hi hj
  rw [UInt64.lt_iff_toNat_lt, UInt64.toNat_ofNat_of_lt' (Nat.lt_of_lt_of_le hi hk),
    UInt64.toNat_ofNat_of_lt' (Nat.lt_of_lt_of_le hj hk)]
  exact hlt

section Records

variable {crc : Bytes → UInt32} {entropy : Bytes} {args : CliArgs}

theorem packetKey_of_fromBytes {m : Transfer} {packet : BenchmarkPacket}
    (h : BenchmarkPacket.fromBytes crc m.data = some packet) (r : PollReading) :
    rowKey (toRecord r m.stream packet) = packetKey m := by
  obtain ⟨-, hid, -, hpayload, -⟩ := BenchmarkPacket.fromBytes_eq_some h
  rw [rowKey, toRecord, packetKey, packetId, hid, hpayload, List.length_drop]
  rfl

/-- The row is that of the encoded packet: its time is what has passed since the packet was
stamped. -/
structure Measures (row : BenchmarkRecord) (m : Transfer) : Prop where
  key : rowKey row = packetKey m
  rttUs : row.rttUs = saturatingSub row.recvTimestamp (packetTimestamp m.data)

theorem measures_toRecord {m : Transfer} {packet : BenchmarkPacket}
    (h : BenchmarkPacket.fromBytes crc m.data = some packet) (r : PollReading) :
    Measures (toRecord r m.stream packet) m := by
  obtain ⟨-, -, htimestamp, -, -⟩ := BenchmarkPacket.fromBytes_eq_some h
  refine ⟨packetKey_of_fromBytes h r, ?_⟩
  rw [packetTimestamp, ← htimestamp]
  rfl

theorem key_of_measures {rows : List BenchmarkRecord} {ms : List Transfer}
    (h : List.Forall₂ Measures rows ms) : rows.map rowKey = ms.map packetKey := by
  induction h with
  | nil => rfl
  | cons hrow _ ih => rw [List.map_cons, List.map_cons, hrow.key, ih]

/-- The rows are those of some of the packets polled. -/
def RowsPolled (st : ClientState) : Prop :=
  ∃ ms, ms.Sublist (heard st) ∧ List.Forall₂ Measures st.recorder ms

theorem heard_recv {st : ClientState} {e : GameNetworkEvent} {rx : Channel GameNetworkEvent}
    (hrecv : st.peer.eventRx.recv = some (e, rx)) :
    heard { st with peer := { st.peer with eventRx := rx } } = heard st ++ e.delivered.toList := by
  rw [heard, (Channel.recv_eq_some hrecv).2, List.filterMap_append, heard, List.filterMap_cons,
    List.filterMap_nil]
  cases e.delivered <;> rfl

theorem rowsPolled_poll {st : ClientState} (h : RowsPolled st) (r : PollReading) :
    RowsPolled (poll crc args r st) := by
  rcases poll_cases crc args r st with ⟨e, peer, hpoll, heq⟩ | ⟨-, phase, -, heq⟩
  · obtain ⟨rx, hrecv, rfl⟩ := GamePeer.poll_eq_some hpoll
    have hhandled := handled_handleEvent crc args r
      { st with peer := { st.peer with eventRx := rx } } e
    obtain ⟨ms, hms, hrows⟩ := h
    rw [heq, RowsPolled, heard, hhandled.eventRx, ← heard, heard_recv hrecv, handleEvent_recorder]
    cases hrow : e.delivered.bind (rowOf args crc r st.benchmarkStartTime) with
    | none =>
      refine ⟨ms, hms.trans (List.sublist_append_left _ _), ?_⟩
      rw [Option.toList_none, List.append_nil]
      exact hrows
    | some row =>
      obtain ⟨m, hm, hrow⟩ := Option.bind_eq_some_iff.mp hrow
      obtain ⟨packet, hpacket, hlate⟩ := Option.bind_eq_some_iff.mp hrow
      split at hlate
      · cases hlate
        rw [hm, Option.toList_some, Option.toList_some]
        exact ⟨ms ++ [m], hms.append (List.Sublist.refl _),
          List.rel_append hrows (.cons (measures_toRecord hpacket r) .nil)⟩
      · cases hlate
  · rw [heq]
    exact h

theorem rowsPolled_step {st st' : ClientState} {a : Action} (h : RowsPolled st)
    (hstep : step crc entropy args st a = some st') : RowsPolled st' := by
  cases steps_of_step hstep with
  | @poll r hphase => exact rowsPolled_poll h r
  | @pace r hphase =>
    have hframe := @frame_pace crc entropy args r st hphase
    rw [RowsPolled, hframe.recorder, heard, hframe.eventRx]
    exact h
  | emits => exact h
  | stops => exact h

/-! ## A clock that never goes back -/

/-- The polls are in the order of their times. -/
def Chronological (seen : List Polled) : Prop :=
  seen.Pairwise fun p q => p.reading.instant ≤ q.reading.instant

instance (seen : List Polled) : Decidable (Chronological seen) :=
  inferInstanceAs (Decidable (List.Pairwise _ seen))

/-- The packets among the events polled. -/
def packetsOf (crc : Bytes → UInt32) (seen : List Polled) : List Transfer :=
  (seen.filterMap (·.event.delivered)).filter fun m =>
    (BenchmarkPacket.fromBytes crc m.data).isSome

theorem packetsOf_append (seen seen' : List Polled) :
    packetsOf crc (seen ++ seen') = packetsOf crc seen ++ packetsOf crc seen' := by
  rw [packetsOf, List.filterMap_append, List.filter_append]
  rfl

/-- A packet that is polled late enough gives its row, and anything else gives none. -/
theorem row_cases (p : Polled) (late : Nat → Nat → Bool) (start : Option Nat) :
    (p.row crc late start).toList.map rowKey = (packetsOf crc [p]).map packetKey ∨
      p.row crc late start = none ∧ ∀ t ∈ start, late t p.reading.instant = false := by
  cases hm : p.event.delivered with
  | none => exact Or.inl (by simp [Polled.row, packetsOf, hm])
  | some m =>
    cases hpacket : BenchmarkPacket.fromBytes crc m.data with
    | none => exact Or.inl (by simp [Polled.row, packetsOf, hm, hpacket])
    | some packet =>
      cases start with
      | none => exact Or.inr ⟨by simp [Polled.row, hm], fun t ht => by cases ht⟩
      | some t =>
        cases hlate : late t p.reading.instant with
        | true =>
          have hkey := packetKey_of_fromBytes hpacket p.reading
          exact Or.inl (by simp [Polled.row, packetsOf, hm, hpacket, hlate, hkey])
        | false =>
          refine Or.inr ⟨by simp [Polled.row, hm, hlate], fun t' ht' => ?_⟩
          cases Option.mem_some.mp ht'
          exact hlate

/-- Behind the first row some packet was polled late enough. -/
theorem late_of_rows {late : Nat → Nat → Bool} (seen : List Polled)
    (h : rowsFrom crc late none seen ≠ []) :
    ∃ t ∈ connectedAt seen, ∃ p ∈ seen, late t p.reading.instant = true := by
  induction seen using List.reverseRecOn with
  | nil => exact absurd rfl h
  | append_singleton seen p ih =>
    rw [connectedAt_append_singleton]
    by_cases hrows : rowsFrom crc late none seen = []
    · rw [rowsFrom_append_singleton, hrows, List.nil_append, Option.none_or] at h
      cases hrow : p.row crc late (connectedAt seen) with
      | none =>
        rw [hrow] at h
        exact absurd rfl h
      | some row =>
        obtain ⟨-, t, ht, hlate⟩ := isPacket_of_row hrow
        rw [Option.mem_def.mp ht]
        exact ⟨t, rfl, p, List.mem_append_right _ (List.mem_singleton_self _), hlate⟩
    · obtain ⟨t, ht, q, hq, hlate⟩ := ih hrows
      rw [Option.mem_def.mp ht]
      exact ⟨t, rfl, q, List.mem_append_left _ hq, hlate⟩

theorem moreSeconds_mono {t now now' : Nat} (hle : now ≤ now')
    (h : moreSeconds args t now = true) : moreSeconds args t now' = true := by
  rw [moreSeconds_iff] at h ⊢
  omega

/-- The rows are those of the last packets polled. -/
theorem rowsFrom_suffix (seen : List Polled) (hclock : Chronological seen) :
    (rowsFrom crc (moreSeconds args) none seen).map rowKey <:+
      (packetsOf crc seen).map packetKey := by
  induction seen using List.reverseRecOn with
  | nil => exact List.suffix_refl _
  | append_singleton seen p ih =>
    obtain ⟨hseen, -, hlast⟩ := List.pairwise_append.mp hclock
    rw [rowsFrom_append_singleton, Option.none_or, packetsOf_append, List.map_append,
      List.map_append]
    rcases @row_cases crc p (moreSeconds args) (connectedAt seen) with hrow | ⟨hrow, hearly⟩
    · obtain ⟨before, hbefore⟩ := ih hseen
      rw [hrow, ← hbefore, List.append_assoc]
      exact List.suffix_append _ _
    · -- a packet that is too early comes before every row
      have hnone : rowsFrom crc (moreSeconds args) none seen = [] := by
        by_contra hrows
        obtain ⟨t, ht, q, hq, hlate⟩ := late_of_rows seen hrows
        have hle := hlast q hq p (List.mem_singleton_self _)
        have hnow := moreSeconds_mono hle hlate
        rw [hearly t ht] at hnow
        cases hnow
      rw [hrow, hnone]
      exact List.nil_suffix

/-! ## The polls of a state -/

/-- The polls that led to a state. -/
structure SeenBy (crc : Bytes → UInt32) (args : CliArgs) (seen : List Polled)
    (st : ClientState) : Prop where
  recorded : Recorded crc args seen st
  events : seen.map (·.event) = st.peer.eventRx.received

theorem seenBy_step {seen : List Polled} {st st' : ClientState} {a : Action}
    (h : SeenBy crc args seen st) (hstep : step crc entropy args st a = some st') :
    SeenBy crc args (seen ++ (polled st a).toList) st' := by
  refine ⟨recorded_step h.recorded hstep, ?_⟩
  rw [List.map_append, h.events]
  cases steps_of_step hstep with
  | @poll r hphase =>
    rcases poll_cases crc args r st with ⟨e, peer, hpoll, heq⟩ | ⟨hno, phase, -, heq⟩
    · obtain ⟨rx, hrecv, rfl⟩ := GamePeer.poll_eq_some hpoll
      have hhandled := handled_handleEvent crc args r
        { st with peer := { st.peer with eventRx := rx } } e
      simp only [polled, hphase, hpoll, Option.toList_some, List.map_cons, List.map_nil]
      rw [heq, hhandled.eventRx]
      exact (Channel.recv_eq_some hrecv).2.symm
    · have hnone : polled st (.poll r) = none := by
        simp only [polled, hphase]
        split
        · next hpoll => exact absurd hpoll (hno _ _)
        · rfl
      rw [hnone, heq]
      exact List.append_nil _
  | @pace r hphase =>
    have hframe := @frame_pace crc entropy args r st hphase
    rw [hframe.eventRx]
    exact List.append_nil _
  | emits => exact List.append_nil _
  | stops => exact List.append_nil _

theorem seenBy_init (t60 t20 : Nat) : SeenBy crc args [] (init args t60 t20) :=
  ⟨⟨rfl, fun _ => rfl⟩, rfl⟩

/-- The backend takes commands and adds events. -/
theorem SeenBy.backend {seen : List Polled} {st : ClientState} (h : SeenBy crc args seen st)
    {peer : GamePeer} (hevents : peer.eventRx.received = st.peer.eventRx.received) :
    SeenBy crc args seen { st with peer := peer } :=
  ⟨⟨h.recorded.rows, h.recorded.start⟩, h.events.trans hevents.symm⟩

theorem SeenBy.packets {seen : List Polled} {st : ClientState} (h : SeenBy crc args seen st) :
    packetsOf crc seen =
      (heard st).filter fun m => (BenchmarkPacket.fromBytes crc m.data).isSome := by
  rw [packetsOf, heard, ← h.events, List.filterMap_map]
  rfl

end Records

end Client
end GameSockets

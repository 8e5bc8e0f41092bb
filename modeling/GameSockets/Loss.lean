/-
What the statistics say about a lossless run.

The statistics take a stream to have sent every id up to the largest one that was
recorded.  The client numbers its packets from zero when it connects and records
none that it polls during the warmup.  A lossless run is therefore reported without
loss exactly when no stream has a packet polled during the warmup whose id is below
that of a recorded one.
-/
import GameSockets.Client.Numbering
import GameSockets.ZeroLoss
import Mathlib.Data.List.Perm.Basic
import Mathlib.Data.Rat.Floor

namespace GameSockets
namespace Stats

open Library Client

/-! ## The rows of a run -/

/-- An echo reaching the client, and when. -/
structure Arrival where
  message : Transfer
  /-- `benchmark_start_time` -/
  start : Option Nat
  reading : PollReading

/-- The arrival that a poll sees. -/
def arrival (st : ClientState) : Action → Option Arrival
  | .poll r =>
    match st.phase, st.peer.poll with
    | .polling, .ok (some (e, _)) =>
      e.delivered.map fun m => { message := m, start := st.benchmarkStartTime, reading := r }
    | _, _ => none
  | .pace _ => none
  | .backendEmits _ => none
  | .backendStops => none

section Rows

variable (crc : Bytes → UInt32) (entropy : Bytes) (args : CliArgs)

/-- Polled late enough to be recorded. -/
def Arrival.kept (a : Arrival) : Bool := pastWarmup args a.start a.reading.instant

def Arrival.id (a : Arrival) : UInt64 := packetId a.message.data

def Arrival.row (a : Arrival) : Option BenchmarkRecord :=
  rowOf args crc a.reading a.start a.message

/-- The messages polled so far. -/
def messages (st : ClientState) : List Transfer :=
  st.peer.eventRx.received.filterMap GameNetworkEvent.delivered

/-- The arrivals account for the messages polled, the rows recorded and, with the
numbering, the packets sent. -/
structure Observed (seen : List Arrival) (st : ClientState) : Prop where
  messages : seen.map (·.message) = messages st
  rows : st.recorder = seen.filterMap (Arrival.row crc args)
  numbered : Numbered crc st

variable {crc args}

theorem observed_of_eq {seen : List Arrival} {st st' : ClientState}
    (h : Observed crc args seen st) (hrx : st'.peer.eventRx.received = st.peer.eventRx.received)
    (hrec : st'.recorder = st.recorder) (hnum : Numbered crc st') : Observed crc args seen st' :=
  ⟨by rw [h.messages, messages, messages, hrx], by rw [hrec, h.rows], hnum⟩

theorem observed_step {seen : List Arrival} {st st' : ClientState} {a : Action}
    (h : Observed crc args seen st) (hstep : step crc entropy args st a = some st') :
    Observed crc args (seen ++ (arrival st a).toList) st' := by
  have hnum := numbered_step entropy args h.numbered hstep
  cases steps_of_step hstep with
  | @poll r hphase =>
    rcases poll_cases crc args r st with ⟨e, peer, hpoll, heq⟩ | ⟨hno, phase, -, heq⟩
    · obtain ⟨rx, hrecv, rfl⟩ := GamePeer.poll_eq_some hpoll
      have hmsgs : messages (poll crc args r st) = messages st ++ e.delivered.toList := by
        rw [messages, heq, (handled_handleEvent crc args r _ e).eventRx,
          (Channel.recv_eq_some hrecv).2, List.filterMap_append]
        cases hm : e.delivered <;> simp [hm, messages]
      have hrec : (poll crc args r st).recorder = st.recorder ++
          (e.delivered.bind (rowOf args crc r st.benchmarkStartTime)).toList := by
        rw [heq, handleEvent_recorder]
      simp only [arrival, hphase, hpoll]
      refine ⟨?_, ?_, hnum⟩
      · rw [hmsgs, List.map_append, h.messages]
        cases e.delivered <;> rfl
      · rw [hrec, List.filterMap_append, h.rows]
        cases e.delivered with
        | none => simp
        | some m =>
          cases hrow : rowOf args crc r st.benchmarkStartTime m <;>
            simp [Arrival.row, hrow]
    · have hnone : arrival st (.poll r) = none := by
        simp only [arrival, hphase]
        split
        · next hpoll => exact absurd hpoll (hno _ _)
        · rfl
      rw [hnone, Option.toList_none, List.append_nil]
      exact observed_of_eq h (by rw [heq]) (by rw [heq]) hnum
  | @pace r hphase =>
    have hpaced := paced_pace crc entropy args hphase r
    rw [arrival, Option.toList_none, List.append_nil]
    exact observed_of_eq h (by rw [hpaced.eventRx]) hpaced.recorder hnum
  | emits =>
    rw [arrival, Option.toList_none, List.append_nil]
    exact observed_of_eq h rfl rfl hnum
  | stops =>
    rw [arrival, Option.toList_none, List.append_nil]
    exact observed_of_eq h rfl rfl hnum

/-! ## Lossless runs -/

/-- Every packet passed to `client.send` has come back exactly once, unchanged. -/
def Lossless (st : ClientState) : Prop := (messages st).Perm (sends st)

instance (st : ClientState) : Decidable (Lossless st) :=
  inferInstanceAs (Decidable (List.Perm _ _))

/-- A packet polled during the warmup has a lower id than a recorded packet of its
stream. -/
def WarmupGap (args : CliArgs) (seen : List Arrival) : Prop :=
  ∃ early ∈ seen, ∃ late ∈ seen, early.message.stream = late.message.stream ∧
    early.id < late.id ∧ early.kept args = false ∧ late.kept args = true

instance (args : CliArgs) (seen : List Arrival) : Decidable (WarmupGap args seen) := by
  unfold WarmupGap
  infer_instance

def arrivalsOn (stream : GameStream) (seen : List Arrival) : List Arrival :=
  seen.filter (·.message.stream = stream)

theorem mem_arrivalsOn {stream : GameStream} {seen : List Arrival} {a : Arrival} :
    a ∈ arrivalsOn stream seen ↔ a ∈ seen ∧ a.message.stream = stream := by
  rw [arrivalsOn, List.mem_filter, decide_eq_true_eq]

theorem row_eq {a : Arrival} {p : BenchmarkPacket} (hp : a.message.data = p.toBytes crc) :
    a.row crc args =
      if a.kept args then some (toRecord a.reading a.message.stream p) else none := by
  rw [Arrival.row, rowOf, hp, BenchmarkPacket.fromBytes_toBytes, Option.bind_some]
  rfl

variable (args)

/-- The ids recorded for a stream are those of its arrivals after the warmup. -/
theorem ids_streamRecords (id : UInt16) {seen : List Arrival}
    (henc : ∀ a ∈ seen, ∃ p : BenchmarkPacket, a.message.data = p.toBytes crc) :
    (streamRecords (seen.filterMap (Arrival.row crc args)) id).map (·.packetId) =
      ((arrivalsOn { streamId := id } seen).filter (·.kept args)).map Arrival.id := by
  induction seen with
  | nil => rfl
  | cons a seen ih =>
    have ih := ih fun b hb => henc b (List.mem_cons_of_mem _ hb)
    obtain ⟨p, hp⟩ := henc a List.mem_cons_self
    have hid : a.id = p.id := by rw [Arrival.id, hp, packetId_toBytes]
    have hstream : a.message.stream.streamId = id ↔ a.message.stream = { streamId := id } := by
      rw [GameStream.mk.injEq]
    unfold streamRecords arrivalsOn at ih ⊢
    rw [List.filterMap_cons, row_eq hp]
    by_cases hkept : a.kept args
    · by_cases hs : a.message.stream = { streamId := id }
      · simp [hkept, hs, toRecord, hid, ih]
      · simp [hkept, hs, toRecord, hstream.not.mpr hs, ih]
    · by_cases hs : a.message.stream = { streamId := id }
      · simp [hkept, hs, ih]
      · simp [hkept, hs, ih]

variable {args}

/-- The ids of the arrivals on a stream are those of the packets sent on it. -/
theorem ids_arrivalsOn {seen : List Arrival} {st : ClientState}
    (h : Observed crc args seen st) (hlossless : Lossless st) (stream : GameStream) :
    ((arrivalsOn stream seen).map Arrival.id).Perm (idsOn stream (sends st)) := by
  have hids : (arrivalsOn stream seen).map Arrival.id = idsOn stream (messages st) := by
    rw [← h.messages, idsOn, List.filter_map, List.map_map]
    rfl
  rw [hids]
  exact (hlossless.filter _).map _

theorem encoded_of_lossless {seen : List Arrival} {st : ClientState}
    (h : Observed crc args seen st) (hlossless : Lossless st) :
    ∀ a ∈ seen, ∃ p : BenchmarkPacket, a.message.data = p.toBytes crc := by
  intro a ha
  have hmem : a.message ∈ messages st := h.messages ▸ List.mem_map_of_mem ha
  exact h.numbered.encoded _ (hlossless.mem_iff.mp hmem)

/-- What one stream has recorded, against what it has sent. -/
theorem stream_lost_iff {seen : List Arrival} {st : ClientState} (h : Observed crc args seen st)
    (hphase : st.phase ≠ .panicked) (hlossless : Lossless st) (id : UInt16) :
    ∃ k < UInt64.size, ((arrivalsOn { streamId := id } seen).map Arrival.id).Perm (firstIds k) ∧
      ((countStream (streamRecords st.recorder id)).lost = 0 ↔
        ∀ late ∈ arrivalsOn { streamId := id } seen, late.kept args = true → ∀ j < late.id,
          ∃ a ∈ arrivalsOn { streamId := id } seen, a.kept args = true ∧ a.id = j) := by
  obtain ⟨k, -, hids, hseq⟩ := h.numbered.ids { streamId := id }
  have hk : k < UInt64.size := hseq hphase ▸ UInt64.toNat_lt_size _
  have hperm := ids_arrivalsOn h hlossless { streamId := id }
  rw [hids] at hperm
  have hrows := ids_streamRecords args id (encoded_of_lossless h hlossless)
  rw [← h.rows] at hrows
  have hsub : List.Sublist
      (((arrivalsOn { streamId := id } seen).filter (·.kept args)).map Arrival.id)
      ((arrivalsOn { streamId := id } seen).map Arrival.id) := List.filter_sublist.map _
  have hnodup : ((streamRecords st.recorder id).map (·.packetId)).Nodup := by
    rw [hrows]
    exact hsub.nodup (hperm.nodup_iff.mpr (nodup_firstIds hk.le))
  have hlt : ∀ i ∈ (streamRecords st.recorder id).map (·.packetId),
      i.toNat + 1 < UInt64.size := by
    intro i hi
    rw [hrows] at hi
    have := (mem_firstIds hk.le).mp (hperm.mem_iff.mp (hsub.subset hi))
    omega
  refine ⟨k, hk, hperm, ?_⟩
  rw [countStream_lost_eq_zero_iff hnodup hlt, hrows]
  simp only [List.mem_map, List.mem_filter, and_assoc, forall_exists_index, and_imp]
  constructor
  · exact fun hall late hlate hkept j hj => hall _ late hlate hkept rfl j hj
  · rintro hall _ late hlate hkept rfl j hj
    exact hall late hlate hkept j hj

theorem noneLost_iff {seen : List Arrival} {st : ClientState} (h : Observed crc args seen st)
    (hphase : st.phase ≠ .panicked) (hlossless : Lossless st) :
    NoneLost st.recorder ↔ ¬ WarmupGap args seen := by
  constructor
  · rintro hnone ⟨early, hearly, late, hlate, hsame, hlt, hdropped, hkept⟩
    obtain ⟨k, hk, hperm, hiff⟩ :=
      stream_lost_iff h hphase hlossless late.message.stream.streamId
    have hlate' := mem_arrivalsOn.mpr ⟨hlate, rfl⟩
    have hearly' := mem_arrivalsOn.mpr ⟨hearly, hsame⟩
    have hmem : late.message.stream.streamId ∈ streamIds st.recorder := by
      obtain ⟨p, hp⟩ := encoded_of_lossless h hlossless late hlate
      have hrow : late.row crc args = some (toRecord late.reading late.message.stream p) := by
        rw [row_eq hp, if_pos hkept]
      rw [mem_streamIds, h.rows]
      exact ⟨_, List.mem_filterMap.mpr ⟨late, hlate, hrow⟩, rfl⟩
    obtain ⟨a, ha, haKept, haId⟩ := hiff.mp (hnone _ hmem) late hlate' hkept early.id hlt
    have hinj := List.inj_on_of_nodup_map (hperm.nodup_iff.mpr (nodup_firstIds hk.le))
    rw [hinj ha hearly' haId, hdropped] at haKept
    cases haKept
  · intro hgap id hid
    obtain ⟨k, hk, hperm, hiff⟩ := stream_lost_iff h hphase hlossless id
    rw [hiff]
    intro late hlate hkept j hj
    have hj' : j ∈ (arrivalsOn { streamId := id } seen).map Arrival.id := by
      have hlt := (mem_firstIds hk.le).mp (hperm.mem_iff.mp (List.mem_map_of_mem hlate))
      rw [hperm.mem_iff, mem_firstIds hk.le]
      exact Nat.lt_trans (UInt64.lt_iff_toNat_lt.mp hj) hlt
    obtain ⟨a, ha, rfl⟩ := List.mem_map.mp hj'
    refine ⟨a, ha, ?_, rfl⟩
    by_contra hdropped
    rw [mem_arrivalsOn] at ha hlate
    exact hgap ⟨a, ha.1, late, hlate.1, ha.2.trans hlate.2.symm, hj, by simpa using hdropped,
      hkept⟩

variable (crc args)

/-- Both modes of the program report a lossless run without loss exactly when its
warmup left no gap. -/
theorem zeroLoss_iff_not_warmupGap {F : Type} [Field F] [LinearOrder F] [FloorSemiring F]
    (sqrt : F → F) (t60 t20 : Nat) (actions : List Action) (st : ClientState)
    (hrun : Run.run (step crc entropy args) (init args t60 t20) actions = some st)
    (hphase : st.phase ≠ .panicked) (hlossless : Lossless st) :
    let seen := Run.trace (step crc entropy args) arrival (init args t60 t20) actions
    (∀ scenario protocol, (aggregateRuns sqrt scenario protocol [st.recorder]).ZeroLoss ↔
        ¬ WarmupGap args seen) ∧
      ∀ report, analyzeSingleFile sqrt st.recorder = .ok report →
        (report.ZeroLoss ↔ ¬ WarmupGap args seen) := by
  have hinit : Observed crc args [] (init args t60 t20) := ⟨rfl, rfl, numbered_init args t60 t20⟩
  have hobs := Run.invariant_of_trace
    (fun seen s a t h hstep => observed_step entropy h hstep) actions hinit hrun
  rw [List.nil_append] at hobs
  have hiff := noneLost_iff hobs hphase hlossless
  refine ⟨fun scenario protocol => ?_, fun report hreport => ?_⟩
  · rw [aggregateRuns_zeroLoss_iff, List.forall_mem_singleton, hiff]
  · rw [analyzeSingleFile_zeroLoss_iff sqrt hreport, hiff]

end Rows

/-! ## A run with one early echo -/

/-- A client connects, sends the packets of the first two 60 Hz ticks, and loses the
connection.  The arguments are the instants at which the two echoes are polled. -/
def twoPackets (first second : Nat) : List Action :=
  let stream := GameStream.new 1 .unreliable
  let echo (id : UInt64) : GameNetworkEvent :=
    .message Uuid.nil stream
      (BenchmarkPacket.toBytes crc32 { id := id, timestamp := 0, payload := [] })
  let pollAt (instant : Nat) : Action := .poll { instant := instant, micros := 0 }
  let paceAt (now : Nat) : Action :=
    .pace { elapsedAt := now, now := now, micros60hz := 0, micros20hz := 0 }
  [.backendEmits (.connected Uuid.nil), pollAt 0,
    .backendEmits (.streamCreated Uuid.nil stream), pollAt 0, pollAt 0,
    paceAt interval60hz, .backendEmits (echo 0), pollAt first, pollAt first,
    paceAt (2 * interval60hz), .backendEmits (echo 1), pollAt second,
    .backendEmits (.disconnected Uuid.nil), pollAt second, paceAt second]

/-- The end of such a run: whether it is lossless, the packets it recorded, and its
phase. -/
def twoPacketsEnd (first second : Nat) : Option (Bool × List (UInt16 × UInt64) × Phase) :=
  (Run.run (step crc32 [] emptyPackets) (init emptyPackets 0 0)
      (twoPackets first second)).map fun st =>
    (Lossless st, st.recorder.map fun r => (r.streamId, r.packetId), st.phase)

def twoPacketsSeen (first second : Nat) : List Arrival :=
  Run.trace (step crc32 [] emptyPackets) arrival (init emptyPackets 0 0) (twoPackets first second)

/-- Both echoes are polled after the first second, and no loss is reported. -/
theorem zeroLoss_lateEchoes :
    ∃ st, Run.run (step crc32 [] emptyPackets) (init emptyPackets 0 0)
        (twoPackets 1000000000 1000000000) = some st ∧
      st.recorder ≠ [] ∧
        (aggregateRuns (id : ℚ → ℚ) "baseline" "udp" [st.recorder]).ZeroLoss := by
  have hend : twoPacketsEnd 1000000000 1000000000 =
      some (true, [(4, 0), (4, 1)], .returned (.ok ())) := by
    decide +kernel
  have hgap : ¬ WarmupGap emptyPackets (twoPacketsSeen 1000000000 1000000000) := by
    decide +kernel
  obtain ⟨st, hrun, hst⟩ := Option.map_eq_some_iff.mp hend
  simp only [Prod.mk.injEq, decide_eq_true_eq] at hst
  obtain ⟨hlossless, hrows, hphase⟩ := hst
  have hended : st.phase ≠ .panicked := by
    rw [hphase]
    decide
  refine ⟨st, hrun, ?_, ?_⟩
  · intro hnil
    rw [hnil] at hrows
    cases hrows
  · have h := zeroLoss_iff_not_warmupGap crc32 [] emptyPackets (id : ℚ → ℚ) 0 0 _ st hrun hended
      hlossless
    exact (h.1 _ _).mpr hgap

/-- The first echo is polled within the first second.  Nothing is lost, and both
reports say otherwise. -/
theorem loss_earlyEcho :
    ∃ st, Run.run (step crc32 [] emptyPackets) (init emptyPackets 0 0)
        (twoPackets 20000000 1000000000) = some st ∧
      st.phase = .returned (.ok ()) ∧ Lossless st ∧
        ¬ (aggregateRuns (id : ℚ → ℚ) "baseline" "udp" [st.recorder]).ZeroLoss ∧
        ∃ report, analyzeSingleFile (id : ℚ → ℚ) st.recorder = .ok report ∧
          ¬ report.ZeroLoss := by
  have hend : twoPacketsEnd 20000000 1000000000 =
      some (true, [(4, 1)], .returned (.ok ())) := by
    decide +kernel
  obtain ⟨st, hrun, hst⟩ := Option.map_eq_some_iff.mp hend
  simp only [Prod.mk.injEq, decide_eq_true_eq] at hst
  obtain ⟨hlossless, hrows, hphase⟩ := hst
  -- the one row has id 1, so the stream is taken to have sent two packets
  have hlost : ¬ NoneLost st.recorder := by
    intro hnone
    obtain ⟨row, hrow, hfields⟩ := List.map_eq_singleton_iff.mp hrows
    simp only [Prod.mk.injEq] at hfields
    have hmem : (4 : UInt16) ∈ streamIds st.recorder := by
      rw [mem_streamIds, hrow]
      exact ⟨row, List.mem_singleton_self row, hfields.1⟩
    have hrecords : streamRecords st.recorder 4 = [row] := by
      simp [streamRecords, hrow, hfields.1]
    have hzero := hnone 4 hmem
    rw [hrecords] at hzero
    simp [countStream, hfields.2, saturatingSub] at hzero
  have hne : st.recorder.isEmpty = false := by
    rw [List.isEmpty_eq_false_iff]
    intro hnil
    rw [hnil] at hrows
    cases hrows
  refine ⟨st, hrun, hphase, hlossless, ?_, ?_⟩
  · rw [aggregateRuns_zeroLoss_iff, List.forall_mem_singleton]
    exact hlost
  · have hreport : ∃ report, analyzeSingleFile (id : ℚ → ℚ) st.recorder = .ok report := by
      rw [analyzeSingleFile, hne]
      exact ⟨_, rfl⟩
    obtain ⟨report, hreport⟩ := hreport
    exact ⟨report, hreport, (analyzeSingleFile_zeroLoss_iff _ hreport).not.mpr hlost⟩

end Stats
end GameSockets

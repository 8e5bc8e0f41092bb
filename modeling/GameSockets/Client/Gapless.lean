/-
Streams whose rows have no gap.

If a connection loses nothing between two packets of a stream, the client polls a stretch of what
it has sent on the stream.  The loop records every packet once it has begun to, so the recorded
ids follow each other.  The statistics count from id 0, and so the loss of the stream is the number
of its packets before the first recorded one.
-/
import GameSockets.Client.Records
import GameSockets.ZeroLoss

namespace GameSockets

namespace Client

/-- `n` ids from `a` on. -/
def idsFrom (a n : Nat) : List UInt64 := (List.range' a n).map UInt64.ofNat

theorem idsFrom_succ (a n : Nat) : idsFrom a (n + 1) = UInt64.ofNat a :: idsFrom (a + 1) n := by
  rw [idsFrom, List.range'_succ, List.map_cons]
  rfl

/-- A stretch of the ids of a stream. -/
theorem idsFrom_of_infix {ids : List UInt64} {k : Nat} (h : ids <:+: firstIds k) :
    ∃ a, a + ids.length ≤ k ∧ ids = idsFrom a ids.length := by
  obtain ⟨before, after, heq⟩ := h
  rw [firstIds, List.range_eq_range'] at heq
  obtain ⟨front, rest, hrange, hfront, -⟩ := List.map_eq_append_iff.mp heq.symm
  obtain ⟨xs, ys, hsplit, -, hys⟩ := List.map_eq_append_iff.mp hfront
  obtain ⟨m, hm, hfront', -⟩ := List.range'_eq_append_iff.mp hrange
  rw [hsplit] at hfront'
  obtain ⟨a, ha, -, hys'⟩ := List.range'_eq_append_iff.mp hfront'.symm
  have hlen : ids.length = m - a := by rw [← hys, hys', List.length_map, List.length_range']
  refine ⟨a, by omega, ?_⟩
  rw [hlen, ← hys, hys', idsFrom]
  simp

theorem mem_idsFrom {a n : Nat} {id : UInt64} :
    id ∈ idsFrom a n ↔ ∃ i, a ≤ i ∧ i < a + n ∧ UInt64.ofNat i = id := by
  simp only [idsFrom, List.mem_map, List.mem_range'_1, and_assoc]

end Client

namespace Stats

open Client

/-- Ids without a gap lose what is below the first of them. -/
theorem lost_of_idsFrom {records : List BenchmarkRecord} {a : Nat}
    (hids : records.map (·.packetId) = idsFrom a records.length) (hne : records ≠ [])
    (hlt : a + records.length < UInt64.size) : (countStream records).lost.toNat = a := by
  have hpos : 0 < records.length := List.length_pos_of_ne_nil hne
  have hof : ∀ i < a + records.length, (UInt64.ofNat i).toNat = i := fun i hi =>
    UInt64.toNat_ofNat_of_lt' (by omega)
  have hlast := hof (a + records.length - 1) (by omega)
  have hmax : (records.map (·.packetId)).max? =
      some (UInt64.ofNat (a + records.length - 1)) := by
    rw [List.max?_eq_some_iff, hids]
    refine ⟨mem_idsFrom.mpr ⟨_, by omega, by omega, rfl⟩, fun id hid => ?_⟩
    obtain ⟨i, -, hi, rfl⟩ := mem_idsFrom.mp hid
    rw [UInt64.le_iff_toNat_le, hof i hi, hlast]
    omega
  rw [toNat_countStream_lost hmax (by rw [hlast]; omega) (by omega), hlast]
  omega

/-- A stream of the report has rows, and its loss is counted on these. -/
theorem lost_of_report {F : Type} [Field F] [LinearOrder F] [FloorSemiring F] {sqrt : F → F}
    {records : List BenchmarkRecord} {report : SingleFileReport F}
    (hreport : analyzeSingleFile sqrt records = .ok report) {stream : LegacyStreamReport F}
    (hstream : stream ∈ report.streams) :
    ∃ row ∈ (streamRecords records stream.streamId).head?,
      stream.stats.lost = (countStream (streamRecords records stream.streamId)).lost := by
  unfold analyzeSingleFile at hreport
  split at hreport
  · cases hreport
  · cases hreport
    obtain ⟨id, hid, rfl⟩ := List.mem_map.mp hstream
    have hne : streamRecords records id ≠ [] := fun hnil => streamRecords_eq_nil_iff.mp hnil hid
    obtain ⟨row, hrow⟩ := Option.isSome_iff_exists.mp (List.isSome_head?.mpr hne)
    exact ⟨row, hrow, computeSingleRun_lost sqrt _ _⟩

end Stats

namespace Client

section Gapless

variable {crc : Bytes → UInt32} {args : CliArgs} {st : ClientState} {id : UInt16}

/-- The packets of one stream. -/
def onStream (id : UInt16) (ms : List Transfer) : List Transfer :=
  ms.filter (·.stream.streamId = id)

theorem idsOf_onStream (id : UInt16) (ms : List Transfer) :
    idsOf id (ms.map packetKey) = (onStream id ms).map fun m => packetId m.data := by
  rw [idsOf, List.filter_map, List.map_map]
  rfl

/-- The rows of a stream are those of a stretch of the packets that were sent on it. -/
theorem rows_isInfix {seen : List Polled} (hseen : SeenBy crc args seen st)
    (hclock : Chronological seen)
    (hread : ∀ m ∈ heard st, (BenchmarkPacket.fromBytes crc m.data).isSome = true)
    (hheard : onStream id (heard st) <:+: onStream id (sends st)) :
    (st.recorder.map rowKey).filter (·.1 = id) <:+:
      ((sends st).map packetKey).filter (·.1 = id) := by
  have hpackets : packetsOf crc seen = heard st := by
    rw [hseen.packets]
    exact List.filter_eq_self.mpr hread
  have hrows := (@rowsFrom_suffix crc args seen hclock).filter (·.1 = id)
  have keys : ∀ ms : List Transfer,
      (ms.map packetKey).filter (·.1 = id) = (onStream id ms).map packetKey := by
    intro ms
    rw [List.filter_map]
    rfl
  rw [← hseen.recorded.rows, hpackets, keys] at hrows
  rw [keys]
  exact hrows.isInfix.trans (hheard.map packetKey)

/-- The rows of such a stream carry ids without a gap. -/
theorem stream_consecutive (hnum : Numbered crc st) (hphase : st.phase ≠ .panicked)
    (hrows : (st.recorder.map rowKey).filter (·.1 = id) <:+:
      ((sends st).map packetKey).filter (·.1 = id)) :
    ∃ a, a + (Stats.streamRecords st.recorder id).length < UInt64.size ∧
      (Stats.streamRecords st.recorder id).map (·.packetId) =
        idsFrom a (Stats.streamRecords st.recorder id).length := by
  obtain ⟨k, -, hids, hcount⟩ := hnum.ids { streamId := id }
  have hk : k < UInt64.size := hcount hphase ▸ UInt64.toNat_lt_size _
  have hstream : (Stats.streamRecords st.recorder id).map (·.packetId) <:+: firstIds k := by
    rw [← hids, ← idsOf_rowKey, ← idsOf_packetKey]
    exact hrows.map (·.2.1)
  obtain ⟨a, hle, heq⟩ := idsFrom_of_infix hstream
  rw [List.length_map] at hle heq
  exact ⟨a, by omega, heq⟩

/-- The loss that the report shows for such a stream is what was sent before its first row. -/
theorem lost_of_stream {F : Type} [Field F] [LinearOrder F] [FloorSemiring F] {sqrt : F → F}
    (hnum : Numbered crc st) (hphase : st.phase ≠ .panicked) {report : Stats.SingleFileReport F}
    (hreport : Stats.analyzeSingleFile sqrt st.recorder = .ok report)
    {stream : Stats.LegacyStreamReport F} (hstream : stream ∈ report.streams)
    (hrows : (st.recorder.map rowKey).filter (·.1 = stream.streamId) <:+:
      ((sends st).map packetKey).filter (·.1 = stream.streamId)) :
    ∃ row ∈ (Stats.streamRecords st.recorder stream.streamId).head?,
      stream.stats.lost = row.packetId := by
  obtain ⟨row, hrow, hcount⟩ := Stats.lost_of_report hreport hstream
  refine ⟨row, hrow, hcount.trans ?_⟩
  obtain ⟨a, hlt, hids⟩ := stream_consecutive hnum hphase hrows
  generalize Stats.streamRecords st.recorder stream.streamId = rows at hrow hlt hids
  obtain ⟨rest, rfl⟩ := List.head?_eq_some_iff.mp hrow
  have hlost := Stats.lost_of_idsFrom hids (List.cons_ne_nil _ _) hlt
  rw [List.map_cons, List.length_cons, idsFrom_succ, List.cons.injEq] at hids
  rw [← UInt64.toNat_inj, hlost, hids.1]
  exact (UInt64.toNat_ofNat_of_lt' (Nat.lt_of_le_of_lt (Nat.le_add_right _ _) hlt)).symm

end Gapless

end Client

end GameSockets

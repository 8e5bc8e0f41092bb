/-
The loss that the statistics report after a benchmark over TCP.

The connection loses nothing between two packets, of no stream, so the report shows for each
stream what was sent before the loop began to record.  The results file is whole when the client
ends, so the report that is made of it shows the same.
-/
import GameSockets.Client.Gapless
import GameSockets.Client.Results
import GameSockets.Tcp.Benchmark
import Mathlib.Data.Rat.Floor

namespace GameSockets

namespace Tcp

open Library Client EchoLink

namespace Bench

/-- The event that the client polls. -/
def polled (s : Bench) : BenchAction → Option Polled
  | .poll r => Client.polled s.client (.poll r)
  | .pace _ => none
  | .system _ => none

section Loss

variable {crc : Bytes → UInt32} {entropy : Bytes} {args : CliArgs} {w : Wire}

/-- Neither backend nor the server's loop takes an event from the client. -/
theorem received_system {s : Bench} {e : EchoLink} {a : EchoAction} (ha : a.BySystem w)
    (hstep : EchoLink.step crc w s.echo a = some e) :
    e.link.left.peer.eventRx.received = s.echo.link.left.peer.eventRx.received := by
  cases a with
  | client a =>
    obtain ⟨l, hl, rfl⟩ := Option.map_eq_some_iff.mp hstep
    rcases Link.step_cases hl with ⟨b, heq, -, hend⟩ | ⟨b, heq, -, -⟩
    · cases heq
      exact (TcpBackend.handle_step ha.backend (TcpBackend.stepEnd_eq_some hend).1).2.2
    · cases heq
  | backend a =>
    simp only [EchoLink.step] at hstep
    split at hstep
    · cases hstep
    · obtain ⟨l, hl, rfl⟩ := Option.map_eq_some_iff.mp hstep
      rcases Link.step_cases hl with ⟨b, heq, -, -⟩ | ⟨b, heq, hleft, -⟩
      · cases heq
      · rw [hleft]
  | serve =>
    obtain ⟨st, -, rfl⟩ := Option.map_eq_some_iff.mp hstep
    rfl

theorem seenBy_bench {seen : List Polled} {s t : Bench} {a : BenchAction}
    (h : SeenBy crc args seen s.client) (hstep : step crc entropy args w s a = some t) :
    SeenBy crc args (seen ++ (s.polled a).toList) t.client := by
  cases a with
  | poll r =>
    obtain ⟨st, hst, rfl⟩ := Option.map_eq_some_iff.mp hstep
    exact seenBy_step h hst
  | pace r =>
    obtain ⟨st, hst, rfl⟩ := Option.map_eq_some_iff.mp hstep
    exact seenBy_step h hst
  | system a =>
    simp only [step] at hstep
    split at hstep
    · next hsystem =>
      obtain ⟨e, he, rfl⟩ := Option.map_eq_some_iff.mp hstep
      rw [polled, Option.toList_none, List.append_nil]
      exact h.backend (received_system hsystem he)
    · cases hstep

/-- The rows of a stream are those of a stretch of the packets sent on it. -/
theorem rows_isInfix {s : Bench} (h : Orderly crc args w s) {seen : List Polled}
    (hseen : SeenBy crc args seen s.client) (hclock : Chronological seen) (id : UInt16) :
    (s.client.recorder.map rowKey).filter (·.1 = id) <:+:
      ((Client.sends s.client).map packetKey).filter (·.1 = id) := by
  refine Client.rows_isInfix hseen hclock (fun m hm => ?_) (h.heard_infix.filter _)
  obtain ⟨p, hp⟩ := h.numbered.encoded m (h.heard_infix.subset hm)
  rw [hp, BenchmarkPacket.fromBytes_toBytes]
  rfl

theorem seenBy_of_run {t60 t20 : Nat} {ip : String} {port : UInt16} {actions : List BenchAction}
    {s : Bench}
    (hrun : Run.run (step crc entropy args w) (init args t60 t20 ip port) actions = some s) :
    SeenBy crc args
      (Run.trace (step crc entropy args w) polled (init args t60 t20 ip port) actions)
      s.client := by
  have keep : ∀ (seen : List Polled) (s : Bench) (a : BenchAction) (t : Bench),
      SeenBy crc args seen s.client → step crc entropy args w s a = some t →
        SeenBy crc args (seen ++ (s.polled a).toList) t.client :=
    fun _ _ _ _ => seenBy_bench
  have hinit : SeenBy crc args [] (init args t60 t20 ip port).client := seenBy_init t60 t20
  have hseen := Run.invariant_of_trace keep actions hinit hrun
  rwa [List.nil_append] at hseen

variable {F : Type} [Field F] [LinearOrder F] [FloorSemiring F] (sqrt : F → F)

variable (crc entropy args w)

end Loss

/-! ## A warmup -/

/-- The echoes of two packets arrive, and the client polls the first one within the first
second. -/
def lateEcho : List BenchAction :=
  let pollAt (instant : Nat) : BenchAction := .poll { instant := instant, micros := 0 }
  let paceAt (now : Nat) : BenchAction :=
    .pace { elapsedAt := now, now := now, micros60hz := 0, micros20hz := 0 }
  let command : BenchAction := .system (.client (.command TcpBackend.allOk))
  let answer : BenchAction := .system (.backend (.command TcpBackend.allOk))
  let passes (id : UInt64) (side : Action → EchoAction) : List BenchAction :=
    [.system (side (.handler Uuid.nil .take)),
      .system (side (.handler Uuid.nil (.write (benchmarkFrame id).length)))]
  let arrives (id : UInt64) (side : Action → EchoAction) : List BenchAction :=
    [.system (side (.handler Uuid.nil (.read (benchmarkFrame id)))),
      .system (side (.handler Uuid.nil .decode))]
  [answer, command, .system (.backend (.announce 0 Uuid.nil)), .system (.backend (.spawn 0)),
      .system (.backend (.handOver 0)), .system (.backend .register), pollAt 0, command, command,
      pollAt 0, pollAt 0, pollAt 0, paceAt interval60hz, pollAt 0, paceAt (2 * interval60hz),
      command, command] ++
    passes 0 .client ++ passes 1 .client ++ arrives 0 .backend ++ arrives 1 .backend ++
    [.system .serve, .system .serve, .system .serve, .system .serve, answer, answer] ++
    passes 0 .backend ++ passes 1 .backend ++ arrives 0 .client ++ arrives 1 .client ++
    [pollAt 500000000, pollAt 500000000, pollAt nanosPerSec]

section Results

variable {crc : Bytes → UInt32} {entropy : Bytes} {args : CliArgs} {w : Wire}

theorem loops_bench : Loops (step crc entropy args w) client where
  grows s a t hstep := by
    cases a with
    | poll r =>
      obtain ⟨st, hst, rfl⟩ := Option.map_eq_some_iff.mp hstep
      exact (recorder_step hst).1
    | pace r =>
      obtain ⟨st, hst, rfl⟩ := Option.map_eq_some_iff.mp hstep
      exact (recorder_step hst).1
    | system a =>
      simp only [step] at hstep
      split at hstep
      · obtain ⟨e, -, rfl⟩ := Option.map_eq_some_iff.mp hstep
        exact List.prefix_refl _
      · cases hstep
  ended s a t hover hstep := by
    cases a with
    | poll r =>
      obtain ⟨st, hst, rfl⟩ := Option.map_eq_some_iff.mp hstep
      exact (recorder_step hst).2 hover
    | pace r =>
      obtain ⟨st, hst, rfl⟩ := Option.map_eq_some_iff.mp hstep
      exact (recorder_step hst).2 hover
    | system a =>
      simp only [step] at hstep
      split at hstep
      · obtain ⟨e, -, rfl⟩ := Option.map_eq_some_iff.mp hstep
        exact ⟨rfl, rfl⟩
      · cases hstep

variable {F : Type} [Field F] [LinearOrder F] [FloorSemiring F] (sqrt : F → F)
variable (crc entropy args w)

/-- When the client of a benchmark over TCP has dropped its recorder, and not for a panic, its
results file loads, if it could be created and written.  The rows measure packets of the client in
the order that it sent them, the ids of a stream have no gap, and the report of the file shows as
lost what was sent before the first row. -/
theorem report_of_file (csv : Metrics.CsvReader) (hcsv : csv.Documented)
    (hsize : BenchmarkPacket.headerSize + args.packetSize + 2 ≤ maxFrame)
    (t60 t20 : Nat) (ip : String) (port : UInt16)
    (actions : List (Tap.Act BenchAction Metrics.Action)) (s : Bench)
    (r : Metrics.MetricsRecorder)
    (hrun : Run.run (recording (step crc entropy args w) client).step
      (init args t60 t20 ip port, Metrics.MetricsRecorder.new) actions = some (s, r))
    (hclock : Chronological (Run.trace (step crc entropy args w) polled
      (init args t60 t20 ip port) (Tap.sources actions)))
    (hphase : s.client.phase ≠ .panicked) (hjoined : r.joined = true)
    (hwrites : ∀ c ∈ Tap.sinks actions, c.fails = false) :
    ∃ text rows, r.file = some text ∧ Metrics.loadCsv csv text = some rows ∧
      (∃ ms, ms.Sublist (Client.sends s.client) ∧ List.Forall₂ Measures rows ms) ∧
      (∀ id, ∃ a, (Stats.streamRecords rows id).map (·.packetId) =
        idsFrom a (Stats.streamRecords rows id).length) ∧
      ∀ report, Stats.analyzeSingleFile sqrt rows = .ok report → ∀ stream ∈ report.streams,
        ∃ row ∈ (Stats.streamRecords rows stream.streamId).head?,
          stream.stats.lost = row.packetId := by
  obtain ⟨text, htext, hload⟩ := load_of_joined hcsv loops_bench rfl hrun hjoined hwrites
  have hbench := Tap.run_sources hrun
  have h := orderly_of_run hsize hbench
  have hseen := seenBy_of_run hbench
  obtain ⟨ms, hms, hrows⟩ := h.rows
  refine ⟨text, s.client.recorder, htext, hload, ⟨ms, hms.trans h.heard_infix.sublist, hrows⟩,
    fun id => ?_, fun report hreport stream hstream => ?_⟩
  · obtain ⟨a, -, hids⟩ := stream_consecutive h.numbered hphase (rows_isInfix h hseen hclock id)
    exact ⟨a, hids⟩
  · exact lost_of_stream h.numbered hphase hreport hstream (rows_isInfix h hseen hclock _)

end Results

/-- The client polls on until its time is up, and drops its recorder.  The thread begins only
then. -/
def lateEchoFile : List (Tap.Act BenchAction Metrics.Action) :=
  let now := 31 * nanosPerSec
  lateEcho.map .source ++
    [.source (.poll { instant := now, micros := 0 }),
      .source (.pace { elapsedAt := now, now := now, micros60hz := 0, micros20hz := 0 }),
      .sink .dropTx, .sink (.create 7), .sink (.write 0), .sink .finish, .sink .join]

theorem report_of_file_lateEchoFile :
    ∃ (r : Metrics.MetricsRecorder) (text : Csv.Text) (rows : List BenchmarkRecord),
      r.file = some text ∧ Metrics.loadCsv Metrics.plainReader text = some rows ∧
      rows.map rowKey = [(4, 1, 0)] ∧
      ∀ report, Stats.analyzeSingleFile (id : ℚ → ℚ) rows = .ok report →
        ∀ stream ∈ report.streams, ∃ row ∈ (Stats.streamRecords rows stream.streamId).head?,
          stream.stats.lost = row.packetId := by
  have hview : (Run.run (recording (step crc32 [] emptyPackets (evenWire 64)) client).step
      (init emptyPackets 0 0 "0.0.0.0" 8080, Metrics.MetricsRecorder.new)
      lateEchoFile).map (fun x =>
        (x.1.client.recorder.map rowKey, decide (x.1.client.phase = .returned (.ok ())),
          x.2.joined)) = some ([(4, 1, 0)], true, true) := by
    decide +kernel
  obtain ⟨⟨s, r⟩, hrun, hs⟩ := Option.map_eq_some_iff.mp hview
  rw [Prod.mk.injEq, Prod.mk.injEq, decide_eq_true_eq] at hs
  have hphase : s.client.phase ≠ .panicked := by
    rw [hs.2.1]
    exact nofun
  have hwrites : ∀ c ∈ Tap.sinks lateEchoFile, c.fails = false := by decide +kernel
  obtain ⟨text, rows, htext, hload, -, -, hlost⟩ :=
    report_of_file crc32 [] emptyPackets (evenWire 64) (id : ℚ → ℚ) Metrics.plainReader
      Metrics.documented_plainReader (by decide) 0 0 "0.0.0.0" 8080 lateEchoFile s r hrun
      (by decide +kernel) hphase hs.2.2 hwrites
  obtain ⟨text', htext', hload'⟩ :=
    load_of_joined Metrics.documented_plainReader loops_bench rfl hrun hs.2.2 hwrites
  cases htext.symm.trans htext'
  cases hload.symm.trans hload'
  exact ⟨r, text, s.client.recorder, htext, hload, hs.1, hlost⟩

end Bench

end Tcp
end GameSockets

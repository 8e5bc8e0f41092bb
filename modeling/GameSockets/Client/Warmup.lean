/-
Which packets a run records.

The results are meant to hold the packets polled once the warmup is over.  The filter
truncates the time since the connection to whole seconds and asks for more of them than the
warmup has, so it drops what is polled in the second after the warmup too.
-/
import GameSockets.Client.Pacing
import GameSockets.Client.Numbering
import GameSockets.Library.History

namespace GameSockets
namespace Client

open Library

/-! ## The events of a run -/

/-- An event taken from the queue, and when. -/
structure Polled where
  event : GameNetworkEvent
  reading : PollReading

/-- The event that a poll takes. -/
def polled (st : ClientState) : Action → Option Polled
  | .poll r =>
    match st.phase, st.peer.poll with
    | .polling, .ok (some (e, _)) => some { event := e, reading := r }
    | _, _ => none
  | .pace _ => none
  | .backendEmits _ => none
  | .backendStops => none

def Polled.connectedAt (p : Polled) : Option Nat :=
  match p.event with
  | .connected _ => some p.reading.instant
  | _ => none

/-- When the first connection was taken over. -/
def connectedAt (seen : List Polled) : Option Nat := seen.findSome? Polled.connectedAt

theorem connectedAt_append_singleton (seen : List Polled) (p : Polled) :
    connectedAt (seen ++ [p]) = (connectedAt seen).or p.connectedAt := by
  rw [connectedAt, List.findSome?_append, connectedAt]
  simp

section Warmup

variable (crc : Bytes → UInt32) (late : Nat → Nat → Bool)

/-- The row of a valid packet that is polled late enough after the connection. -/
def Polled.row (p : Polled) (start : Option Nat) : Option BenchmarkRecord :=
  p.event.delivered.bind fun m =>
    (BenchmarkPacket.fromBytes crc m.data).bind fun packet =>
      start.bind fun t =>
        if late t p.reading.instant then some (toRecord p.reading m.stream packet) else none

/-- The rows of the events, in order, when the connection was taken over at `start` or is among
them. -/
def rowsFrom : Option Nat → List Polled → List BenchmarkRecord
  | _, [] => []
  | start, p :: seen =>
    (p.row crc late start).toList ++ rowsFrom (start.or p.connectedAt) seen

theorem rowsFrom_append_singleton (start : Option Nat) (seen : List Polled) (p : Polled) :
    rowsFrom crc late start (seen ++ [p]) =
      rowsFrom crc late start seen ++
        (p.row crc late (start.or (connectedAt seen))).toList := by
  induction seen generalizing start with
  | nil => simp [rowsFrom, connectedAt]
  | cons q seen ih =>
    have hstart : (start.or q.connectedAt).or (connectedAt seen) =
        start.or (connectedAt (q :: seen)) := by
      rw [Option.or_assoc, connectedAt, connectedAt, List.findSome?_cons]
      cases q.connectedAt <;> simp
    rw [List.cons_append, rowsFrom, ih, hstart, rowsFrom, List.append_assoc]

variable (entropy : Bytes) (args : CliArgs)

/-- The filter of the loop. -/
def moreSeconds (t now : Nat) : Bool := (now - t) / nanosPerSec > args.warmup.toNat

/-- At least the warmup after the connection. -/
def afterWarmup (t now : Nat) : Bool := t + args.warmup.toNat * nanosPerSec ≤ now

/-- In the second that follows the warmup. -/
def InFirstSecond (t now : Nat) : Prop :=
  t + args.warmup.toNat * nanosPerSec ≤ now ∧ now < t + (args.warmup.toNat + 1) * nanosPerSec

instance (t now : Nat) : Decidable (InFirstSecond args t now) :=
  inferInstanceAs (Decidable (_ ∧ _))

def Polled.IsPacket (p : Polled) : Prop :=
  ∃ m, p.event.delivered = some m ∧ (BenchmarkPacket.fromBytes crc m.data).isSome = true

/-- No valid packet is polled in the second that follows the warmup. -/
def QuietSecond (seen : List Polled) : Prop :=
  History.Always (fun before p =>
    ∀ t ∈ connectedAt before, p.IsPacket crc → ¬ InFirstSecond args t p.reading.instant) seen

variable {crc entropy args}

theorem moreSeconds_iff {t now : Nat} :
    moreSeconds args t now = true ↔ t + (args.warmup.toNat + 1) * nanosPerSec ≤ now := by
  have hpos : 0 < nanosPerSec := by decide
  rw [moreSeconds, decide_eq_true_eq, gt_iff_lt, Nat.lt_iff_add_one_le,
    Nat.le_div_iff_mul_le hpos]
  have hsucc : 0 < (args.warmup.toNat + 1) * nanosPerSec :=
    Nat.mul_pos (Nat.succ_pos _) hpos
  omega

theorem rowOf_eq_row (r : PollReading) (start : Option Nat) (e : GameNetworkEvent) :
    e.delivered.bind (rowOf args crc r start) =
      Polled.row crc (moreSeconds args) { event := e, reading := r } start := by
  rw [Polled.row]
  congr 1
  funext m
  rw [rowOf]
  congr 1
  funext packet
  cases start with
  | none => rfl
  | some t => rfl

/-! ## What the loop records -/

/-- The rows are those of the events so far, and the start is that of the first connection. -/
structure Recorded (crc : Bytes → UInt32) (args : CliArgs) (seen : List Polled)
    (st : ClientState) : Prop where
  rows : st.recorder = rowsFrom crc (moreSeconds args) none seen
  start : st.phase.over = false → st.benchmarkStartTime = connectedAt seen

theorem handleEvent_start (r : PollReading) (st : ClientState) (e : GameNetworkEvent)
    (hphase : (handleEvent crc args r st e).phase.over = false) :
    (handleEvent crc args r st e).benchmarkStartTime =
      st.benchmarkStartTime.or (Polled.connectedAt { event := e, reading := r }) := by
  generalize hst : handleEvent crc args r st e = st' at hphase ⊢
  cases handles_of_handleEvent hst with
  | connected hcan hasks hnext => rfl
  | refused hcan hasks hover => exact absurd hover (Bool.eq_false_iff.mp hphase)
  | _ => exact (Option.or_none).symm

theorem recorded_step {seen : List Polled} {st st' : ClientState} {a : Action}
    (h : Recorded crc args seen st) (hstep : step crc entropy args st a = some st') :
    Recorded crc args (seen ++ (polled st a).toList) st' := by
  cases steps_of_step hstep with
  | @poll r hphase =>
    have hstart := h.start (live_of_polling hphase)
    rcases poll_cases crc args r st with ⟨e, peer, hpoll, heq⟩ | ⟨hno, phase, -, heq⟩
    · simp only [polled, hphase, hpoll, Option.toList_some]
      rw [heq]
      refine ⟨?_, fun hover => ?_⟩
      · rw [handleEvent_recorder, rowOf_eq_row, rowsFrom_append_singleton, h.rows, Option.none_or,
          hstart]
      · rw [handleEvent_start r _ e hover, connectedAt_append_singleton, hstart]
    · have hnone : polled st (.poll r) = none := by
        simp only [polled, hphase]
        split
        · next hpoll => exact absurd hpoll (hno _ _)
        · rfl
      rw [hnone, Option.toList_none, List.append_nil, heq]
      exact ⟨h.rows, fun _ => hstart⟩
  | @pace r hphase =>
    have hframe := @frame_pace crc entropy args r st hphase
    rw [polled, Option.toList_none, List.append_nil]
    refine ⟨hframe.recorder.trans h.rows, fun _ => ?_⟩
    rw [hframe.benchmarkStartTime]
    exact h.start (live_of_pacing hphase)
  | emits =>
    rw [polled, Option.toList_none, List.append_nil]
    exact ⟨h.rows, h.start⟩
  | stops =>
    rw [polled, Option.toList_none, List.append_nil]
    exact ⟨h.rows, h.start⟩

/-! ## The second that follows the warmup -/

theorem isPacket_of_row {p : Polled} {late : Nat → Nat → Bool} {start : Option Nat}
    {row : BenchmarkRecord} (h : p.row crc late start = some row) :
    p.IsPacket crc ∧ ∃ t ∈ start, late t p.reading.instant = true := by
  obtain ⟨m, hm, h⟩ := Option.bind_eq_some_iff.mp h
  obtain ⟨packet, hpacket, h⟩ := Option.bind_eq_some_iff.mp h
  obtain ⟨t, ht, h⟩ := Option.bind_eq_some_iff.mp h
  split at h
  · next hlate => exact ⟨⟨m, hm, by rw [hpacket]; rfl⟩, t, ht, hlate⟩
  · cases h

/-- Two filters give the same row unless they disagree on a valid packet. -/
theorem row_eq_iff {p : Polled} {late late' : Nat → Nat → Bool} {start : Option Nat} :
    p.row crc late start = p.row crc late' start ↔
      ∀ t ∈ start, p.IsPacket crc → late t p.reading.instant = late' t p.reading.instant := by
  cases hm : p.event.delivered with
  | none =>
    refine iff_of_true (by simp [Polled.row, hm]) ?_
    rintro t - ⟨m, hm', -⟩
    rw [hm] at hm'
    cases hm'
  | some m =>
    cases hpacket : BenchmarkPacket.fromBytes crc m.data with
    | none =>
      refine iff_of_true (by simp [Polled.row, hm, hpacket]) ?_
      rintro t - ⟨m', hm', hsome⟩
      rw [hm, Option.some.injEq] at hm'
      rw [← hm', hpacket] at hsome
      cases hsome
    | some packet =>
      have hp : p.IsPacket crc := ⟨m, hm, by rw [hpacket]; rfl⟩
      cases start with
      | none => simp [Polled.row, hm]
      | some t =>
        simp only [Polled.row, hm, hpacket, Option.bind_some, Option.mem_def, Option.some.injEq,
          forall_eq', hp, true_imp_iff]
        cases late t p.reading.instant <;> cases late' t p.reading.instant <;> simp

theorem moreSeconds_eq_afterWarmup_iff {t now : Nat} :
    moreSeconds args t now = afterWarmup args t now ↔ ¬ InFirstSecond args t now := by
  have hmore := @moreSeconds_iff args t now
  have hafter : afterWarmup args t now = true ↔ t + args.warmup.toNat * nanosPerSec ≤ now := by
    rw [afterWarmup, decide_eq_true_eq]
  rw [Bool.eq_iff_iff, hmore, hafter, InFirstSecond]
  have hsucc : (args.warmup.toNat + 1) * nanosPerSec =
      args.warmup.toNat * nanosPerSec + nanosPerSec := Nat.succ_mul _ _
  omega

theorem length_row_le (p : Polled) (start : Option Nat) :
    (p.row crc (moreSeconds args) start).toList.length ≤
      (p.row crc (afterWarmup args) start).toList.length := by
  cases hrow : p.row crc (moreSeconds args) start with
  | none => exact Nat.zero_le _
  | some row =>
    obtain ⟨hp, t, rfl, hlate⟩ := isPacket_of_row hrow
    have hafter : p.row crc (moreSeconds args) (some t) =
        p.row crc (afterWarmup args) (some t) := by
      rw [row_eq_iff]
      intro t' ht' _
      cases Option.mem_some.mp ht'
      rw [moreSeconds_eq_afterWarmup_iff, InFirstSecond]
      rw [moreSeconds_iff] at hlate
      omega
    rw [← hafter, hrow]

theorem rowsFrom_eq_iff (seen : List Polled) :
    (rowsFrom crc (moreSeconds args) none seen).length ≤
        (rowsFrom crc (afterWarmup args) none seen).length ∧
      (rowsFrom crc (moreSeconds args) none seen = rowsFrom crc (afterWarmup args) none seen ↔
        QuietSecond crc args seen) := by
  induction seen using List.reverseRecOn with
  | nil => simp [rowsFrom, QuietSecond]
  | append_singleton seen p ih =>
    obtain ⟨hlen, ih⟩ := ih
    have hrow := @length_row_le crc args p (connectedAt seen)
    have hquiet : p.row crc (moreSeconds args) (connectedAt seen) =
        p.row crc (afterWarmup args) (connectedAt seen) ↔
          ∀ t ∈ connectedAt seen, p.IsPacket crc → ¬ InFirstSecond args t p.reading.instant := by
      rw [row_eq_iff]
      simp only [moreSeconds_eq_afterWarmup_iff]
    rw [rowsFrom_append_singleton, rowsFrom_append_singleton, Option.none_or, QuietSecond,
      History.always_append_singleton, ← QuietSecond, ← ih, ← hquiet]
    refine ⟨?_, fun h => ?_, fun h => by rw [h.1, h.2]⟩
    · rw [List.length_append, List.length_append]
      exact Nat.add_le_add hlen hrow
    · -- neither part is longer on the left, so both have the same lengths
      have hlens := congrArg List.length h
      rw [List.length_append, List.length_append] at hlens
      obtain ⟨hrows, hlast⟩ := List.append_inj h (by omega)
      have hhead := congrArg List.head? hlast
      rw [Option.head?_toList, Option.head?_toList] at hhead
      exact ⟨hrows, hhead⟩

variable (crc entropy args)

/-- A run records the valid packets polled after the warmup exactly when none is polled in the
second that follows the warmup. -/
theorem records_afterWarmup_iff (t60 t20 : Nat) (actions : List Action) (st : ClientState)
    (hrun : Run.run (step crc entropy args) (init args t60 t20) actions = some st) :
    let seen := Run.trace (step crc entropy args) polled (init args t60 t20) actions
    st.recorder = rowsFrom crc (afterWarmup args) none seen ↔ QuietSecond crc args seen := by
  have hinit : Recorded crc args [] (init args t60 t20) := ⟨rfl, fun _ => rfl⟩
  have hrec := Run.invariant_of_trace
    (fun seen s a t h hstep => recorded_step h hstep) actions hinit hrun
  rw [List.nil_append] at hrec
  dsimp only
  rw [hrec.rows]
  exact (rowsFrom_eq_iff _).2

end Warmup

/-! ## An echo around the end of the warmup -/

def tenSeconds : CliArgs := { emptyPackets with duration := 40, warmup := 10 }

/-- The client connects at instant 0 and polls one echo. -/
def echoAt (instant : Nat) : List Action :=
  let echo : GameNetworkEvent := .message Uuid.nil (GameStream.new 1 .unreliable)
    (BenchmarkPacket.toBytes crc32 { id := 0, timestamp := 0, payload := [] })
  [.backendEmits (.connected Uuid.nil), .poll { instant := 0, micros := 0 },
    .backendEmits echo, .poll { instant := instant, micros := 500 }]

def echoRow : BenchmarkRecord :=
  { packetId := 0, streamId := 4, rttUs := 500, payloadSize := 0, recvTimestamp := 500 }

/-- The rows of such a run, and those that it should have. -/
def echoRows (instant : Nat) : Option (List BenchmarkRecord × List BenchmarkRecord) :=
  (Run.run (step crc32 [] tenSeconds) (init tenSeconds 0 0) (echoAt instant)).map fun st =>
    (st.recorder, rowsFrom crc32 (afterWarmup tenSeconds) none
      (Run.trace (step crc32 [] tenSeconds) polled (init tenSeconds 0 0) (echoAt instant)))

theorem records_elevenSeconds :
    ∃ st, Run.run (step crc32 [] tenSeconds) (init tenSeconds 0 0) (echoAt 11000000000) = some st ∧
      st.recorder = rowsFrom crc32 (afterWarmup tenSeconds) none
        (Run.trace (step crc32 [] tenSeconds) polled (init tenSeconds 0 0)
          (echoAt 11000000000)) := by
  obtain ⟨st, hrun⟩ : ∃ st, Run.run (step crc32 [] tenSeconds) (init tenSeconds 0 0)
      (echoAt 11000000000) = some st := ⟨_, rfl⟩
  refine ⟨st, hrun, (records_afterWarmup_iff crc32 [] tenSeconds 0 0 _ st hrun).mpr ?_⟩
  refine History.always_append_singleton.mpr ⟨?_, ?_⟩
  · exact (History.always_append_singleton (l := [])).mpr ⟨History.always_nil _, nofun⟩
  · intro t ht _ hfirst
    cases Option.mem_some.mp ht
    exact absurd hfirst (by decide)

/-- An echo polled ten and a half seconds after the connection is not recorded. -/
theorem dropped_tenSeconds :
    ∃ st, Run.run (step crc32 [] tenSeconds) (init tenSeconds 0 0) (echoAt 10500000000) = some st ∧
      st.recorder = [] ∧
        rowsFrom crc32 (afterWarmup tenSeconds) none
          (Run.trace (step crc32 [] tenSeconds) polled (init tenSeconds 0 0)
            (echoAt 10500000000)) = [echoRow] := by
  have hrows : echoRows 10500000000 = some ([], [echoRow]) := by
    decide +kernel
  obtain ⟨st, hrun, hst⟩ := Option.map_eq_some_iff.mp hrows
  rw [Prod.mk.injEq] at hst
  exact ⟨st, hrun, hst⟩

end Client
end GameSockets

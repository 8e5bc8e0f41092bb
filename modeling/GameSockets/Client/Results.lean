/-
The results file of the client.

`run_benchmark` hands each row over to the recorder's thread, which writes while the loop goes on,
and drops the recorder as it returns.  So the loop never waits for the file, and the file is whole
by the time that the program ends, unless a write has failed.
-/
import GameSockets.Client.Records
import GameSockets.Client.Stop
import GameSockets.Library.Tap
import GameSockets.Recorder

namespace GameSockets

namespace Metrics
namespace MetricsRecorder

/-- The steps that are left when nothing more is recorded. -/
def toJoin (r : MetricsRecorder) : Nat := r.left + if r.tx then 1 else 0

theorem toJoin_step {r u : MetricsRecorder} {c : Action} (hc : recorded [c] = [])
    (hstep : r.step c = some u) : u.toJoin < r.toJoin := by
  cases steps_of_step hstep with
  | record htx hthere => cases hc
  | recordLost htx hgone => cases hc
  | dropTx htx => simp [toJoin, left, htx]
  | create hthread => simp [toJoin, left, hthread]
  | write hthread hrecv => simp [toJoin, left, hthread, (Library.Channel.recv_eq_some hrecv).1]
  | finish hthread htx hrecv => simp [toJoin, left, hthread]
  | refuse hthread => exact Nat.add_lt_add_right (left_fail (by rw [ended, hthread]) none) _
  | fail hended => exact Nat.add_lt_add_right (left_fail hended _) _
  | join hended htx hjoined => simp [toJoin, left, hjoined]

/-- Only the drop takes the sender away. -/
theorem tx_step {r u : MetricsRecorder} {c : Action} (hc : c ≠ .dropTx)
    (hstep : r.step c = some u) : u.tx = r.tx := by
  cases steps_of_step hstep with
  | dropTx htx => exact absurd rfl hc
  | _ => rfl

/-- A recorder that has not been dropped takes any rows. -/
theorem exists_records {r : MetricsRecorder} (htx : r.tx = true)
    (rows : List Client.BenchmarkRecord) :
    ∃ u, Library.Run.run step r (rows.map .record) = some u ∧ u.tx = true := by
  induction rows generalizing r with
  | nil => exact ⟨r, rfl, htx⟩
  | cons row rows ih =>
    let next := if r.panicked then r else { r with queue := r.queue.send row }
    have hstep : r.step (.record row) = some next := if_pos htx
    have hnext : next.tx = true := by
      show (if r.panicked then r else { r with queue := r.queue.send row }).tx = true
      split <;> exact htx
    obtain ⟨u, hu, hopen⟩ := ih hnext
    exact ⟨u, (Library.Run.run_cons_of_step step hstep _).trans hu, hopen⟩

end MetricsRecorder
end Metrics

namespace Client

open Library Metrics

section Recording

variable {σ α : Type} (step : σ → α → Option σ) (client : σ → ClientState)

/-- The recorder of a program that runs the client's loop.  It is dropped when the loop is over,
where it has returned and where a panic unwinds it, and its thread goes on at any time. -/
def recording : Tap σ α BenchmarkRecord MetricsRecorder Metrics.Action where
  source := step
  log s := (client s).recorder
  sink := MetricsRecorder.step
  put := .record
  may s
    | .record _ => false
    | .dropTx => (client s).phase.over
    | .create _ => true
    | .write _ => true
    | .finish => true
    | .refuse => true
    | .fail _ => true
    | .join => true

/-- The loop is the only one to record, and takes no step when it is over. -/
structure Loops : Prop where
  grows : ∀ s a t, step s a = some t → (client s).recorder <+: (client t).recorder
  ended : ∀ s a t, (client s).phase.over = true → step s a = some t →
    (client t).phase = (client s).phase ∧ (client t).recorder = (client s).recorder

variable {step client}

theorem recorded_of_may {s : σ} {c : Metrics.Action} (h : (recording step client).may s c = true) :
    recorded [c] = [] := by
  cases c with
  | record row => cases h
  | _ => rfl

/-- The recorder is there while the loop runs. -/
theorem tx_of_run (hloops : Loops step client) {x y : σ × MetricsRecorder}
    {actions : List (Tap.Act α Metrics.Action)} (hx : x.2.tx = true)
    (hrun : Run.run (recording step client).step x actions = some y)
    (hy : (client y.1).phase.over = false) : y.2.tx = true := by
  have keep : ∀ (x : σ × MetricsRecorder) (a : Tap.Act α Metrics.Action) (y : σ × MetricsRecorder),
      ((client x.1).phase.over = false → x.2.tx = true) →
        (recording step client).step x a = some y →
          (client y.1).phase.over = false → y.2.tx = true := by
    intro x a y hx hstep hy
    rcases Tap.step_cases hstep with ⟨b, rfl, hsource, hsink⟩ | ⟨c, rfl, hmay, hsame, hsink⟩
    · have hrunning : (client x.1).phase.over = false := by
        by_contra hover
        rw [(hloops.ended _ _ _ (Bool.eq_true_of_not_eq_false hover) hsource).1] at hy
        exact hover hy
      obtain ⟨u, hu, htx⟩ := MetricsRecorder.exists_records (hx hrunning)
        ((recording step client).news x.1 y.1)
      rw [show y.2 = u from Option.some.inj (hsink.symm.trans hu)]
      exact htx
    · rw [hsame] at hy
      rw [MetricsRecorder.tx_step (fun hc => ?_) hsink]
      · exact hx hy
      · rw [hc] at hmay
        exact absurd (hmay.symm.trans hy) (by decide)
  exact Run.invariant_of_run keep (fun _ => hx) hrun hy

/-- The recorder never keeps the program from a step. -/
theorem exists_source_step (hloops : Loops step client) {x y : σ × MetricsRecorder}
    {actions : List (Tap.Act α Metrics.Action)} (hx : x.2.tx = true)
    (hrun : Run.run (recording step client).step x actions = some y) {a : α} {t : σ}
    (hstep : step y.1 a = some t) :
    ∃ u, (recording step client).step y (.source a) = some (t, u) := by
  cases hy : (client y.1).phase.over with
  | false =>
    obtain ⟨u, hu, -⟩ := MetricsRecorder.exists_records (tx_of_run hloops hx hrun hy)
      ((recording step client).news y.1 t)
    exact ⟨u, Tap.step_source hstep hu⟩
  | true =>
    have hnone : (recording step client).news y.1 t = [] :=
      Tap.news_eq_nil (hloops.ended _ _ _ hy hstep).2
    exact ⟨y.2, Tap.step_source hstep (by rw [hnone]; rfl)⟩

/-- Once the loop is over, the recorder has a bounded number of steps to go and can take the
next one, until its thread is joined. -/
theorem drop_returns (hloops : Loops step client) {x y : σ × MetricsRecorder}
    {more : List (Tap.Act α Metrics.Action)} (hx : (client x.1).phase.over = true)
    (hrun : Run.run (recording step client).step x more = some y) :
    (Tap.sinks more).length ≤ x.2.toJoin ∧
      (y.2.joined = false → ∃ c, ((recording step client).step y (.sink c)).isSome = true) := by
  have hless : ∀ (s : σ) (r : MetricsRecorder) (c : Metrics.Action) (u : MetricsRecorder),
      (client s).phase.over = true → (recording step client).may s c = true →
        r.step c = some u → u.toJoin < r.toJoin :=
    fun _ _ _ _ _ hmay => MetricsRecorder.toJoin_step (recorded_of_may hmay)
  have hquiet : ∀ s a t, (client s).phase.over = true → step s a = some t →
      (client t).phase.over = true ∧ (client t).recorder = (client s).recorder := by
    intro s a t hover hstep
    obtain ⟨hphase, hsame⟩ := hloops.ended s a t hover hstep
    exact ⟨by rw [hphase]; exact hover, hsame⟩
  obtain ⟨hy, hle⟩ := Tap.length_sinks_le (T := recording step client) hquiet hless hx hrun
  refine ⟨by omega, fun hjoined => ?_⟩
  cases htx : y.2.tx with
  | true =>
    have hmay : (recording step client).may y.1 .dropTx = true := hy
    have hdrop : y.2.step .dropTx = some { y.2 with tx := false } := if_pos htx
    exact ⟨.dropTx, by rw [Tap.step_sink hmay hdrop]; rfl⟩
  | false =>
    obtain ⟨c, u, hu⟩ := MetricsRecorder.exists_step htx (by rw [hjoined]; exact Bool.false_ne_true)
    have hmay : (recording step client).may y.1 c = true := by
      cases c with
      | record row =>
        cases MetricsRecorder.steps_of_step hu with
        | record hopen => exact absurd (htx.symm.trans hopen) Bool.false_ne_true
        | recordLost hopen => exact absurd (htx.symm.trans hopen) Bool.false_ne_true
      | dropTx => exact hy
      | _ => rfl
    exact ⟨c, by rw [Tap.step_sink hmay hu]; rfl⟩

/-- What the recorder has taken down, and how far it is with it. -/
theorem recorded_of_recording (hloops : Loops step client) {s t : σ} {r : MetricsRecorder}
    {actions : List (Tap.Act α Metrics.Action)} (hinit : (client s).recorder = [])
    (hrun : Run.run (recording step client).step (s, MetricsRecorder.new) actions = some (t, r)) :
    MetricsRecorder.Recorded (client t).recorder r ∧ r.JoinedLast := by
  have hput : ∀ (rows : List BenchmarkRecord) (r : MetricsRecorder) (row : BenchmarkRecord)
      (u : MetricsRecorder), MetricsRecorder.Recorded rows r ∧ r.JoinedLast →
        r.step (.record row) = some u →
          MetricsRecorder.Recorded (rows ++ [row]) u ∧ u.JoinedLast :=
    fun _ _ _ _ h hstep =>
      ⟨MetricsRecorder.recorded_step h.1 hstep, MetricsRecorder.joinedLast_step h.2 hstep⟩
  have hown : ∀ (rows : List BenchmarkRecord) (s : σ) (r : MetricsRecorder) (c : Metrics.Action)
      (u : MetricsRecorder), MetricsRecorder.Recorded rows r ∧ r.JoinedLast →
        (recording step client).may s c = true → r.step c = some u →
          MetricsRecorder.Recorded rows u ∧ u.JoinedLast := by
    intro rows s r c u h hmay hstep
    have hnext := MetricsRecorder.recorded_step h.1 hstep
    rw [recorded_of_may hmay, List.append_nil] at hnext
    exact ⟨hnext, MetricsRecorder.joinedLast_step h.2 hstep⟩
  have hnew : MetricsRecorder.Recorded (client s).recorder MetricsRecorder.new ∧
      MetricsRecorder.new.JoinedLast := by
    rw [hinit]
    exact ⟨MetricsRecorder.recorded_new, fun h => absurd h Bool.false_ne_true⟩
  exact Tap.invariant_of_log (T := recording step client) (x := (s, MetricsRecorder.new))
    hloops.grows hput hown hnew hrun

/-- The thread is joined only when the loop is over. -/
theorem over_of_joined (hloops : Loops step client) {s t : σ} {r : MetricsRecorder}
    {actions : List (Tap.Act α Metrics.Action)} (hinit : (client s).recorder = [])
    (hrun : Run.run (recording step client).step (s, MetricsRecorder.new) actions = some (t, r))
    (hjoined : r.joined = true) : (client t).phase.over = true := by
  by_contra hrunning
  have hopen := tx_of_run hloops rfl hrun (Bool.eq_false_of_not_eq_true hrunning)
  have htx := ((recorded_of_recording hloops hinit hrun).2 hjoined).1
  exact absurd (htx.symm.trans hopen) Bool.false_ne_true

/-- What the thread leaves when it is joined is the file of the rows, if all its writes have
succeeded. -/
theorem load_of_joined {csv : CsvReader} (hcsv : csv.Documented) (hloops : Loops step client)
    {s t : σ} {r : MetricsRecorder} {actions : List (Tap.Act α Metrics.Action)}
    (hinit : (client s).recorder = [])
    (hrun : Run.run (recording step client).step (s, MetricsRecorder.new) actions = some (t, r))
    (hjoined : r.joined = true) (hwrites : ∀ c ∈ Tap.sinks actions, c.fails = false) :
    ∃ text, r.file = some text ∧ loadCsv csv text = some (client t).recorder := by
  obtain ⟨hrecorded, hlast⟩ := recorded_of_recording hloops hinit hrun
  have hput : ∀ (r : MetricsRecorder) (row : BenchmarkRecord) (u : MetricsRecorder),
      r.panicked = false → r.step (.record row) = some u → u.panicked = false :=
    fun _ _ _ h hstep => MetricsRecorder.panicked_step h rfl hstep
  have hown : ∀ (r : MetricsRecorder) (c : Metrics.Action) (u : MetricsRecorder),
      r.panicked = false → c.fails = false → r.step c = some u → u.panicked = false :=
    fun _ _ _ => MetricsRecorder.panicked_step
  have hthere : r.panicked = false :=
    Tap.invariant_of_sinks (T := recording step client) (x := (s, MetricsRecorder.new))
      hput hown hwrites rfl hrun
  exact MetricsRecorder.load_of_recorded hcsv hrecorded (hlast hjoined).2 hthere

end Recording

/-! ## The client -/

section Results

variable {crc : Bytes → UInt32} {entropy : Bytes} {args : CliArgs}

/-- The rows so far stay, and a loop that is over adds none. -/
theorem recorder_step {st st' : ClientState} {a : Action}
    (hstep : step crc entropy args st a = some st') :
    st.recorder <+: st'.recorder ∧ (st.phase.over = true →
      st'.phase = st.phase ∧ st'.recorder = st.recorder) := by
  cases steps_of_step hstep with
  | @poll r hphase =>
    refine ⟨?_, fun hover => by rw [hphase] at hover; cases hover⟩
    rcases poll_cases crc args r st with ⟨e, peer, -, heq⟩ | ⟨-, phase, -, heq⟩
    · rw [heq, handleEvent_recorder]
      exact List.prefix_append _ _
    · rw [heq]
  | @pace r hphase =>
    refine ⟨?_, fun hover => by rw [hphase] at hover; cases hover⟩
    rw [(@frame_pace crc entropy args r st hphase).recorder]
  | emits => exact ⟨List.prefix_refl _, fun _ => ⟨rfl, rfl⟩⟩
  | stops => exact ⟨List.prefix_refl _, fun _ => ⟨rfl, rfl⟩⟩

theorem over_of_isReturned {phase : Phase} (h : phase.isReturned = true) : phase.over = true := by
  cases phase with
  | returned result => rfl
  | _ => cases h

theorem loops_step : Loops (step crc entropy args) id where
  grows _ _ _ hstep := (recorder_step hstep).1
  ended _ _ _ hover hstep := (recorder_step hstep).2 hover

variable (crc entropy args)

/-- In every interleaving of the client's loop, its backend and the recorder's thread, the loop
never waits for the recorder.  Once it has returned, the recorder's drop comes to its end, whatever
the backend still does.  Where the thread is joined, the loop is over; and if the file could be
created and written, it holds the rows of what the loop has polled since the warmup. -/
theorem results_file (csv : CsvReader) (hcsv : csv.Documented) (t60 t20 : Nat)
    (actions : List (Tap.Act Action Metrics.Action)) (st : ClientState) (r : MetricsRecorder)
    (hrun : Run.run (recording (step crc entropy args) id).step
      (init args t60 t20, MetricsRecorder.new) actions = some (st, r)) :
    (∀ a st', step crc entropy args st a = some st' →
        ∃ r', (recording (step crc entropy args) id).step (st, r) (.source a) = some (st', r')) ∧
      (st.phase.isReturned = true → ∀ more st' r',
        Run.run (recording (step crc entropy args) id).step (st, r) more = some (st', r') →
          (Tap.sinks more).length ≤ r.toJoin ∧ (r'.joined = false →
            ∃ c, ((recording (step crc entropy args) id).step (st', r')
              (.sink c)).isSome = true)) ∧
      (r.joined = true → st.phase.over = true ∧ ((∀ c ∈ Tap.sinks actions, c.fails = false) →
        ∃ text, r.file = some text ∧ loadCsv csv text = some (rowsFrom crc (moreSeconds args) none
          (Run.trace (step crc entropy args) polled (init args t60 t20)
            (Tap.sources actions))))) := by
  refine ⟨fun a st' hstep => exists_source_step loops_step rfl hrun hstep,
    fun hreturned more st' r' hmore =>
      drop_returns (x := (st, r)) loops_step (over_of_isReturned hreturned) hmore,
    fun hjoined => ⟨over_of_joined loops_step rfl hrun hjoined, fun hwrites => ?_⟩⟩
  obtain ⟨text, htext, hload⟩ := load_of_joined hcsv loops_step rfl hrun hjoined hwrites
  refine ⟨text, htext, hload.trans (congrArg some ?_)⟩
  have keep : ∀ (seen : List Polled) (st : ClientState) (a : Action) (st' : ClientState),
      SeenBy crc args seen st → step crc entropy args st a = some st' →
        SeenBy crc args (seen ++ (polled st a).toList) st' :=
    fun _ _ _ _ => seenBy_step
  have hseen := Run.invariant_of_trace keep (Tap.sources actions) (seenBy_init t60 t20)
    (Tap.run_sources hrun)
  rw [List.nil_append] at hseen
  exact hseen.recorded.rows

end Results

/-! ## A run with its recorder -/

/-- The client polls an echo after its warmup and then the end of the connection.  The thread
writes its header when the row is already in the queue. -/
def recordedEcho : List (Tap.Act Action Metrics.Action) :=
  (echoAt 11000000000).map .source ++
    [.sink (.create 30), .source (.backendEmits (.disconnected Uuid.nil)),
      .source (.poll { instant := 11000000000, micros := 600 }),
      .source (.pace
        { elapsedAt := 11000000000, now := 11000000000, micros60hz := 0, micros20hz := 0 }),
      .sink .dropTx, .sink (.write 0), .source .backendStops, .sink .finish, .sink .join]

theorem results_file_recordedEcho :
    ∃ st r text, Run.run (recording (step crc32 [] tenSeconds) id).step
        (init tenSeconds 0 0, MetricsRecorder.new) recordedEcho = some (st, r) ∧
      r.file = some text ∧ loadCsv plainReader text = some [echoRow] := by
  have hview : (Run.run (recording (step crc32 [] tenSeconds) id).step
      (init tenSeconds 0 0, MetricsRecorder.new) recordedEcho).map (fun x => x.2.joined) =
        some true := by
    decide +kernel
  obtain ⟨⟨st, r⟩, hrun, hjoined⟩ := Option.map_eq_some_iff.mp hview
  obtain ⟨text, htext, hload⟩ := ((results_file crc32 [] tenSeconds plainReader
    documented_plainReader 0 0 recordedEcho st r hrun).2.2 hjoined).2 (by decide +kernel)
  refine ⟨st, r, text, hrun, htext, hload.trans (congrArg some ?_)⟩
  decide +kernel

end Client
end GameSockets

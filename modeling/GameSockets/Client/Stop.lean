/-
When the client stops at the end of its time.

The duration check only sets a flag, and the flag is looked at after the two send blocks.  A
block that is due and has no stream jumps back to the head of the loop, and one whose packet
cannot be built does not return either.
-/
import GameSockets.Client.Pacing

namespace GameSockets
namespace Client

open Library

def Phase.isReturned : Phase → Bool
  | .returned _ => true
  | _ => false

/-- The duration check finds the time up. -/
def TimeUp (args : CliArgs) (r : PaceReading) (st : ClientState) : Prop :=
  st.serverId.isSome = true ∧
    ∃ start ∈ st.benchmarkStartTime, r.elapsedAt - start ≥ args.duration.toNat * nanosPerSec

section Stop

variable (crc : Bytes → UInt32) (entropy : Bytes) (args : CliArgs)

/-- An iteration that finds the time up is the last one: the function returns. -/
def Stops (st : ClientState) : Action → Prop
  | .pace r => TimeUp args r st → (pace crc entropy args r st).phase.isReturned = true
  | _ => True

/-- A block has a stream, its packet can be built, and the packet can be counted if it goes
out. -/
def Ready (st : ClientState) : Option GameStream → Prop
  | some stream =>
    Fits entropy args ∧
      (st.peer.alive = true → (counter st stream).toNat + 1 < UInt64.size)
  | none => False

/-- Each block that is due and reached is ready.  The second one is not reached when the first
one finds the backend gone. -/
structure Unhindered (r : PaceReading) (st : ClientState) : Prop where
  unreliable : Due60hz r st → Ready entropy args st st.unreliableGameStream
  reliable : (Due60hz r st → st.peer.alive = true) → Due20hz r st →
    Ready entropy args st st.reliableGameStream

/-- An iteration that finds the time up is unhindered. -/
def StopsUnhindered (st : ClientState) : Action → Prop
  | .pace r => TimeUp args r st → Unhindered entropy args r st
  | _ => True

variable {crc entropy args}

theorem isReturned_sendPacket_iff {stream : GameStream} {st : ClientState}
    (h : ¬ Sendable entropy args stream st) (conn : GameConnection) (micros : UInt64) :
    (sendPacket crc entropy args conn stream micros st).phase.isReturned = true ↔
      Fits entropy args ∧ st.peer.alive = false := by
  rw [phase_sendPacket h]
  split
  · next hfail => exact iff_of_true rfl hfail
  · next hfail => exact iff_of_false nofun hfail

/-- A stream is ready when its packet is sent and counted, or the backend is gone. -/
theorem ready_some_iff {stream : GameStream} {st : ClientState} :
    Ready entropy args st (some stream) ↔
      Sendable entropy args stream st ∨ Fits entropy args ∧ st.peer.alive = false := by
  rw [Ready, Sendable]
  cases st.peer.alive <;> simp

theorem isReturned_checkStop {st : ClientState} (hstop : st.needStop = true) :
    (checkStop st).phase.isReturned = true := by
  rw [checkStop, if_pos hstop]
  rfl

theorem isReturned_pace20hz_iff (r : PaceReading) (conn : GameConnection) {st : ClientState}
    (hphase : st.phase = .pacing) (hstop : st.needStop = true) :
    (pace20hz crc entropy args r conn st).phase.isReturned = true ↔
      (Due20hz r st → Ready entropy args st st.reliableGameStream) := by
  rcases @pace20hz_cases crc entropy args r conn st hphase with
    ⟨hdue, heq⟩ | ⟨hdue, ⟨hstream, heq⟩ | ⟨stream, hstream, ⟨hsend, heq⟩ | ⟨hsend, heq⟩⟩⟩
  · rw [heq]
    exact iff_of_true (isReturned_checkStop hstop) fun h => absurd h hdue
  · rw [heq, hstream]
    exact iff_of_false nofun fun h => h hdue
  · have hstop' : (tick20hz (count stream
        (post crc entropy args conn stream r.micros20hz st))).needStop = true := hstop
    rw [heq, hstream, ready_some_iff]
    exact iff_of_true (isReturned_checkStop hstop') fun _ => Or.inl hsend
  · rw [heq, hstream, ready_some_iff, isReturned_sendPacket_iff hsend]
    exact ⟨fun h _ => Or.inr h, fun h => (h hdue).resolve_left hsend⟩

theorem isReturned_pace60hz_iff (r : PaceReading) (conn : GameConnection) {st : ClientState}
    (hkinds : StreamKinds st) (hphase : st.phase = .pacing) (hstop : st.needStop = true) :
    (pace60hz crc entropy args r conn st).phase.isReturned = true ↔
      Unhindered entropy args r st := by
  rcases @pace60hz_cases crc entropy args r conn st hphase with
    ⟨hdue, heq⟩ | ⟨hdue, ⟨hstream, heq⟩ | ⟨stream, hstream, ⟨hsend, heq⟩ | ⟨hsend, heq⟩⟩⟩
  · rw [heq, isReturned_pace20hz_iff r conn hphase hstop]
    constructor
    · exact fun h => ⟨fun hdue' => absurd hdue' hdue, fun _ => h⟩
    · exact fun h => h.reliable fun hdue' => absurd hdue' hdue
  · rw [heq]
    refine iff_of_false nofun fun h => ?_
    have hready := h.unreliable hdue
    rw [hstream] at hready
    exact hready
  · -- the 20 Hz block finds its own stream as it was
    let sent := tick60hz (count stream (post crc entropy args conn stream r.micros60hz st))
    have hready : Ready entropy args sent st.reliableGameStream ↔
        Ready entropy args st st.reliableGameStream := by
      cases hother : st.reliableGameStream with
      | none => exact Iff.rfl
      | some other =>
        have hcounter : counter sent other = counter st other :=
          counter_count_of_ne (hkinds.ne hstream hother) _
        have halive : sent.peer.alive = st.peer.alive := rfl
        rw [Ready, Ready, hcounter, halive]
    have hdue20 : Due20hz r sent ↔ Due20hz r st := Iff.rfl
    have hreliable : sent.reliableGameStream = st.reliableGameStream := rfl
    have hpace := @isReturned_pace20hz_iff crc entropy args r conn sent hphase hstop
    rw [hdue20, hreliable, hready] at hpace
    rw [heq, hpace]
    constructor
    · intro h
      refine ⟨fun _ => ?_, fun _ => h⟩
      rw [hstream, ready_some_iff]
      exact Or.inl hsend
    · exact fun h => h.reliable fun _ => hsend.2.1
  · rw [heq, isReturned_sendPacket_iff hsend]
    constructor
    · intro hgone
      refine ⟨fun _ => ?_, fun halive => ?_⟩
      · rw [hstream, ready_some_iff]
        exact Or.inr hgone
      · have := (halive hdue).symm.trans hgone.2
        cases this
    · intro h
      have hready := h.unreliable hdue
      rw [hstream, ready_some_iff] at hready
      exact hready.resolve_left hsend

theorem isReturned_pace_iff {r : PaceReading} {st : ClientState} (hkinds : StreamKinds st)
    (hphase : st.phase = .pacing) (htime : TimeUp args r st) :
    (pace crc entropy args r st).phase.isReturned = true ↔ Unhindered entropy args r st := by
  obtain ⟨hconn, start, hstart, helapsed⟩ := htime
  obtain ⟨conn, hconn⟩ := Option.isSome_iff_exists.mp hconn
  have hcheck : checkDuration args r st = { st with needStop := true } := by
    rw [checkDuration, Option.mem_def.mp hstart]
    exact if_pos helapsed
  have hkinds' : StreamKinds { st with needStop := true } := ⟨hkinds.unreliable, hkinds.reliable⟩
  have hiff := @isReturned_pace60hz_iff crc entropy args r conn { st with needStop := true }
    hkinds' hphase rfl
  rw [pace, hconn]
  dsimp only
  rw [hcheck, hiff]
  exact ⟨fun h => ⟨h.unreliable, h.reliable⟩, fun h => ⟨h.unreliable, h.reliable⟩⟩

variable (crc entropy args)

/-- The client stops at the end of its time exactly when the blocks of that iteration that are
due have their streams and build their packets. -/
theorem stops_iff_unhindered (t60 t20 : Nat) (actions : List Action) (st : ClientState)
    (hrun : Run.run (step crc entropy args) (init args t60 t20) actions = some st) :
    Run.Along (step crc entropy args) (Stops crc entropy args) (init args t60 t20) actions ↔
      Run.Along (step crc entropy args) (StopsUnhindered entropy args) (init args t60 t20)
        actions := by
  refine Run.along_congr (fun s a t hs hstep => streamKinds_step hs hstep) ?_ actions
    (streamKinds_init t60 t20) hrun
  intro s a t hs hstep
  cases steps_of_step hstep with
  | poll => exact Iff.rfl
  | pace hphase => exact forall_congr' fun htime => isReturned_pace_iff hs hphase htime
  | emits => exact Iff.rfl
  | stops => exact Iff.rfl

end Stop

def oneSecond : CliArgs := { emptyPackets with duration := 1 }

/-- The client has connected when its second is up. -/
def connectAndWait (created : List GameStream) : List Action :=
  let pollAt : Action := .poll { instant := 0, micros := 0 }
  let up := nanosPerSec
  [.backendEmits (.connected Uuid.nil), pollAt] ++
    created.flatMap (fun stream => [.backendEmits (.streamCreated Uuid.nil stream), pollAt]) ++
      [pollAt, .pace { elapsedAt := up, now := up, micros60hz := 0, micros20hz := 0 }]

theorem stops_with_streams :
    Run.Along (step crc32 [] oneSecond) (Stops crc32 [] oneSecond) (init oneSecond 0 0)
      (connectAndWait [GameStream.new 1 .unreliable, GameStream.new 2 .reliable]) := by
  obtain ⟨st, hrun⟩ : ∃ st, Run.run (step crc32 [] oneSecond) (init oneSecond 0 0)
      (connectAndWait [GameStream.new 1 .unreliable, GameStream.new 2 .reliable]) = some st :=
    ⟨_, rfl⟩
  rw [stops_iff_unhindered crc32 [] oneSecond 0 0 _ st hrun]
  refine ⟨trivial, trivial, trivial, trivial, trivial, trivial, trivial, fun _ => ?_, trivial⟩
  exact ⟨fun _ => ⟨by decide, fun _ => by decide⟩, fun _ _ => ⟨by decide, fun _ => by decide⟩⟩

/-- Neither stream has been created when the second is up, and the loop goes on. -/
theorem continues_without_streams :
    (∃ st, Run.run (step crc32 [] oneSecond) (init oneSecond 0 0) (connectAndWait []) = some st ∧
        st.phase = .polling) ∧
      ¬ Run.Along (step crc32 [] oneSecond) (Stops crc32 [] oneSecond) (init oneSecond 0 0)
        (connectAndWait []) := by
  refine ⟨⟨_, rfl, rfl⟩, fun h => ?_⟩
  have hstop := h.2.2.2.1 ⟨rfl, 0, rfl, by decide⟩
  exact absurd hstop (by decide)

end Client
end GameSockets

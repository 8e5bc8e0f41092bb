/-
What the unreliable stream can do to the reliable one.

The 20 Hz side of the client is a machine of its own: it sees the events, the clock and, for each
iteration, what the 60 Hz block did to it.  Two runs that differ in the unreliable stream drive
two such machines with the same events and clock, so all that can tell them apart is the 60 Hz
block.
-/
import GameSockets.Client.Pacing
import GameSockets.Client.Numbering

namespace GameSockets
namespace Client

open Library

/-! ## The 20 Hz side -/

/-- What the 60 Hz block does to an iteration. -/
inductive Gate where
  | through
  /-- `continue` -/
  | skipped
  /-- the packet is not sent or not counted -/
  | failed
deriving DecidableEq

/-- What the 20 Hz side of the client sees. -/
inductive Note where
  | event (e : GameNetworkEvent) (r : PollReading) (alive : Bool)
  /-- the channel is empty and closed -/
  | closed
  | turn (r : PaceReading) (alive : Bool) (gate : Gate)

/-- One iteration, as far as the reliable stream goes. -/
structure Turn where
  /-- a reliable packet is due and can be sent -/
  wants : Bool
  /-- the 60 Hz block lets the iteration through -/
  passes : Bool
  /-- the packets sent on the reliable stream -/
  ids : List UInt64
deriving DecidableEq

/-- No iteration, which sends nothing. -/
def Turn.none : Turn := { wants := false, passes := false, ids := [] }

/-- A client without its unreliable stream, while its loop goes on. -/
structure Sender where
  serverId : Option GameConnection
  benchmarkStartTime : Option Nat
  needStop : Bool
  nextStreamId : UInt16
  stream : Option GameStream
  sequences : GameStream → Option UInt64
  last20hzTick : Nat

namespace Sender

/-- The end of an iteration. -/
def rest (s : Sender) : Option Sender := if s.needStop then none else some s

def event (s : Sender) (r : PollReading) (alive : Bool) : GameNetworkEvent → Option Sender
  | .connected conn =>
    if s.nextStreamId.toNat + 2 < UInt16.size ∧ alive = true then
      some
        { s with
          serverId := some conn,
          nextStreamId := s.nextStreamId + 1 + 1,
          benchmarkStartTime := s.benchmarkStartTime.or (some r.instant) }
    else none
  | .disconnected _ => some { s with serverId := none, needStop := true }
  | .message _ _ _ => some s
  | .error _ _ => some s
  | .streamCreated _ stream =>
    if stream.isReliable then some { s with stream := some stream } else some s
  | .streamClosed _ stream =>
    if stream.isReliable then some { s with stream := none } else some s

def checkDuration (args : CliArgs) (r : PaceReading) (s : Sender) : Sender :=
  match s.benchmarkStartTime with
  | some start =>
    if r.elapsedAt - start ≥ args.duration.toNat * nanosPerSec then { s with needStop := true }
    else s
  | none => s

section Turns

variable (fits : Prop) [Decidable fits] (args : CliArgs)

/-- A reliable packet is due and can be sent. -/
def Wants (r : PaceReading) (alive : Bool) (s : Sender) : Prop :=
  s.serverId.isSome = true ∧ r.now - s.last20hzTick ≥ interval20hz ∧ s.stream.isSome = true ∧
    fits ∧ alive = true

instance (r : PaceReading) (alive : Bool) (s : Sender) : Decidable (Wants fits r alive s) :=
  inferInstanceAs (Decidable (_ ∧ _ ∧ _ ∧ _ ∧ _))

def nextId (s : Sender) (stream : GameStream) : UInt64 := (s.sequences stream).getD 0

def pace20hz (r : PaceReading) (alive : Bool) (s : Sender) : Option Sender :=
  if r.now - s.last20hzTick ≥ interval20hz then
    match s.stream with
    | none => some s
    | some stream =>
      if fits ∧ alive = true ∧ (s.nextId stream).toNat + 1 < UInt64.size then
        rest
          { s with
            sequences := Function.update s.sequences stream (some (s.nextId stream + 1)),
            last20hzTick := s.last20hzTick + interval20hz }
      else none
  else s.rest

theorem pace20hz_of_due {r : PaceReading} {s : Sender} {stream : GameStream}
    (hdue : r.now - s.last20hzTick ≥ interval20hz) (hstream : s.stream = some stream)
    (alive : Bool) :
    s.pace20hz fits r alive =
      if fits ∧ alive = true ∧ (s.nextId stream).toNat + 1 < UInt64.size then
        rest
          { s with
            sequences := Function.update s.sequences stream (some (s.nextId stream + 1)),
            last20hzTick := s.last20hzTick + interval20hz }
      else none := by
  rw [pace20hz, if_pos hdue]
  split
  · next hnone => cases hnone.symm.trans hstream
  · next other hother =>
    cases hother.symm.trans hstream
    rfl

def turn (r : PaceReading) (alive : Bool) (gate : Gate) (s : Sender) : Option Sender :=
  if s.serverId.isSome then
    match gate with
    | .through => (s.checkDuration args r).pace20hz fits r alive
    | .skipped => some (s.checkDuration args r)
    | .failed => none
  else s.rest

def ids (r : PaceReading) (alive : Bool) (gate : Gate) (s : Sender) : List UInt64 :=
  if Wants fits r alive s ∧ gate = .through then (s.stream.map s.nextId).toList else []

/-- The iterations of a sender that is driven by what it sees. -/
def turns : Option Sender → List Note → List Turn
  | some s, .event e r alive :: notes => turns (s.event r alive e) notes
  | some s, .turn r alive gate :: notes =>
    { wants := Wants fits r alive s, passes := gate = .through,
      ids := s.ids fits r alive gate } :: turns (s.turn fits args r alive gate) notes
  | _, _ => []

end Turns

end Sender

/-! ## The client as a sender -/

/-- An event other than one about an unreliable stream. -/
def concernsReliable : GameNetworkEvent → Bool
  | .streamCreated _ stream => stream.isReliable
  | .streamClosed _ stream => stream.isReliable
  | _ => true

def sender (st : ClientState) : Sender :=
  { serverId := st.serverId,
    benchmarkStartTime := st.benchmarkStartTime,
    needStop := st.needStop,
    nextStreamId := st.peer.nextStreamId,
    stream := st.reliableGameStream,
    sequences := fun stream => if stream.isReliable then st.packetSequences stream else none,
    last20hzTick := st.last20hzTick }

def view (st : ClientState) : Option Sender := if st.phase.over then none else some (sender st)

section Refinement

variable (crc : Bytes → UInt32) (entropy : Bytes) (args : CliArgs)

def gate (r : PaceReading) (st : ClientState) : Gate :=
  if Due60hz r st then
    match st.unreliableGameStream with
    | none => .skipped
    | some stream => if Sendable entropy args stream st then .through else .failed
  else .through

def note (st : ClientState) : Action → Option Note
  | .poll r =>
    match st.phase, st.peer.poll with
    | .polling, .ok (some (e, _)) =>
      if concernsReliable e then some (.event e r st.peer.alive) else none
    | .polling, .error _ => some .closed
    | _, _ => none
  | .pace r =>
    match st.phase with
    | .pacing => some (.turn r st.peer.alive (gate entropy args r st))
    | _ => none
  | .backendEmits _ => none
  | .backendStops => none

/-- The ids of the packets that a step sends on the reliable stream. -/
def newIds (st st' : ClientState) : List UInt64 :=
  (((sends st').drop (sends st).length).filter (·.stream.isReliable)).map fun m => packetId m.data

/-- The iteration that a pacing block ends. -/
def turn (st : ClientState) : Action → Option Turn
  | .pace r =>
    match st.phase with
    | .pacing =>
      some
        { wants := st.serverId.isSome = true ∧ Wants20hz entropy args r st,
          passes := Passes60hz entropy args r st,
          ids := newIds st (pace crc entropy args r st) }
    | _ => none
  | .poll _ => none
  | .backendEmits _ => none
  | .backendStops => none

variable {crc entropy args}

theorem view_of_live {st : ClientState} (h : st.phase.over = false) :
    view st = some (sender st) := by
  rw [view, h]
  rfl

theorem view_of_over {st : ClientState} (h : st.phase.over = true) : view st = none := by
  rw [view, h]
  rfl

theorem gate_eq_through_iff {r : PaceReading} {st : ClientState} :
    gate entropy args r st = .through ↔ Passes60hz entropy args r st := by
  unfold gate Passes60hz
  by_cases hdue : Due60hz r st
  · rw [if_pos hdue]
    cases st.unreliableGameStream with
    | none => simp [hdue]
    | some stream =>
      by_cases hsend : Sendable entropy args stream st <;> simp [hdue, hsend]
  · rw [if_neg hdue]
    exact iff_of_true rfl fun h => absurd h hdue

/-! ### Events -/

theorem view_handleEvent (r : PollReading) {st : ClientState} (hphase : st.phase = .polling)
    (e : GameNetworkEvent) :
    view (handleEvent crc args r st e) = (sender st).event r st.peer.alive e := by
  have hlive := live_of_polling hphase
  generalize hst : handleEvent crc args r st e = st'
  cases handles_of_handleEvent hst with
  | @connected c peer hcan hasks hnext =>
    have hevent : (sender st).event r st.peer.alive (.connected c) = some _ := if_pos hcan
    rw [hevent, view_of_live (by exact hlive), sender, hnext]
    rfl
  | @refused c peer phase hcan hasks hover =>
    have hevent : (sender st).event r st.peer.alive (.connected c) = none := if_neg hcan
    rw [hevent, view_of_over hover]
  | disconnected => rfl
  | reliableCreated hkind =>
    rw [Sender.event, if_pos hkind]
    exact view_of_live hlive
  | unreliableCreated hkind =>
    rw [Sender.event, if_neg hkind]
    exact view_of_live hlive
  | reliableClosed hkind =>
    rw [Sender.event, if_pos hkind]
    exact view_of_live hlive
  | unreliableClosed hkind =>
    rw [Sender.event, if_neg hkind]
    exact view_of_live hlive
  | _ => exact view_of_live hlive

/-- An event about an unreliable stream leaves the 20 Hz side as it is. -/
theorem event_of_not_concernsReliable {e : GameNetworkEvent} (h : ¬ concernsReliable e = true)
    (s : Sender) (r : PollReading) (alive : Bool) : s.event r alive e = some s := by
  cases e with
  | streamCreated c stream => exact if_neg h
  | streamClosed c stream => exact if_neg h
  | _ => exact absurd rfl h

/-! ### Pacing blocks -/

/-- The ids of the packets sent on the reliable stream from one state to the other. -/
def Emits (st st' : ClientState) (ids : List UInt64) : Prop :=
  ∃ ms, sends st' = sends st ++ ms ∧
    (ms.filter (·.stream.isReliable)).map (fun m => packetId m.data) = ids

theorem newIds_of_emits {st st' : ClientState} {ids : List UInt64} (h : Emits st st' ids) :
    newIds st st' = ids := by
  obtain ⟨ms, hs, hids⟩ := h
  rw [newIds, hs, List.drop_left, hids]

theorem emits_nil_of_eq {st st' : ClientState} (h : sends st' = sends st) : Emits st st' [] :=
  ⟨[], by rw [h, List.append_nil], rfl⟩

/-- A packet on an unreliable stream does not show. -/
theorem Emits.after_unreliable {st st' : ClientState} {stream : GameStream}
    (hkind : stream.isReliable = false) {conn : GameConnection} {micros : UInt64}
    {ids : List UInt64} (h : Emits (post crc entropy args conn stream micros st) st' ids) :
    Emits st st' ids := by
  obtain ⟨ms, hs, hids⟩ := h
  rw [sends_post, List.append_assoc] at hs
  refine ⟨_, hs, ?_⟩
  rw [List.singleton_append, List.filter_cons_of_neg (by simp [hkind])]
  exact hids

theorem emits_reliable {st st' : ClientState} {stream : GameStream}
    (hkind : stream.isReliable = true) {conn : GameConnection} {micros : UInt64}
    (hs : sends st' = sends (post crc entropy args conn stream micros st)) :
    Emits st st' [counter st stream] := by
  rw [sends_post] at hs
  refine ⟨_, hs, ?_⟩
  rw [List.filter_cons_of_pos (by exact hkind), List.filter_nil, List.map_singleton,
    packetId_toBytes]
  rfl

theorem sends_checkStop (st : ClientState) : sends (checkStop st) = sends st := by
  unfold checkStop
  split <;> rfl

theorem view_checkStop (st : ClientState) : view (checkStop st) = (sender st).rest := by
  unfold checkStop
  split
  · next hstop => exact (if_pos hstop).symm
  · next hstop => exact (if_neg hstop).symm

theorem nextId_sender {st : ClientState} {stream : GameStream}
    (hkind : stream.isReliable = true) : (sender st).nextId stream = counter st stream := by
  simp only [Sender.nextId, sender, hkind, if_true, counter]

/-- The packet of an unreliable stream moves no counter of the 20 Hz side. -/
theorem sender_unreliable {st : ClientState} {stream : GameStream}
    (hkind : stream.isReliable = false) (conn : GameConnection) (micros : UInt64) :
    sender (tick60hz (count stream (post crc entropy args conn stream micros st))) = sender st := by
  have hseq : (fun other : GameStream => if other.isReliable then
        Function.update st.packetSequences stream (some (counter st stream + 1)) other
      else none) =
      fun other => if other.isReliable then st.packetSequences other else none := by
    funext other
    by_cases hother : other = stream
    · rw [hother, hkind]
      rfl
    · rw [Function.update_of_ne hother]
  exact congrArg (fun sequences => { sender st with sequences := sequences }) hseq

theorem sender_reliable {st : ClientState} {stream : GameStream}
    (hkind : stream.isReliable = true) (conn : GameConnection) (micros : UInt64) :
    sender (tick20hz (count stream (post crc entropy args conn stream micros st))) =
      { sender st with
        sequences := Function.update (sender st).sequences stream
          (some ((sender st).nextId stream + 1)),
        last20hzTick := (sender st).last20hzTick + interval20hz } := by
  have hseq : (fun other : GameStream => if other.isReliable then
        Function.update st.packetSequences stream (some (counter st stream + 1)) other
      else none) =
      Function.update (sender st).sequences stream (some ((sender st).nextId stream + 1)) := by
    funext other
    by_cases hother : other = stream
    · rw [hother, hkind, Function.update_self, Function.update_self, nextId_sender hkind]
      rfl
    · rw [Function.update_of_ne hother, Function.update_of_ne hother, sender]
  exact congrArg (fun sequences =>
    { sender st with
      sequences := sequences, last20hzTick := (sender st).last20hzTick + interval20hz }) hseq

theorem view_pace20hz (r : PaceReading) (conn : GameConnection) {st : ClientState}
    (hkinds : StreamKinds st) (hphase : st.phase = .pacing) :
    view (Client.pace20hz crc entropy args r conn st) =
        (sender st).pace20hz (Fits entropy args) r st.peer.alive ∧
      Emits st (Client.pace20hz crc entropy args r conn st)
        (if Wants20hz entropy args r st then
          (st.reliableGameStream.map (counter st)).toList else []) := by
  rcases @pace20hz_cases crc entropy args r conn st hphase with
    ⟨hdue, heq⟩ | ⟨hdue, ⟨hstream, heq⟩ | ⟨stream, hstream, ⟨hsend, heq⟩ | ⟨hsend, heq⟩⟩⟩
  · rw [heq, if_neg fun h => hdue h.1]
    exact ⟨(view_checkStop st).trans (if_neg hdue).symm, emits_nil_of_eq (sends_checkStop st)⟩
  · have hdue' : r.now - (sender st).last20hzTick ≥ interval20hz := hdue
    have hspec : (sender st).pace20hz (Fits entropy args) r st.peer.alive = some (sender st) := by
      have hnone : (sender st).stream = none := hstream
      rw [Sender.pace20hz, if_pos hdue', hnone]
    have hwants : ¬ Wants20hz entropy args r st := by
      intro h
      have hsome := h.2.1
      rw [hstream] at hsome
      cases hsome
    rw [heq, hspec, if_neg hwants]
    exact ⟨rfl, emits_nil_of_eq rfl⟩
  · have hkind := hkinds.reliable _ hstream
    have hcan : Fits entropy args ∧ st.peer.alive = true ∧
        ((sender st).nextId stream).toNat + 1 < UInt64.size := by
      rw [nextId_sender hkind]
      exact hsend
    have hsome : (sender st).stream = some stream := hstream
    have hdue' : r.now - (sender st).last20hzTick ≥ interval20hz := hdue
    have hwants : Wants20hz entropy args r st := ⟨hdue, by rw [hstream]; rfl, hsend.1, hsend.2.1⟩
    refine ⟨?_, ?_⟩
    · rw [heq, view_checkStop, sender_reliable hkind, Sender.pace20hz_of_due _ hdue' hsome,
        if_pos hcan]
    · rw [heq, if_pos hwants, hstream]
      exact emits_reliable hkind (sends_checkStop _)
  · have hkind := hkinds.reliable _ hstream
    have hcan : ¬ (Fits entropy args ∧ st.peer.alive = true ∧
        ((sender st).nextId stream).toNat + 1 < UInt64.size) := by
      rw [nextId_sender hkind]
      exact hsend
    have hsome : (sender st).stream = some stream := hstream
    have hdue' : r.now - (sender st).last20hzTick ≥ interval20hz := hdue
    obtain ⟨hover, hs⟩ := @sendPacket_over crc entropy args stream st hsend conn r.micros20hz
    refine ⟨?_, ?_⟩
    · rw [heq, view_of_over hover, Sender.pace20hz_of_due _ hdue' hsome, if_neg hcan]
    · rw [heq, hstream]
      by_cases hout : Fits entropy args ∧ st.peer.alive = true
      · rw [if_pos hout] at hs
        rw [if_pos ⟨hdue, by rw [hstream]; rfl, hout⟩]
        exact emits_reliable hkind hs
      · rw [if_neg hout] at hs
        rw [if_neg fun h => hout h.2.2]
        exact emits_nil_of_eq hs

theorem view_pace60hz (r : PaceReading) (conn : GameConnection) {st : ClientState}
    (hkinds : StreamKinds st) (hphase : st.phase = .pacing) :
    view (pace60hz crc entropy args r conn st) =
        (match gate entropy args r st with
          | .through => (sender st).pace20hz (Fits entropy args) r st.peer.alive
          | .skipped => some (sender st)
          | .failed => none) ∧
      Emits st (pace60hz crc entropy args r conn st)
        (if Wants20hz entropy args r st ∧ gate entropy args r st = .through then
          (st.reliableGameStream.map (counter st)).toList else []) := by
  rcases @pace60hz_cases crc entropy args r conn st hphase with
    ⟨hdue, heq⟩ | ⟨hdue, ⟨hstream, heq⟩ | ⟨stream, hstream, ⟨hsend, heq⟩ | ⟨hsend, heq⟩⟩⟩
  · have hgate : gate entropy args r st = .through := if_neg hdue
    rw [heq, hgate]
    simp only [and_true]
    exact view_pace20hz r conn hkinds hphase
  · have hgate : gate entropy args r st = .skipped := by
      rw [gate, if_pos hdue, hstream]
    rw [heq, hgate, if_neg fun h => by cases h.2]
    exact ⟨rfl, emits_nil_of_eq rfl⟩
  · have hgate : gate entropy args r st = .through := by
      rw [gate, if_pos hdue, hstream]
      exact if_pos hsend
    have hkind := hkinds.unreliable _ hstream
    let sent := tick60hz (count stream (post crc entropy args conn stream r.micros60hz st))
    have hkinds' : StreamKinds sent := ⟨hkinds.unreliable, hkinds.reliable⟩
    obtain ⟨hview, hemits⟩ := @view_pace20hz crc entropy args r conn sent hkinds' hphase
    have hcounter : st.reliableGameStream.map (counter sent) =
        st.reliableGameStream.map (counter st) := by
      cases hother : st.reliableGameStream with
      | none => rfl
      | some other =>
        exact congrArg some (counter_count_of_ne (hkinds.ne hstream hother) _)
    have hreliable : sent.reliableGameStream = st.reliableGameStream := rfl
    have hwants : Wants20hz entropy args r sent ↔ Wants20hz entropy args r st := Iff.rfl
    rw [sender_unreliable hkind] at hview
    rw [hreliable, hcounter] at hemits
    rw [heq, hgate]
    simp only [and_true]
    simp only [hwants] at hemits
    exact ⟨hview, Emits.after_unreliable hkind hemits⟩
  · have hgate : gate entropy args r st = .failed := by
      rw [gate, if_pos hdue, hstream]
      exact if_neg hsend
    have hkind := hkinds.unreliable _ hstream
    obtain ⟨hover, hs⟩ := @sendPacket_over crc entropy args stream st hsend conn r.micros60hz
    rw [heq, hgate, if_neg fun h => by cases h.2]
    refine ⟨view_of_over hover, ?_⟩
    by_cases hout : Fits entropy args ∧ st.peer.alive = true
    · rw [if_pos hout] at hs
      exact Emits.after_unreliable hkind (emits_nil_of_eq hs)
    · rw [if_neg hout] at hs
      exact emits_nil_of_eq hs

theorem sender_checkDuration (r : PaceReading) (st : ClientState) :
    sender (checkDuration args r st) = (sender st).checkDuration args r := by
  unfold checkDuration Sender.checkDuration
  cases hstart : st.benchmarkStartTime with
  | none =>
    have hnone : (sender st).benchmarkStartTime = none := hstart
    rw [hnone]
  | some start =>
    have hsome : (sender st).benchmarkStartTime = some start := hstart
    rw [hsome]
    dsimp only
    split <;> rfl

/-- A pacing block does to the 20 Hz side what its 60 Hz block lets through. -/
theorem view_pace (r : PaceReading) {st : ClientState} (hkinds : StreamKinds st)
    (hphase : st.phase = .pacing) :
    view (pace crc entropy args r st) =
        (sender st).turn (Fits entropy args) args r st.peer.alive (gate entropy args r st) ∧
      newIds st (pace crc entropy args r st) =
        (sender st).ids (Fits entropy args) r st.peer.alive (gate entropy args r st) := by
  cases hconn : st.serverId with
  | none =>
    have hnone : ¬ (sender st).serverId.isSome = true := by
      show ¬ st.serverId.isSome = true
      rw [hconn]
      exact Bool.false_ne_true
    have hpace : pace crc entropy args r st = checkStop st := by
      rw [pace, hconn]
    refine ⟨?_, ?_⟩
    · rw [hpace, view_checkStop]
      exact (if_neg hnone).symm
    · rw [hpace, newIds_of_emits (emits_nil_of_eq (sends_checkStop st)), Sender.ids,
        if_neg fun h => hnone h.1.1]
  | some conn =>
    have hsome : (sender st).serverId.isSome = true := by
      show st.serverId.isSome = true
      rw [hconn]
      rfl
    have hpace : pace crc entropy args r st =
        pace60hz crc entropy args r conn (checkDuration args r st) := by
      rw [pace, hconn]
    obtain ⟨stop, hcheck⟩ := @checkDuration_eq args r st
    have hkinds' : StreamKinds { st with needStop := stop } := ⟨hkinds.unreliable, hkinds.reliable⟩
    obtain ⟨hview, hemits⟩ :=
      @view_pace60hz crc entropy args r conn { st with needStop := stop } hkinds' hphase
    refine ⟨?_, ?_⟩
    · rw [hpace]
      refine Eq.trans ?_ (if_pos hsome).symm
      rw [← sender_checkDuration, hcheck]
      exact hview
    · have hids : st.reliableGameStream.map (counter st) =
          (sender st).stream.map (sender st).nextId := by
        cases hstream : st.reliableGameStream with
        | none => simp [sender, hstream]
        | some stream =>
          have hstream' : (sender st).stream = some stream := hstream
          rw [hstream', Option.map_some, Option.map_some,
            nextId_sender (hkinds.reliable _ hstream)]
      have hwants : Wants20hz entropy args r { st with needStop := stop } ↔
          (sender st).Wants (Fits entropy args) r st.peer.alive :=
        ⟨fun h => ⟨hsome, h⟩, fun h => h.2⟩
      simp only [hwants] at hemits
      rw [hpace, hcheck, Sender.ids, ← hids]
      exact newIds_of_emits hemits

/-! ### Runs -/

theorem turns_none (fits : Prop) [Decidable fits] (args : CliArgs) (notes : List Note) :
    Sender.turns fits args none notes = [] := by
  cases notes <;> rfl

theorem turns_step {st st' : ClientState} {a : Action} (hkinds : StreamKinds st)
    (hstep : step crc entropy args st a = some st') (notes : List Note) :
    (turn crc entropy args st a).toList ++
        Sender.turns (Fits entropy args) args (view st') notes =
      Sender.turns (Fits entropy args) args (view st)
        ((note entropy args st a).toList ++ notes) := by
  cases steps_of_step hstep with
  | @poll r hphase =>
    have hlive := live_of_polling hphase
    have hturn : turn crc entropy args st (.poll r) = none := rfl
    rw [view_of_live hlive, hturn]
    cases hpoll : st.peer.poll with
    | error err =>
      have hnote : note entropy args st (.poll r) = some .closed := by
        simp only [note, hphase, hpoll]
      have hpolled : poll crc args r st = { st with phase := .returned (.error err) } := by
        simp only [poll, hpoll]
      rw [hnote, hpolled]
      exact turns_none _ _ _
    | ok found =>
      cases found with
      | none =>
        have hnote : note entropy args st (.poll r) = none := by
          simp only [note, hphase, hpoll]
        have hpolled : poll crc args r st = { st with phase := .pacing } := by
          simp only [poll, hpoll]
        rw [hnote, hpolled]
        rfl
      | some found =>
        obtain ⟨e, peer⟩ := found
        obtain ⟨rx, -, hpeer⟩ := GamePeer.poll_eq_some hpoll
        have hnote : note entropy args st (.poll r) =
            if concernsReliable e then some (.event e r st.peer.alive) else none := by
          simp only [note, hphase, hpoll]
        have hpolled : poll crc args r st =
            handleEvent crc args r { st with peer := peer } e := by
          simp only [poll, hpoll]
        have hview : view (poll crc args r st) = (sender st).event r st.peer.alive e := by
          have h := @view_handleEvent crc args r { st with peer := peer } hphase e
          rw [hpolled, h, hpeer]
          rfl
        by_cases hconcerns : concernsReliable e = true
        · rw [hview, hnote, if_pos hconcerns]
          rfl
        · rw [hview, hnote, if_neg hconcerns, event_of_not_concernsReliable hconcerns]
          rfl
  | @pace r hphase =>
    have hlive := live_of_pacing hphase
    obtain ⟨hview, hids⟩ := @view_pace crc entropy args r st hkinds hphase
    have hpasses : decide (Passes60hz entropy args r st) =
        decide (gate entropy args r st = .through) :=
      decide_eq_decide.mpr gate_eq_through_iff.symm
    have hnote : note entropy args st (.pace r) =
        some (.turn r st.peer.alive (gate entropy args r st)) := by
      simp only [note, hphase]
    have hturn : turn crc entropy args st (.pace r) =
        some
          { wants := st.serverId.isSome = true ∧ Wants20hz entropy args r st,
            passes := gate entropy args r st = .through,
            ids := (sender st).ids (Fits entropy args) r st.peer.alive
              (gate entropy args r st) } := by
      simp only [turn, hphase, hids, hpasses]
    rw [view_of_live hlive, hview, hnote, hturn]
    rfl
  | emits =>
    rfl
  | stops =>
    rfl

/-- The iterations of a run are those of a sender that is driven by the run's notes. -/
theorem turns_eq_turns (actions : List Action) {st final : ClientState} (hkinds : StreamKinds st)
    (hrun : Run.run (step crc entropy args) st actions = some final) :
    Run.trace (step crc entropy args) (turn crc entropy args) st actions =
      Sender.turns (Fits entropy args) args (view st)
        (Run.trace (step crc entropy args) (note entropy args) st actions) := by
  induction actions generalizing st with
  | nil =>
    show [] = Sender.turns _ _ (view st) []
    cases view st <;> rfl
  | cons a actions ih =>
    obtain ⟨u, hu, hrest⟩ := Run.run_cons_eq_some _ hrun
    have h := ih (streamKinds_step hkinds hu) hrest
    rw [Run.trace, Run.trace, hu, Option.elim_some, Option.elim_some, h]
    exact turns_step hkinds hu _

end Refinement

/-! ## Two runs -/

/-- What the 20 Hz side sees of its surroundings. -/
inductive Input where
  | event (e : GameNetworkEvent) (r : PollReading) (alive : Bool)
  | closed
  | turn (r : PaceReading) (alive : Bool)

def Note.input : Note → Input
  | .event e r alive => .event e r alive
  | .closed => .closed
  | .turn r alive _ => .turn r alive

/-- The same packets, iteration by iteration. -/
def SameReliable (l m : List Turn) : Prop :=
  ∀ i, (l.getD i Turn.none).ids = (m.getD i Turn.none).ids

/-- The 60 Hz block lets neither or both reach a packet that is due. -/
def SameGate (l m : List Turn) : Prop :=
  ∀ i, (l.getD i Turn.none).wants = true ∨ (m.getD i Turn.none).wants = true →
    (l.getD i Turn.none).passes = (m.getD i Turn.none).passes

theorem SameReliable.symm {l m : List Turn} (h : SameReliable l m) : SameReliable m l :=
  fun i => (h i).symm

theorem SameGate.symm {l m : List Turn} (h : SameGate l m) : SameGate m l :=
  fun i hwants => (h i hwants.symm).symm

theorem sameReliable_cons {a b : Turn} {l m : List Turn} :
    SameReliable (a :: l) (b :: m) ↔ a.ids = b.ids ∧ SameReliable l m := by
  rw [SameReliable, ← Nat.and_forall_add_one]
  rfl

theorem sameGate_cons {a b : Turn} {l m : List Turn} :
    SameGate (a :: l) (b :: m) ↔
      (a.wants = true ∨ b.wants = true → a.passes = b.passes) ∧ SameGate l m := by
  rw [SameGate, ← Nat.and_forall_add_one]
  rfl

section Pair

variable {fits : Prop} [Decidable fits] {args : CliArgs}

namespace Sender

theorem ids_eq_nil_iff {r : PaceReading} {alive : Bool} {gate : Gate} {s : Sender} :
    s.ids fits r alive gate = [] ↔ ¬ (s.Wants fits r alive ∧ gate = .through) := by
  unfold ids
  split
  · next h =>
    obtain ⟨stream, hstream⟩ := Option.isSome_iff_exists.mp h.1.2.2.1
    rw [hstream]
    exact iff_of_false nofun fun hno => hno h
  · next h => exact iff_of_true rfl h

/-- A turn sends a packet when it wants to and is let through. -/
theorem ids_of_mem_turns {notes : List Note} {o : Option Sender} {t : Turn}
    (ht : t ∈ turns fits args o notes) :
    t.ids = [] ↔ ¬ (t.wants = true ∧ t.passes = true) := by
  induction notes generalizing o with
  | nil => cases o <;> cases ht
  | cons n notes ih =>
    cases o with
    | none => cases ht
    | some s =>
      cases n with
      | event e r alive => exact ih ht
      | closed => cases ht
      | turn r alive gate =>
        rcases List.mem_cons.mp ht with rfl | ht
        · simp only [decide_eq_true_eq]
          exact ids_eq_nil_iff
        · exact ih ht

theorem ids_eq_ids_iff {r : PaceReading} {alive : Bool} {gate gate' : Gate} {s : Sender} :
    s.ids fits r alive gate = s.ids fits r alive gate' ↔
      (s.Wants fits r alive → (gate = .through ↔ gate' = .through)) := by
  constructor
  · intro h hwants
    have hnil : s.ids fits r alive gate = [] ↔ s.ids fits r alive gate' = [] := by rw [h]
    rw [ids_eq_nil_iff, ids_eq_nil_iff, not_iff_not] at hnil
    simpa [hwants] using hnil
  · intro h
    have hcond : s.Wants fits r alive ∧ gate = .through ↔
        s.Wants fits r alive ∧ gate' = .through := and_congr_right h
    rw [ids, ids]
    simp only [hcond]

theorem checkDuration_eq (r : PaceReading) (s : Sender) :
    ∃ stop, s.checkDuration args r = { s with needStop := stop } := by
  unfold checkDuration
  split
  · split
    · exact ⟨true, rfl⟩
    · exact ⟨s.needStop, rfl⟩
  · exact ⟨s.needStop, rfl⟩

/-- A 20 Hz block that sends nothing ends the loop or leaves everything as it is. -/
theorem pace20hz_of_quiet {r : PaceReading} {alive : Bool} {s : Sender}
    (hconn : s.serverId.isSome = true) (h : ¬ s.Wants fits r alive) :
    s.pace20hz fits r alive = none ∨ s.pace20hz fits r alive = some s := by
  by_cases hdue : r.now - s.last20hzTick ≥ interval20hz
  · cases hstream : s.stream with
    | none =>
      rw [pace20hz, if_pos hdue, hstream]
      exact Or.inr rfl
    | some stream =>
      rw [pace20hz_of_due _ hdue hstream, if_neg]
      · exact Or.inl rfl
      · exact fun hcan => h ⟨hconn, hdue, by rw [hstream]; rfl, hcan.1, hcan.2.1⟩
  · rw [pace20hz, if_neg hdue, rest]
    split
    · exact Or.inl rfl
    · exact Or.inr rfl

/-- Where the 60 Hz block made no difference to a packet, it may still have ended one of the
loops, and made no other difference. -/
theorem turn_eq_or_none {r : PaceReading} {alive : Bool} {gate gate' : Gate} {s : Sender}
    (h : s.Wants fits r alive → (gate = .through ↔ gate' = .through)) :
    s.turn fits args r alive gate = s.turn fits args r alive gate' ∨
      s.turn fits args r alive gate = none ∨ s.turn fits args r alive gate' = none := by
  unfold turn
  by_cases hconn : s.serverId.isSome = true
  · rw [if_pos hconn, if_pos hconn]
    -- let through and skipped differ only where the 20 Hz block sends
    have hquiet : ¬ s.Wants fits r alive →
        (s.checkDuration args r).pace20hz fits r alive = none ∨
          (s.checkDuration args r).pace20hz fits r alive = some (s.checkDuration args r) := by
      intro hwants
      obtain ⟨stop, hcheck⟩ := @checkDuration_eq args r s
      rw [hcheck]
      exact pace20hz_of_quiet hconn hwants
    cases gate <;> cases gate'
    · exact Or.inl rfl
    · rcases hquiet fun hwants => by simpa using h hwants with hnone | hsame
      · exact Or.inr (Or.inl hnone)
      · exact Or.inl hsame
    · exact Or.inr (Or.inr rfl)
    · rcases hquiet fun hwants => by simpa using h hwants with hnone | hsame
      · exact Or.inr (Or.inr hnone)
      · exact Or.inl hsame.symm
    · exact Or.inl rfl
    · exact Or.inr (Or.inr rfl)
    · exact Or.inr (Or.inl rfl)
    · exact Or.inr (Or.inl rfl)
    · exact Or.inl rfl
  · rw [if_neg hconn, if_neg hconn]
    exact Or.inl rfl

end Sender

/-- Nothing is sent against a run that has ended exactly when nothing that is due is let
through. -/
theorem sameReliable_nil_iff {l : List Turn}
    (h : ∀ t ∈ l, t.ids = [] ↔ ¬ (t.wants = true ∧ t.passes = true)) :
    SameReliable [] l ↔ SameGate [] l := by
  refine forall_congr' fun i => ?_
  have hi : (l.getD i Turn.none).ids = [] ↔
      ¬ ((l.getD i Turn.none).wants = true ∧ (l.getD i Turn.none).passes = true) := by
    rw [List.getD_eq_getElem?_getD]
    cases ht : l[i]? with
    | none => simp [Turn.none]
    | some t => exact h t (List.mem_of_getElem? ht)
  rw [List.getD_nil, eq_comm]
  exact hi.trans (by cases (l.getD i Turn.none).wants <;> simp [Turn.none])

/-- Two senders that see the same, as long as both go on, and start alike. -/
theorem sameReliable_turns_iff (l m : List Note) {s t : Option Sender}
    (hst : s = t ∨ s = none ∨ t = none)
    (hsame : l.map Note.input <+: m.map Note.input ∨ m.map Note.input <+: l.map Note.input) :
    SameReliable (Sender.turns fits args s l) (Sender.turns fits args t m) ↔
      SameGate (Sender.turns fits args s l) (Sender.turns fits args t m) := by
  have hleft : ∀ (t : Option Sender) (m : List Note),
      SameReliable [] (Sender.turns fits args t m) ↔
        SameGate [] (Sender.turns fits args t m) := fun t m =>
    sameReliable_nil_iff fun _ ht => Sender.ids_of_mem_turns ht
  have hright : ∀ (s : Option Sender) (l : List Note),
      SameReliable (Sender.turns fits args s l) [] ↔
        SameGate (Sender.turns fits args s l) [] := fun s l =>
    ⟨fun h => ((hleft s l).mp h.symm).symm, fun h => ((hleft s l).mpr h.symm).symm⟩
  have hnil : ∀ s : Option Sender, Sender.turns fits args s [] = [] := by
    intro s
    cases s <;> rfl
  induction l generalizing m s t with
  | nil =>
    rw [hnil]
    exact hleft t m
  | cons x l ih =>
    cases m with
    | nil =>
      rw [hnil]
      exact hright s (x :: l)
    | cons y m =>
      cases s with
      | none =>
        rw [turns_none]
        exact hleft t (y :: m)
      | some s =>
        cases t with
        | none =>
          rw [turns_none]
          exact hright (some s) (x :: l)
        | some t =>
          obtain rfl : s = t := by simpa using hst
          obtain ⟨hinput, hrest⟩ : x.input = y.input ∧
              (l.map Note.input <+: m.map Note.input ∨ m.map Note.input <+: l.map Note.input) := by
            rcases hsame with hsame | hsame
            · obtain ⟨hinput, hrest⟩ := List.cons_prefix_cons.mp hsame
              exact ⟨hinput, Or.inl hrest⟩
            · obtain ⟨hinput, hrest⟩ := List.cons_prefix_cons.mp hsame
              exact ⟨hinput.symm, Or.inr hrest⟩
          cases x with
          | event e r alive =>
            cases y with
            | event e' r' alive' =>
              cases hinput
              exact ih m (Or.inl rfl) hrest
            | closed => cases hinput
            | turn r' alive' gate' => cases hinput
          | closed =>
            cases y with
            | event e' r' alive' => cases hinput
            | closed => exact iff_of_true (fun _ => rfl) fun _ _ => rfl
            | turn r' alive' gate' => cases hinput
          | turn r alive gate =>
            cases y with
            | event e' r' alive' => cases hinput
            | closed => cases hinput
            | turn r' alive' gate' =>
              cases hinput
              have hhead : s.ids fits r alive gate = s.ids fits r alive gate' ↔
                  (s.Wants fits r alive → (gate = .through ↔ gate' = .through)) :=
                Sender.ids_eq_ids_iff
              rw [Sender.turns, Sender.turns, sameReliable_cons, sameGate_cons]
              simp only [decide_eq_true_eq, or_self, decide_eq_decide, hhead]
              exact and_congr_right fun hgate => ih m (Sender.turn_eq_or_none hgate) hrest

end Pair

section Independence

variable (crc : Bytes → UInt32)

/-- What a step shows to the 20 Hz side: an event other than one about an unreliable stream, the
end of the channel, or the clock of an iteration. -/
def input (st : ClientState) : Action → Option Input
  | .poll r =>
    match st.phase, st.peer.poll with
    | .polling, .ok (some (e, _)) =>
      if concernsReliable e then some (.event e r st.peer.alive) else none
    | .polling, .error _ => some .closed
    | _, _ => none
  | .pace r =>
    match st.phase with
    | .pacing => some (.turn r st.peer.alive)
    | _ => none
  | .backendEmits _ => none
  | .backendStops => none

theorem map_input_note (entropy : Bytes) (args : CliArgs) (st : ClientState) (a : Action) :
    (note entropy args st a).map Note.input = input st a := by
  cases a with
  | poll r =>
    simp only [note, input]
    split
    · split <;> rfl
    · rfl
    · rfl
  | pace r =>
    simp only [note, input]
    split <;> rfl
  | backendEmits e => rfl
  | backendStops => rfl

/-- Two runs show the same to the 20 Hz side, until one of them has ended. -/
def SameInputs (l m : List Input) (st st' : ClientState) : Prop :=
  l = m ∨ (l <+: m ∧ st.phase.over = true) ∨ (m <+: l ∧ st'.phase.over = true)

/-- Two runs that differ in the unreliable stream alone send the same reliable packets exactly
when their 60 Hz blocks let neither or both reach each packet that is due. -/
theorem sameReliable_iff_sameGate (entropy entropy' : Bytes)
    (hpool : entropy.length = entropy'.length) (args : CliArgs) (t60 t20 : Nat)
    (actions actions' : List Action) (st st' : ClientState)
    (hrun : Run.run (step crc entropy args) (init args t60 t20) actions = some st)
    (hrun' : Run.run (step crc entropy' args) (init args t60 t20) actions' = some st')
    (hsame : SameInputs
      (Run.trace (step crc entropy args) input (init args t60 t20) actions)
      (Run.trace (step crc entropy' args) input (init args t60 t20) actions') st st') :
    SameReliable
        (Run.trace (step crc entropy args) (turn crc entropy args) (init args t60 t20) actions)
        (Run.trace (step crc entropy' args) (turn crc entropy' args) (init args t60 t20)
          actions') ↔
      SameGate
        (Run.trace (step crc entropy args) (turn crc entropy args) (init args t60 t20) actions)
        (Run.trace (step crc entropy' args) (turn crc entropy' args) (init args t60 t20)
          actions') := by
  have hfits : Fits entropy' args ↔ Fits entropy args := by
    rw [Fits, Fits, hpool]
  have hinputs : ∀ (pool : Bytes) (l : List Action),
      (Run.trace (step crc pool args) (note pool args) (init args t60 t20) l).map Note.input =
        Run.trace (step crc pool args) input (init args t60 t20) l := by
    intro pool l
    rw [Run.map_trace]
    simp only [map_input_note]
  rw [turns_eq_turns actions (streamKinds_init t60 t20) hrun,
    turns_eq_turns actions' (streamKinds_init t60 t20) hrun']
  simp only [hfits]
  refine sameReliable_turns_iff _ _ (Or.inl rfl) ?_
  rw [hinputs, hinputs]
  rcases hsame with hsame | ⟨hsame, -⟩ | ⟨hsame, -⟩
  · rw [hsame]
    exact Or.inl (List.prefix_refl _)
  · exact Or.inl hsame
  · exact Or.inr hsame

end Independence

/-! ## With and without an unreliable stream -/

def atOnce : PollReading := { instant := 0, micros := 0 }

def afterInterval : PaceReading :=
  { elapsedAt := interval20hz, now := interval20hz, micros60hz := 0, micros20hz := 0 }

/-- The client connects, is told of some streams, and turns at 50 ms. -/
def oneTurn (created : List GameStream) : List Action :=
  [.backendEmits (.connected Uuid.nil), .poll atOnce] ++
    created.flatMap (fun stream =>
      [.backendEmits (.streamCreated Uuid.nil stream), .poll atOnce]) ++
    [.poll atOnce, .pace afterInterval]

def oneTurns (created : List GameStream) : List Turn :=
  Run.trace (step crc32 [] emptyPackets) (turn crc32 [] emptyPackets) (init emptyPackets 0 0)
    (oneTurn created)

/-- What each of these runs shows to the 20 Hz side. -/
def oneTurnInputs : List Input :=
  [.event (.connected Uuid.nil) atOnce true,
    .event (.streamCreated Uuid.nil (GameStream.new 2 .reliable)) atOnce true,
    .turn afterInterval true]

theorem sameReliable_lateStream :
    SameReliable (oneTurns [GameStream.new 1 .unreliable, GameStream.new 2 .reliable])
      (oneTurns [GameStream.new 2 .reliable, GameStream.new 1 .unreliable]) := by
  obtain ⟨st, hrun⟩ : ∃ st, Run.run (step crc32 [] emptyPackets) (init emptyPackets 0 0)
      (oneTurn [GameStream.new 1 .unreliable, GameStream.new 2 .reliable]) = some st := ⟨_, rfl⟩
  obtain ⟨st', hrun'⟩ : ∃ st, Run.run (step crc32 [] emptyPackets) (init emptyPackets 0 0)
      (oneTurn [GameStream.new 2 .reliable, GameStream.new 1 .unreliable]) = some st := ⟨_, rfl⟩
  have hinputs : Run.trace (step crc32 [] emptyPackets) input (init emptyPackets 0 0)
      (oneTurn [GameStream.new 1 .unreliable, GameStream.new 2 .reliable]) = oneTurnInputs := rfl
  have hinputs' : Run.trace (step crc32 [] emptyPackets) input (init emptyPackets 0 0)
      (oneTurn [GameStream.new 2 .reliable, GameStream.new 1 .unreliable]) = oneTurnInputs := rfl
  have hiff := sameReliable_iff_sameGate crc32 [] [] rfl emptyPackets 0 0 _ _ st st' hrun hrun'
    (Or.inl (hinputs.trans hinputs'.symm))
  have hturns : oneTurns [GameStream.new 1 .unreliable, GameStream.new 2 .reliable] =
      oneTurns [GameStream.new 2 .reliable, GameStream.new 1 .unreliable] := by
    decide +kernel
  exact hiff.mpr fun i _ => congrArg (fun l : List Turn => (l.getD i Turn.none).passes) hturns

/-- Without an unreliable stream the reliable packet of 50 ms is not sent. -/
theorem starved_without_unreliable :
    Run.trace (step crc32 [] emptyPackets) input (init emptyPackets 0 0)
        (oneTurn [GameStream.new 1 .unreliable, GameStream.new 2 .reliable]) = oneTurnInputs ∧
      Run.trace (step crc32 [] emptyPackets) input (init emptyPackets 0 0)
        (oneTurn [GameStream.new 2 .reliable]) = oneTurnInputs ∧
      (oneTurns [GameStream.new 1 .unreliable, GameStream.new 2 .reliable]).map Turn.ids = [[0]] ∧
      (oneTurns [GameStream.new 2 .reliable]).map Turn.ids = [[]] ∧
      ¬ SameReliable (oneTurns [GameStream.new 1 .unreliable, GameStream.new 2 .reliable])
        (oneTurns [GameStream.new 2 .reliable]) := by
  have hboth : (oneTurns [GameStream.new 1 .unreliable, GameStream.new 2 .reliable]) =
      [{ wants := true, passes := true, ids := [0] }] := by
    decide +kernel
  have hone : oneTurns [GameStream.new 2 .reliable] =
      [{ wants := true, passes := false, ids := [] }] := by
    decide +kernel
  refine ⟨rfl, rfl, by rw [hboth]; rfl, by rw [hone]; rfl, fun h => ?_⟩
  rw [hboth, hone] at h
  have hids : ([0] : List UInt64) = [] := h 0
  cases hids

end Client
end GameSockets

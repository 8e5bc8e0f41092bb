/-
How many packets a run sends.

Each timer starts before the connection exists and is advanced by one interval for each packet,
so it bounds the packets by the time since it was started.  What it owes when the connection
comes is sent as fast as the loop turns.
-/
import GameSockets.Client.Pacing
import GameSockets.Client.Numbering

namespace GameSockets
namespace Client

open Library

/-- The packets sent so far on the streams of a kind. -/
def countOn (reliable : Bool) (st : ClientState) : Nat :=
  (sends st).countP (·.stream.isReliable = reliable)

/-! ## Packets and ticks -/

section Pace

variable {crc : Bytes → UInt32} {entropy : Bytes} {args : CliArgs}

/-- Some packets go out, and the timers move along with them unless the loop has ended. -/
structure Advances (m n : Nat) (st st' : ClientState) : Prop where
  unreliable : countOn false st' = countOn false st + m
  reliable : countOn true st' = countOn true st + n
  tick60hz : st'.phase.over = false →
    st'.last60hzTick = st.last60hzTick + m * interval60hz
  tick20hz : st'.phase.over = false →
    st'.last20hzTick = st.last20hzTick + n * interval20hz

theorem Advances.trans {m n m' n' : Nat} {st st' st'' : ClientState} (h : Advances m n st st')
    (h' : Advances m' n' st' st'') (hlive : st'.phase.over = false) :
    Advances (m + m') (n + n') st st'' := by
  constructor
  · rw [h'.unreliable, h.unreliable, Nat.add_assoc]
  · rw [h'.reliable, h.reliable, Nat.add_assoc]
  · intro hover
    rw [h'.tick60hz hover, h.tick60hz hlive, Nat.add_mul, Nat.add_assoc]
  · intro hover
    rw [h'.tick20hz hover, h.tick20hz hlive, Nat.add_mul, Nat.add_assoc]

/-- A change of the flags or the phase. -/
theorem advances_zero {st st' : ClientState} (hs : sends st' = sends st)
    (h60 : st'.phase.over = false → st'.last60hzTick = st.last60hzTick)
    (h20 : st'.phase.over = false → st'.last20hzTick = st.last20hzTick) :
    Advances 0 0 st st' := by
  constructor
  · rw [countOn, hs, countOn, Nat.add_zero]
  · rw [countOn, hs, countOn, Nat.add_zero]
  · intro hover
    rw [h60 hover, Nat.zero_mul, Nat.add_zero]
  · intro hover
    rw [h20 hover, Nat.zero_mul, Nat.add_zero]

theorem advances_checkStop (st : ClientState) : Advances 0 0 st (checkStop st) := by
  unfold checkStop
  split <;> exact advances_zero rfl (fun _ => rfl) fun _ => rfl

theorem countOn_post (reliable : Bool) (conn : GameConnection) (stream : GameStream)
    (micros : UInt64) (st : ClientState) :
    countOn reliable (post crc entropy args conn stream micros st) =
      countOn reliable st + if stream.isReliable = reliable then 1 else 0 := by
  rw [countOn, sends_post, List.countP_append, ← countOn]
  simp

theorem advances_60hz {stream : GameStream} (hkind : stream.isReliable = false)
    {conn : GameConnection} {micros : UInt64} {st st' : ClientState}
    (hs : sends st' = sends (post crc entropy args conn stream micros st))
    (h60 : st'.phase.over = false → st'.last60hzTick = st.last60hzTick + interval60hz)
    (h20 : st'.phase.over = false → st'.last20hzTick = st.last20hzTick) : Advances 1 0 st st' := by
  constructor
  · rw [countOn, hs, ← countOn, countOn_post, if_pos hkind]
  · rw [countOn, hs, ← countOn, countOn_post, if_neg (by rw [hkind]; decide)]
  · intro hover
    rw [h60 hover, Nat.one_mul]
  · intro hover
    rw [h20 hover, Nat.zero_mul, Nat.add_zero]

theorem advances_20hz {stream : GameStream} (hkind : stream.isReliable = true)
    {conn : GameConnection} {micros : UInt64} {st st' : ClientState}
    (hs : sends st' = sends (post crc entropy args conn stream micros st))
    (h60 : st'.phase.over = false → st'.last60hzTick = st.last60hzTick)
    (h20 : st'.phase.over = false → st'.last20hzTick = st.last20hzTick + interval20hz) :
    Advances 0 1 st st' := by
  constructor
  · rw [countOn, hs, ← countOn, countOn_post, if_neg (by rw [hkind]; decide)]
  · rw [countOn, hs, ← countOn, countOn_post, if_pos hkind]
  · intro hover
    rw [h60 hover, Nat.zero_mul, Nat.add_zero]
  · intro hover
    rw [h20 hover, Nat.one_mul]

theorem advances_pace20hz (r : PaceReading) (conn : GameConnection) {st : ClientState}
    (hkinds : StreamKinds st) (hphase : st.phase = .pacing) :
    Advances 0 (if Wants20hz entropy args r st then 1 else 0) st
      (pace20hz crc entropy args r conn st) := by
  rcases @pace20hz_cases crc entropy args r conn st hphase with
    ⟨hdue, heq⟩ | ⟨hdue, ⟨hstream, heq⟩ | ⟨stream, hstream, ⟨hsend, heq⟩ | ⟨hsend, heq⟩⟩⟩
  · rw [heq, if_neg fun h => hdue h.1]
    exact advances_checkStop st
  · have hwants : ¬ Wants20hz entropy args r st := by
      intro h
      have hsome := h.2.1
      rw [hstream] at hsome
      cases hsome
    rw [heq, if_neg hwants]
    exact advances_zero rfl (fun _ => rfl) fun _ => rfl
  · have hsent : Advances 0 1 st (tick20hz (count stream
        (post crc entropy args conn stream r.micros20hz st))) :=
      advances_20hz (hkinds.reliable _ hstream) rfl (fun _ => rfl) fun _ => rfl
    have hlive : (tick20hz (count stream
        (post crc entropy args conn stream r.micros20hz st))).phase.over = false :=
      live_of_pacing hphase
    rw [heq, if_pos ⟨hdue, by rw [hstream]; rfl, hsend.1, hsend.2.1⟩]
    exact hsent.trans (advances_checkStop _) hlive
  · obtain ⟨hover, hs⟩ := @sendPacket_over crc entropy args stream st hsend conn r.micros20hz
    rw [heq]
    by_cases hout : Fits entropy args ∧ st.peer.alive = true
    · rw [if_pos hout] at hs
      rw [if_pos ⟨hdue, by rw [hstream]; rfl, hout⟩]
      refine advances_20hz (hkinds.reliable _ hstream) hs ?_ ?_
      · exact fun h => absurd hover (Bool.eq_false_iff.mp h)
      · exact fun h => absurd hover (Bool.eq_false_iff.mp h)
    · rw [if_neg hout] at hs
      rw [if_neg fun h => hout h.2.2]
      refine advances_zero hs ?_ ?_
      · exact fun h => absurd hover (Bool.eq_false_iff.mp h)
      · exact fun h => absurd hover (Bool.eq_false_iff.mp h)

theorem advances_pace60hz (r : PaceReading) (conn : GameConnection) {st : ClientState}
    (hkinds : StreamKinds st) (hphase : st.phase = .pacing) :
    Advances (if Sends60hz entropy args r st then 1 else 0)
      (if Passes60hz entropy args r st ∧ Wants20hz entropy args r st then 1 else 0) st
      (pace60hz crc entropy args r conn st) := by
  rcases @pace60hz_cases crc entropy args r conn st hphase with
    ⟨hdue, heq⟩ | ⟨hdue, ⟨hstream, heq⟩ | ⟨stream, hstream, ⟨hsend, heq⟩ | ⟨hsend, heq⟩⟩⟩
  · have hpass : Passes60hz entropy args r st := fun h => absurd h hdue
    rw [heq, if_neg fun h => hdue h.1]
    simp only [hpass, true_and]
    exact advances_pace20hz r conn hkinds hphase
  · have hpass : ¬ Passes60hz entropy args r st := by
      intro h
      obtain ⟨stream, hsome, -⟩ := h hdue
      rw [hstream] at hsome
      cases hsome
    have hsends : ¬ Sends60hz entropy args r st := by
      intro h
      have hsome := h.2.1
      rw [hstream] at hsome
      cases hsome
    have hwants : ¬ (Passes60hz entropy args r st ∧ Wants20hz entropy args r st) :=
      fun h => hpass h.1
    rw [heq, if_neg hsends, if_neg hwants]
    exact advances_zero rfl (fun _ => rfl) fun _ => rfl
  · let sent := tick60hz (count stream (post crc entropy args conn stream r.micros60hz st))
    have hsent : Advances 1 0 st sent :=
      advances_60hz (hkinds.unreliable _ hstream) rfl (fun _ => rfl) fun _ => rfl
    have hlive : sent.phase.over = false := live_of_pacing hphase
    have hpass : Passes60hz entropy args r st := fun _ => ⟨stream, hstream, hsend⟩
    have hkinds' : StreamKinds sent := ⟨hkinds.unreliable, hkinds.reliable⟩
    have hrest := @advances_pace20hz crc entropy args r conn sent hkinds' hphase
    have hwants : Wants20hz entropy args r sent ↔ Wants20hz entropy args r st := Iff.rfl
    have hboth := hsent.trans hrest hlive
    rw [Nat.add_zero, Nat.zero_add] at hboth
    rw [heq, if_pos ⟨hdue, by rw [hstream]; rfl, hsend.1, hsend.2.1⟩]
    simp only [hpass, true_and]
    simp only [hwants] at hboth
    exact hboth
  · have hpass : ¬ Passes60hz entropy args r st := by
      intro h
      obtain ⟨stream', hsome, hsend'⟩ := h hdue
      cases hstream.symm.trans hsome
      exact hsend hsend'
    obtain ⟨hover, hs⟩ := @sendPacket_over crc entropy args stream st hsend conn r.micros60hz
    have hwants : ¬ (Passes60hz entropy args r st ∧ Wants20hz entropy args r st) :=
      fun h => hpass h.1
    rw [heq, if_neg hwants]
    by_cases hout : Fits entropy args ∧ st.peer.alive = true
    · rw [if_pos hout] at hs
      rw [if_pos ⟨hdue, by rw [hstream]; rfl, hout⟩]
      refine advances_60hz (hkinds.unreliable _ hstream) hs ?_ ?_
      · exact fun h => absurd hover (Bool.eq_false_iff.mp h)
      · exact fun h => absurd hover (Bool.eq_false_iff.mp h)
    · rw [if_neg hout] at hs
      rw [if_neg fun h => hout h.2.2]
      refine advances_zero hs ?_ ?_
      · exact fun h => absurd hover (Bool.eq_false_iff.mp h)
      · exact fun h => absurd hover (Bool.eq_false_iff.mp h)

/-- Without a connection nothing is sent. -/
theorem advances_pace (r : PaceReading) {st : ClientState} (hkinds : StreamKinds st)
    (hphase : st.phase = .pacing) :
    Advances
      (if st.serverId.isSome = true ∧ Sends60hz entropy args r st then 1 else 0)
      (if st.serverId.isSome = true ∧ Passes60hz entropy args r st ∧
        Wants20hz entropy args r st then 1 else 0)
      st (pace crc entropy args r st) := by
  unfold pace
  cases hconn : st.serverId with
  | none => simpa using advances_checkStop st
  | some conn =>
    obtain ⟨stop, hcheck⟩ := @checkDuration_eq args r st
    have hkinds' : StreamKinds { st with needStop := stop } := ⟨hkinds.unreliable, hkinds.reliable⟩
    have h := @advances_pace60hz crc entropy args r conn { st with needStop := stop } hkinds' hphase
    dsimp only
    rw [hcheck]
    simp only [Option.isSome_some, true_and]
    exact ⟨h.unreliable, h.reliable, h.tick60hz, h.tick20hz⟩

/-! ## The clock -/

/-- The clock after the readings of an action, none of which goes back. -/
def Action.advance (clock : Nat) : Action → Option Nat
  | .poll r => if clock ≤ r.instant then some r.instant else none
  | .pace r => if clock ≤ r.elapsedAt ∧ r.elapsedAt ≤ r.now then some r.now else none
  | _ => some clock

theorem Action.le_of_advance {clock clock' : Nat} {a : Action}
    (h : a.advance clock = some clock') : clock ≤ clock' := by
  cases a with
  | poll r =>
    simp only [advance] at h
    split at h
    · next hle => exact Option.some.inj h ▸ hle
    · cases h
  | pace r =>
    simp only [advance] at h
    split at h
    · next hle => exact Option.some.inj h ▸ hle.1.trans hle.2
    · cases h
  | backendEmits e => exact (Option.some.inj h).le
  | backendStops => exact (Option.some.inj h).le

/-- The client and the latest reading of the clock. -/
structure Timed where
  client : ClientState
  clock : Nat

variable (crc entropy args)

def Timed.step (s : Timed) (a : Action) : Option Timed :=
  (a.advance s.clock).bind fun clock =>
    (Client.step crc entropy args s.client a).map fun client => { client := client, clock := clock }

/-- The two timers are started one after the other. -/
def Timed.init (t60 t20 : Nat) : Timed := { client := Client.init args t60 t20, clock := t20 }

variable {crc entropy args}

theorem Timed.step_eq_some {s t : Timed} {a : Action}
    (h : Timed.step crc entropy args s a = some t) :
    a.advance s.clock = some t.clock ∧
      Client.step crc entropy args s.client a = some t.client := by
  obtain ⟨clock, hclock, h⟩ := Option.bind_eq_some_iff.mp h
  obtain ⟨client, hclient, rfl⟩ := Option.map_eq_some_iff.mp h
  exact ⟨hclock, hclient⟩

/-! ## Polling -/

/-- What a poll at `r` does to the timers and the connection. -/
structure Connects (r : PollReading) (st st' : ClientState) : Prop where
  last60hzTick : st'.last60hzTick = st.last60hzTick
  last20hzTick : st'.last20hzTick = st.last20hzTick
  start : st'.benchmarkStartTime = st.benchmarkStartTime ∨
    st.benchmarkStartTime = none ∧ st'.benchmarkStartTime = some r.instant
  server : st'.phase.over = false → st'.serverId.isSome = true →
    st'.serverId = st.serverId ∨ st'.benchmarkStartTime.isSome = true

theorem connects_handleEvent (r : PollReading) (st : ClientState) (e : GameNetworkEvent) :
    Connects r st (handleEvent crc args r st e) := by
  generalize hst : handleEvent crc args r st e = st'
  cases handles_of_handleEvent hst with
  | connected hcan hasks hnext =>
    refine ⟨rfl, rfl, ?_, fun _ _ => Or.inr ?_⟩
    · cases hstart : st.benchmarkStartTime with
      | none => exact Or.inr ⟨rfl, rfl⟩
      | some start => exact Or.inl rfl
    · cases st.benchmarkStartTime <;> rfl
  | refused hcan hasks hover =>
    exact ⟨rfl, rfl, Or.inl rfl, fun h => absurd hover (Bool.eq_false_iff.mp h)⟩
  | disconnected => exact ⟨rfl, rfl, Or.inl rfl, fun _ h => by cases h⟩
  | _ => exact ⟨rfl, rfl, Or.inl rfl, fun _ _ => Or.inl rfl⟩

theorem connects_poll (r : PollReading) (st : ClientState) :
    Connects r st (poll crc args r st) := by
  rcases poll_cases crc args r st with ⟨e, peer, -, heq⟩ | ⟨-, phase, -, heq⟩
  · have h := @connects_handleEvent crc args r { st with peer := peer } e
    rw [heq]
    exact ⟨h.last60hzTick, h.last20hzTick, h.start, h.server⟩
  · rw [heq]
    exact ⟨rfl, rfl, Or.inl rfl, fun _ _ => Or.inl rfl⟩

/-! ## Rates -/

/-- Since the connection, no more packets of either kind than its rate allows. -/
def RatesKept (s : Timed) : Prop :=
  ∀ start ∈ s.client.benchmarkStartTime,
    countOn false s.client ≤ (s.clock - start) / interval60hz + 1 ∧
      countOn true s.client ≤ (s.clock - start) / interval20hz + 1

variable (entropy args)

/-- A packet goes out only when its timer is at least as far behind as the connection was behind
the start of the timer. -/
def OnTime (t60 t20 : Nat) (s : Timed) : Action → Prop
  | .pace r =>
    s.client.serverId.isSome = true → ∀ start ∈ s.client.benchmarkStartTime,
      (Sends60hz entropy args r s.client →
          start - t60 ≤ r.now - s.client.last60hzTick) ∧
        (Passes60hz entropy args r s.client ∧ Wants20hz entropy args r s.client →
          start - t20 ≤ r.now - s.client.last20hzTick)
  | _ => True

variable {entropy args}

/-- The timers have moved by the packets sent, which all come after the connection. -/
structure Ticks (t60 t20 : Nat) (s : Timed) : Prop where
  kinds : StreamKinds s.client
  begun : t20 ≤ s.clock
  started : ∀ start ∈ s.client.benchmarkStartTime, t20 ≤ start ∧ start ≤ s.clock
  unsent : s.client.benchmarkStartTime = none → ∀ reliable, countOn reliable s.client = 0
  connected : s.client.phase.over = false → s.client.serverId.isSome = true →
    s.client.benchmarkStartTime.isSome = true
  tick60hz : s.client.phase.over = false →
    s.client.last60hzTick = t60 + countOn false s.client * interval60hz
  tick20hz : s.client.phase.over = false →
    s.client.last20hzTick = t20 + countOn true s.client * interval20hz

theorem ticks_init {t60 t20 : Nat} : Ticks t60 t20 (Timed.init args t60 t20) where
  kinds := streamKinds_init t60 t20
  begun := Nat.le_refl t20
  started := nofun
  unsent := fun _ _ => rfl
  connected := nofun
  tick60hz := fun _ => by
    have hcount : countOn false (init args t60 t20) = 0 := rfl
    rw [Timed.init, hcount, Nat.zero_mul, Nat.add_zero]
    rfl
  tick20hz := fun _ => by
    have hcount : countOn true (init args t60 t20) = 0 := rfl
    rw [Timed.init, hcount, Nat.zero_mul, Nat.add_zero]
    rfl

theorem ticks_poll {t60 t20 clock : Nat} {st : ClientState} {r : PollReading}
    (h : Ticks t60 t20 { client := st, clock := clock }) (hphase : st.phase = .polling)
    (hclock : clock ≤ r.instant) :
    Ticks t60 t20 { client := poll crc args r st, clock := r.instant } := by
  have hlive := live_of_polling hphase
  have hpoll := @connects_poll crc args r st
  have hcount : ∀ reliable, countOn reliable (poll crc args r st) = countOn reliable st := by
    intro reliable
    rw [countOn, (poll_spec crc args r st).1, countOn]
  have hbegun : t20 ≤ r.instant := h.begun.trans hclock
  constructor
  · exact streamKinds_poll h.kinds r
  · exact hbegun
  · intro start hstart
    rcases hpoll.start with hsame | ⟨-, hsome⟩
    · rw [hsame] at hstart
      exact ⟨(h.started start hstart).1, (h.started start hstart).2.trans hclock⟩
    · rw [hsome] at hstart
      cases Option.mem_some.mp hstart
      exact ⟨hbegun, Nat.le_refl _⟩
  · intro hnone reliable
    rw [hcount]
    rcases hpoll.start with hsame | ⟨-, hsome⟩
    · exact h.unsent (hsame.symm.trans hnone) reliable
    · rw [hsome] at hnone
      cases hnone
  · intro hover hserver
    rcases hpoll.server hover hserver with hsame | hstart
    · rw [hsame] at hserver
      rcases hpoll.start with hstart | ⟨-, hsome⟩
      · rw [hstart]
        exact h.connected hlive hserver
      · rw [hsome]
        rfl
    · exact hstart
  · intro _
    rw [hpoll.last60hzTick, hcount]
    exact h.tick60hz hlive
  · intro _
    rw [hpoll.last20hzTick, hcount]
    exact h.tick20hz hlive

theorem ticks_pace {t60 t20 clock : Nat} {st : ClientState} {r : PaceReading}
    (h : Ticks t60 t20 { client := st, clock := clock }) (hphase : st.phase = .pacing)
    (hclock : clock ≤ r.now) :
    Ticks t60 t20 { client := pace crc entropy args r st, clock := r.now } := by
  have hlive := live_of_pacing hphase
  have hframe := @frame_pace crc entropy args r st hphase
  have hadv := @advances_pace crc entropy args r st h.kinds hphase
  constructor
  · exact ⟨hframe.unreliableGameStream ▸ h.kinds.unreliable,
      hframe.reliableGameStream ▸ h.kinds.reliable⟩
  · exact h.begun.trans hclock
  · intro start hstart
    dsimp only at hstart
    rw [hframe.benchmarkStartTime] at hstart
    exact ⟨(h.started start hstart).1, (h.started start hstart).2.trans hclock⟩
  · intro hnone reliable
    have hstart := hframe.benchmarkStartTime.symm.trans hnone
    -- without a start there is no connection, so nothing goes out
    have hserver : ¬ st.serverId.isSome = true := by
      intro hserver
      have hsome := h.connected hlive hserver
      rw [hstart] at hsome
      cases hsome
    rw [if_neg fun hout => hserver hout.1, if_neg fun hout => hserver hout.1] at hadv
    cases reliable with
    | false => exact hadv.unreliable.trans (h.unsent hstart false)
    | true => exact hadv.reliable.trans (h.unsent hstart true)
  · intro _ hserver
    dsimp only at hserver ⊢
    rw [hframe.serverId] at hserver
    rw [hframe.benchmarkStartTime]
    exact h.connected hlive hserver
  · intro hover
    have htick := h.tick60hz hlive
    dsimp only at htick ⊢
    rw [hadv.tick60hz hover, hadv.unreliable, htick, Nat.add_mul, Nat.add_assoc]
  · intro hover
    have htick := h.tick20hz hlive
    dsimp only at htick ⊢
    rw [hadv.tick20hz hover, hadv.reliable, htick, Nat.add_mul, Nat.add_assoc]

/-- The backend's own actions. -/
theorem ticks_of_eq {t60 t20 : Nat} {s t : Timed} (h : Ticks t60 t20 s) {peer : GamePeer}
    (hclient : t.client = { s.client with peer := peer })
    (hs : peer.cmdTx = s.client.peer.cmdTx) (hclock : t.clock = s.clock) : Ticks t60 t20 t := by
  have hcount : ∀ reliable, countOn reliable t.client = countOn reliable s.client := by
    intro reliable
    rw [hclient, countOn, sends, hs]
    rfl
  constructor
  · rw [hclient]
    exact ⟨h.kinds.unreliable, h.kinds.reliable⟩
  · rw [hclock]
    exact h.begun
  · rw [hclient, hclock]
    exact h.started
  · intro hnone reliable
    rw [hclient] at hnone
    rw [hcount]
    exact h.unsent hnone reliable
  · rw [hclient]
    exact h.connected
  · rw [hcount, hclient]
    exact h.tick60hz
  · rw [hcount, hclient]
    exact h.tick20hz

theorem ticks_step {t60 t20 : Nat} {s t : Timed} {a : Action} (h : Ticks t60 t20 s)
    (hstep : Timed.step crc entropy args s a = some t) : Ticks t60 t20 t := by
  obtain ⟨hclock, hclient⟩ := Timed.step_eq_some hstep
  have hle := Action.le_of_advance hclock
  obtain ⟨client, clock⟩ := t
  cases steps_of_step hclient with
  | poll hphase =>
    simp only [Action.advance] at hclock
    split at hclock
    · cases hclock
      exact ticks_poll h hphase hle
    · cases hclock
  | pace hphase =>
    simp only [Action.advance] at hclock
    split at hclock
    · cases hclock
      exact ticks_pace h hphase hle
    · cases hclock
  | emits =>
    cases hclock
    exact ticks_of_eq h rfl rfl rfl
  | stops =>
    cases hclock
    exact ticks_of_eq h rfl rfl rfl

/-- One more packet is within the rate exactly when its timer is at least as far behind as the
connection was behind the start of the timer. -/
theorem add_le_rate_iff {out : Prop} [Decidable out] {n interval tick start t0 clock now : Nat}
    (hpos : 0 < interval) (hkept : n ≤ (clock - start) / interval + 1) (hclock : clock ≤ now)
    (htick : tick = t0 + n * interval) (ht0 : t0 ≤ start) (hstart : start ≤ clock)
    (hdue : out → tick ≤ now) :
    n + (if out then 1 else 0) ≤ (now - start) / interval + 1 ↔
      (out → start - t0 ≤ now - tick) := by
  by_cases hout : out
  · have hle := hdue hout
    rw [if_pos hout, Nat.add_le_add_iff_right, Nat.le_div_iff_mul_le hpos, imp_iff_right hout]
    omega
  · have hmono : (clock - start) / interval ≤ (now - start) / interval :=
      Nat.div_le_div_right (Nat.sub_le_sub_right hclock start)
    rw [if_neg hout, Nat.add_zero]
    exact iff_of_true (by omega) fun h => absurd h hout

/-- While nothing goes out, time only helps. -/
theorem ratesKept_of_le {s t : Timed} (h : RatesKept s) (hclock : s.clock ≤ t.clock)
    (hcount : ∀ reliable, countOn reliable t.client = countOn reliable s.client)
    (hstart : t.client.benchmarkStartTime = s.client.benchmarkStartTime) : RatesKept t := by
  intro start hmem
  rw [hstart] at hmem
  obtain ⟨h60, h20⟩ := h start hmem
  rw [hcount, hcount]
  have hsub := Nat.sub_le_sub_right hclock start
  exact ⟨h60.trans (Nat.succ_le_succ (Nat.div_le_div_right hsub)),
    h20.trans (Nat.succ_le_succ (Nat.div_le_div_right hsub))⟩

theorem ratesKept_poll {t60 t20 clock : Nat} {st : ClientState} {r : PollReading}
    (h : Ticks t60 t20 { client := st, clock := clock })
    (hkept : RatesKept { client := st, clock := clock }) (hclock : clock ≤ r.instant) :
    RatesKept { client := poll crc args r st, clock := r.instant } := by
  have hcount : ∀ reliable, countOn reliable (poll crc args r st) = countOn reliable st := by
    intro reliable
    rw [countOn, (poll_spec crc args r st).1, countOn]
  rcases (@connects_poll crc args r st).start with hsame | ⟨hnone, -⟩
  · exact ratesKept_of_le hkept hclock hcount hsame
  · intro start _
    dsimp only
    rw [hcount, hcount, h.unsent hnone false, h.unsent hnone true]
    exact ⟨Nat.zero_le _, Nat.zero_le _⟩

theorem ratesKept_pace_iff {t60 t20 clock : Nat} (ht : t60 ≤ t20) {st : ClientState}
    {r : PaceReading} (h : Ticks t60 t20 { client := st, clock := clock })
    (hkept : RatesKept { client := st, clock := clock }) (hphase : st.phase = .pacing)
    (hclock : clock ≤ r.now) :
    RatesKept { client := pace crc entropy args r st, clock := r.now } ↔
      OnTime entropy args t60 t20 { client := st, clock := clock } (.pace r) := by
  have hlive := live_of_pacing hphase
  have hframe := @frame_pace crc entropy args r st hphase
  have hadv := @advances_pace crc entropy args r st h.kinds hphase
  have h60 : 0 < interval60hz := by decide
  have h20 : 0 < interval20hz := by decide
  have hrates : ∀ start ∈ st.benchmarkStartTime,
      (countOn false (pace crc entropy args r st) ≤ (r.now - start) / interval60hz + 1 ∧
          countOn true (pace crc entropy args r st) ≤ (r.now - start) / interval20hz + 1 ↔
        (st.serverId.isSome = true ∧ Sends60hz entropy args r st →
            start - t60 ≤ r.now - st.last60hzTick) ∧
          (st.serverId.isSome = true ∧ Passes60hz entropy args r st ∧ Wants20hz entropy args r st →
            start - t20 ≤ r.now - st.last20hzTick)) := by
    intro start hstart
    obtain ⟨hbegun, hle⟩ := h.started start hstart
    obtain ⟨hkept60, hkept20⟩ := hkept start hstart
    rw [hadv.unreliable, hadv.reliable]
    refine and_congr ?_ ?_
    · refine add_le_rate_iff h60 hkept60 hclock (h.tick60hz hlive) (ht.trans hbegun) hle ?_
      rintro ⟨-, hdue, -⟩
      have hdue' : r.now - st.last60hzTick ≥ interval60hz := hdue
      omega
    · refine add_le_rate_iff h20 hkept20 hclock (h.tick20hz hlive) hbegun hle ?_
      rintro ⟨-, -, hdue, -⟩
      have hdue' : r.now - st.last20hzTick ≥ interval20hz := hdue
      omega
  unfold RatesKept OnTime
  dsimp only
  rw [hframe.benchmarkStartTime]
  constructor
  · intro hall hserver start hstart
    obtain ⟨h60, h20⟩ := (hrates start hstart).mp (hall start hstart)
    exact ⟨fun hout => h60 ⟨hserver, hout⟩, fun hout => h20 ⟨hserver, hout⟩⟩
  · intro hall start hstart
    refine (hrates start hstart).mpr ⟨?_, ?_⟩
    · exact fun hout => (hall hout.1 start hstart).1 hout.2
    · exact fun hout => (hall hout.1 start hstart).2 hout.2

theorem ratesKept_step_iff {t60 t20 : Nat} (ht : t60 ≤ t20) {s t : Timed} {a : Action}
    (h : Ticks t60 t20 s) (hkept : RatesKept s)
    (hstep : Timed.step crc entropy args s a = some t) :
    RatesKept t ↔ OnTime entropy args t60 t20 s a := by
  obtain ⟨hclock, hclient⟩ := Timed.step_eq_some hstep
  have hle := Action.le_of_advance hclock
  obtain ⟨client, clock⟩ := t
  cases steps_of_step hclient with
  | poll =>
    simp only [Action.advance] at hclock
    split at hclock
    · cases hclock
      exact iff_of_true (ratesKept_poll h hkept hle) trivial
    · cases hclock
  | pace hphase =>
    simp only [Action.advance] at hclock
    split at hclock
    · cases hclock
      exact ratesKept_pace_iff ht h hkept hphase hle
    · cases hclock
  | emits =>
    exact iff_of_true (ratesKept_of_le hkept hle (fun _ => rfl) rfl) trivial
  | stops =>
    exact iff_of_true (ratesKept_of_le hkept hle (fun _ => rfl) rfl) trivial

/-- A connection within one interval of each timer's start owes nothing. -/
theorem onTime_of_prompt {t60 t20 : Nat} {s : Timed}
    (hprompt : ∀ start ∈ s.client.benchmarkStartTime,
      start - t60 ≤ interval60hz ∧ start - t20 ≤ interval20hz) (a : Action) :
    OnTime entropy args t60 t20 s a := by
  cases a with
  | pace r =>
    intro _ start hstart
    obtain ⟨h60, h20⟩ := hprompt start hstart
    exact ⟨fun hout => h60.trans hout.1, fun hout => h20.trans hout.2.1⟩
  | poll r => exact trivial
  | backendEmits e => exact trivial
  | backendStops => exact trivial

variable (crc entropy args)

/-- A run keeps the rates exactly when every packet goes out on time. -/
theorem ratesKept_iff_onTime {t60 t20 : Nat} (ht : t60 ≤ t20) (actions : List Action) (s : Timed)
    (hrun : Run.run (Timed.step crc entropy args) (Timed.init args t60 t20) actions = some s) :
    Run.Throughout (Timed.step crc entropy args) RatesKept (Timed.init args t60 t20) actions ↔
      Run.Along (Timed.step crc entropy args) (OnTime entropy args t60 t20)
        (Timed.init args t60 t20) actions :=
  Run.throughout_iff_along (fun _ _ _ h hstep => ticks_step h hstep)
    (fun _ _ _ h hkept hstep => ratesKept_step_iff ht h hkept hstep) actions ticks_init
    (fun _ h => by cases h) hrun

end Pace

/-! ## Two packets in a nanosecond -/

/-- The connection and the 60 Hz stream come at one instant, and the loop turns at others. -/
def connectAt (connected : Nat) (turns : List Nat) : List Action :=
  let pollAt (instant : Nat) : Action := .poll { instant := instant, micros := 0 }
  [.backendEmits (.connected Uuid.nil), pollAt connected,
    .backendEmits (.streamCreated Uuid.nil (GameStream.new 1 .unreliable)), pollAt connected] ++
    turns.flatMap fun now =>
      [pollAt now, .pace { elapsedAt := now, now := now, micros60hz := 0, micros20hz := 0 }]

theorem ratesKept_connectAt_zero :
    Run.Throughout (Timed.step crc32 [] emptyPackets) RatesKept (Timed.init emptyPackets 0 0)
      (connectAt 0 [20000000, 40000000]) := by
  obtain ⟨s, hrun⟩ : ∃ s, Run.run (Timed.step crc32 [] emptyPackets)
      (Timed.init emptyPackets 0 0) (connectAt 0 [20000000, 40000000]) = some s := ⟨_, rfl⟩
  rw [ratesKept_iff_onTime crc32 [] emptyPackets (Nat.le_refl 0) _ s hrun]
  have hprompt : ∀ start ∈ some 0, start - 0 ≤ interval60hz ∧ start - 0 ≤ interval20hz := by
    intro start hstart
    cases Option.mem_some.mp hstart
    decide
  exact ⟨trivial, trivial, trivial, trivial, trivial, onTime_of_prompt hprompt _, trivial,
    onTime_of_prompt hprompt _, trivial⟩

/-- The connection comes a second after the timers were started, and two packets go out within a
nanosecond. -/
theorem burst_connectAt_second :
    ∃ s, Run.run (Timed.step crc32 [] emptyPackets) (Timed.init emptyPackets 0 0)
        (connectAt 1000000000 [1000000000, 1000000001]) = some s ∧
      s.client.benchmarkStartTime = some 1000000000 ∧ s.clock = 1000000001 ∧
        countOn false s.client = 2 ∧ ¬ RatesKept s := by
  refine ⟨_, rfl, rfl, rfl, rfl, fun h => ?_⟩
  exact absurd (h 1000000000 rfl).1 (by decide)

end Client
end GameSockets

/-
What the client asks of its backend.

It connects once, and then speaks only of connections that it has heard of: it opens streams
on a connection that it polls, and sends packets of one length to the server of the moment.
-/
import GameSockets.Client.Warmup
import GameSockets.Handle

namespace GameSockets
namespace Client

open Library GamePeer

section Commands

variable (args : CliArgs)

/-- A packet for `conn`. -/
def Posts (conn : GameConnection) (cmd : BackendCommand) : Prop :=
  ∃ stream data, cmd = .send conn stream data ∧
    data.length = BenchmarkPacket.headerSize + args.packetSize

/-- The commands of a client that has heard the events. -/
def Requests (heard : List GameNetworkEvent) : BackendCommand → Prop
  | .createStream conn _ _ => .connected conn ∈ heard
  | .send conn _ data => .connected conn ∈ heard ∧
      data.length = BenchmarkPacket.headerSize + args.packetSize
  | _ => False

/-- The client has connected once, and knows its connections from events. -/
structure Introduced (st : ClientState) : Prop where
  server : ∀ conn, st.serverId = some conn → .connected conn ∈ st.peer.eventRx.log
  commands : ∃ new, st.peer.cmdTx.log = .connect args.ip args.port :: new ∧
    ∀ cmd ∈ new, Requests args st.peer.eventRx.log cmd

variable {args}

theorem Requests.mono {heard heard' : List GameNetworkEvent} (h : heard ⊆ heard')
    {cmd : BackendCommand} (hcmd : Requests args heard cmd) : Requests args heard' cmd := by
  cases cmd with
  | createStream conn i reliability => exact h hcmd
  | send conn stream data => exact ⟨h hcmd.1, hcmd.2⟩
  | bind addr port => exact hcmd
  | connect addr port => exact hcmd
  | closeStream conn stream => exact hcmd
  | shutdown => exact hcmd

theorem requests_of_posts {heard : List GameNetworkEvent} {conn : GameConnection}
    (hconn : .connected conn ∈ heard) {cmd : BackendCommand} (h : Posts args conn cmd) :
    Requests args heard cmd := by
  obtain ⟨stream, data, rfl, hlen⟩ := h
  exact ⟨hconn, hlen⟩

variable {crc : Bytes → UInt32} {entropy : Bytes}

/-! ## A poll -/

/-- A connection is answered with requests for its streams. -/
theorem uses_connected (r : PollReading) (st : ClientState) (conn : GameConnection) :
    Uses (fun cmd => ∃ i kind, cmd = .createStream conn i kind) st.peer
      (handleEvent crc args r st (.connected conn)).peer := by
  have hcreate : ∀ {p p' : GamePeer} {kind : GameStreamReliability},
      p.createStream conn kind = .ok p' →
        Uses (fun cmd => ∃ i kind, cmd = .createStream conn i kind) p p' := by
    intro p p' kind h
    rw [createStream_eq_ok h]
    exact uses_issue ⟨_, _, rfl⟩ rfl rfl
  simp only [handleEvent, after]
  cases hfirst : st.peer.createStream conn .unreliable with
  | err e => exact .refl _ _
  | panic => exact .refl _ _
  | ok first =>
    dsimp only
    cases hsecond : first.createStream conn .reliable with
    | err e => exact hcreate hfirst
    | panic => exact hcreate hfirst
    | ok second => exact (hcreate hfirst).trans (hcreate hsecond)

theorem uses_handleEvent (r : PollReading) (st : ClientState) {e : GameNetworkEvent}
    (he : e ∈ st.peer.eventRx.log) :
    Uses (Requests args st.peer.eventRx.log) st.peer (handleEvent crc args r st e).peer := by
  cases e with
  | connected conn =>
    refine (uses_connected r st conn).mono ?_
    rintro _ ⟨i, kind, rfl⟩
    exact he
  | disconnected conn => exact .refl _ _
  | message conn stream data =>
    generalize hst : handleEvent crc args r st (.message conn stream data) = st'
    cases handles_of_handleEvent hst <;> exact .refl _ _
  | error conn inner => exact .refl _ _
  | streamCreated conn stream =>
    generalize hst : handleEvent crc args r st (.streamCreated conn stream) = st'
    cases handles_of_handleEvent hst <;> exact .refl _ _
  | streamClosed conn stream =>
    generalize hst : handleEvent crc args r st (.streamClosed conn stream) = st'
    cases handles_of_handleEvent hst <;> exact .refl _ _

theorem serverId_handleEvent (r : PollReading) (st : ClientState) (e : GameNetworkEvent)
    {conn : GameConnection} (h : (handleEvent crc args r st e).serverId = some conn) :
    st.serverId = some conn ∨ e = .connected conn := by
  generalize hst : handleEvent crc args r st e = st' at h
  cases handles_of_handleEvent hst with
  | connected => exact Or.inr (congrArg _ (Option.some.inj h))
  | refused => exact Or.inr (congrArg _ (Option.some.inj h))
  | disconnected => cases h
  | _ => exact Or.inl h

/-! ## A pacing block -/

theorem uses_post {stream : GameStream} {st : ClientState} (hfits : Fits entropy args)
    (conn : GameConnection) (micros : UInt64) :
    Uses (Posts args conn) st.peer (post crc entropy args conn stream micros st).peer := by
  refine uses_issue ⟨stream, _, rfl, ?_⟩ rfl rfl
  rw [BenchmarkPacket.length_toBytes, nextPacket, List.length_take, Nat.min_eq_left hfits]

theorem uses_sendPacket (conn : GameConnection) (stream : GameStream) (micros : UInt64)
    (st : ClientState) :
    Uses (Posts args conn) st.peer (sendPacket crc entropy args conn stream micros st).peer := by
  rw [sendPacket_eq]
  split_ifs with hfits halive hcount
  · exact uses_post hfits conn micros
  · exact uses_post hfits conn micros
  · exact .refl _ _
  · exact .refl _ _

theorem peer_checkStop (st : ClientState) : (checkStop st).peer = st.peer := by
  unfold checkStop
  split <;> rfl

theorem uses_pace20hz (r : PaceReading) (conn : GameConnection) {st : ClientState}
    (hphase : st.phase = .pacing) :
    Uses (Posts args conn) st.peer (pace20hz crc entropy args r conn st).peer := by
  rcases @pace20hz_cases crc entropy args r conn st hphase with
    ⟨-, heq⟩ | ⟨-, ⟨-, heq⟩ | ⟨stream, -, ⟨hsend, heq⟩ | ⟨-, heq⟩⟩⟩
  · rw [heq, peer_checkStop]
    exact .refl _ _
  · rw [heq]
    exact .refl _ _
  · rw [heq, peer_checkStop]
    exact uses_post hsend.1 conn _
  · rw [heq]
    exact uses_sendPacket conn stream _ st

theorem uses_pace60hz (r : PaceReading) (conn : GameConnection) {st : ClientState}
    (hphase : st.phase = .pacing) :
    Uses (Posts args conn) st.peer (pace60hz crc entropy args r conn st).peer := by
  rcases @pace60hz_cases crc entropy args r conn st hphase with
    ⟨-, heq⟩ | ⟨-, ⟨-, heq⟩ | ⟨stream, -, ⟨hsend, heq⟩ | ⟨-, heq⟩⟩⟩
  · rw [heq]
    exact uses_pace20hz r conn hphase
  · rw [heq]
    exact .refl _ _
  · rw [heq]
    have hposted : Uses (Posts args conn) st.peer
        (post crc entropy args conn stream r.micros60hz st).peer := uses_post hsend.1 conn _
    let sent := tick60hz (count stream (post crc entropy args conn stream r.micros60hz st))
    have hsent : sent.phase = .pacing := hphase
    have hrest : Uses (Posts args conn) sent.peer (pace20hz crc entropy args r conn sent).peer :=
      uses_pace20hz r conn hsent
    exact hposted.trans hrest
  · rw [heq]
    exact uses_sendPacket conn stream _ st

/-- A pacing block sends to the server of the moment. -/
theorem uses_pace (r : PaceReading) {st : ClientState} (hphase : st.phase = .pacing) :
    Uses (fun cmd => ∃ conn, st.serverId = some conn ∧ Posts args conn cmd) st.peer
      (pace crc entropy args r st).peer := by
  unfold pace
  split
  · next conn hconn =>
    obtain ⟨stop, hcheck⟩ := @checkDuration_eq args r st
    have hp : { st with needStop := stop }.phase = .pacing := hphase
    rw [hcheck]
    exact (uses_pace60hz r conn hp).mono fun cmd hcmd => ⟨conn, hconn, hcmd⟩
  · rw [peer_checkStop]
    exact .refl _ _

/-! ## Every step -/

theorem introduced_init (t60 t20 : Nat) : Introduced args (init args t60 t20) :=
  ⟨nofun, [], rfl, List.forall_mem_nil _⟩

/-- The backend adds events and issues nothing. -/
theorem Introduced.backend {st : ClientState} (h : Introduced args st) {peer : GamePeer}
    (hcmd : peer.cmdTx.log = st.peer.cmdTx.log)
    (hevents : st.peer.eventRx.log <+: peer.eventRx.log) :
    Introduced args { st with peer := peer } := by
  obtain ⟨new, hlog, hnew⟩ := h.commands
  refine ⟨fun conn hconn => hevents.subset (h.server conn hconn), new, hcmd.trans hlog, ?_⟩
  exact fun cmd hc => (hnew cmd hc).mono hevents.subset

theorem Introduced.uses {st st' : ClientState} (h : Introduced args st)
    (hserver : ∀ conn, st'.serverId = some conn → .connected conn ∈ st.peer.eventRx.log)
    (huses : Uses (Requests args st.peer.eventRx.log) st.peer st'.peer) : Introduced args st' := by
  obtain ⟨new, hlog, hnew⟩ := h.commands
  obtain ⟨more, hmore, hok⟩ := huses.log
  refine ⟨fun conn hconn => huses.events ▸ hserver conn hconn, new ++ more, ?_, ?_⟩
  · rw [hmore, hlog, List.cons_append]
  · intro cmd hcmd
    rw [huses.events]
    exact (List.mem_append.mp hcmd).elim (hnew cmd) (hok cmd)

/-- The loop of the client at its handle. -/
theorem uses_poll {st : ClientState} (r : PollReading) :
    Uses (Requests args st.peer.eventRx.log) st.peer (poll crc args r st).peer ∧
      ∀ conn, (poll crc args r st).serverId = some conn →
        st.serverId = some conn ∨ .connected conn ∈ st.peer.eventRx.log := by
  rcases poll_cases crc args r st with ⟨e, peer, hpoll, heq⟩ | ⟨-, phase, -, heq⟩
  · obtain ⟨rx, hrecv, rfl⟩ := poll_eq_some hpoll
    have hlog : rx.log = st.peer.eventRx.log := Channel.log_recv hrecv
    have hmem := Channel.mem_log_of_recv hrecv
    let taken : ClientState := { st with peer := { st.peer with eventRx := rx } }
    have hhandled : Uses (Requests args rx.log) taken.peer (handleEvent crc args r taken e).peer :=
      uses_handleEvent r taken (hlog ▸ hmem)
    rw [heq]
    rw [hlog] at hhandled
    refine ⟨(GamePeer.uses_poll hrecv).trans hhandled, fun conn hconn => ?_⟩
    rcases serverId_handleEvent r taken e hconn with hconn | rfl
    · exact Or.inl hconn
    · exact Or.inr hmem
  · rw [heq]
    exact ⟨.refl _ _, fun conn hconn => Or.inl hconn⟩

/-- What the client asks in one turn of its loop. -/
theorem introduced_turn {st st' : ClientState} {a : Action} (h : Introduced args st)
    (hturn : (∃ r, a = .poll r) ∨ ∃ r, a = .pace r)
    (hstep : step crc entropy args st a = some st') :
    Uses (Requests args st.peer.eventRx.log) st.peer st'.peer ∧ Introduced args st' := by
  cases steps_of_step hstep with
  | @poll r hphase =>
    obtain ⟨huses, hserver⟩ := @uses_poll args crc st r
    refine ⟨huses, h.uses (fun conn hconn => ?_) huses⟩
    exact (hserver conn hconn).elim (h.server conn) id
  | @pace r hphase =>
    have huses : Uses (Requests args st.peer.eventRx.log) st.peer
        (pace crc entropy args r st).peer := by
      refine (uses_pace r hphase).mono ?_
      rintro cmd ⟨conn, hconn, hposts⟩
      exact requests_of_posts (h.server conn hconn) hposts
    have hframe := @frame_pace crc entropy args r st hphase
    exact ⟨huses, h.uses (fun conn hconn => h.server conn (hframe.serverId ▸ hconn)) huses⟩
  | emits => rcases hturn with ⟨r, hr⟩ | ⟨r, hr⟩ <;> cases hr
  | stops => rcases hturn with ⟨r, hr⟩ | ⟨r, hr⟩ <;> cases hr

/-! ## One connection -/

theorem length_of_introduced {st : ClientState} (h : Introduced args st) {uuid : Uuid}
    {x : GameStream × Bytes} (hx : x ∈ sendsTo uuid st.peer.cmdTx.log) :
    x.2.length = BenchmarkPacket.headerSize + args.packetSize := by
  obtain ⟨new, hlog, hnew⟩ := h.commands
  rw [mem_sendsTo, hlog, List.mem_cons] at hx
  rcases hx with hx | hx
  · cases hx
  · exact (hnew _ hx).2

/-- What the client has passed to `send` for a connection can be read back. -/
theorem readable_of_sendsTo {st : ClientState} (h : Numbered crc st) {uuid : Uuid}
    {x : GameStream × Bytes} (hx : x ∈ sendsTo uuid st.peer.cmdTx.log) :
    (BenchmarkPacket.fromBytes crc x.2).isSome = true := by
  obtain ⟨m, hm, hcarried⟩ := List.mem_filterMap.mp hx
  rw [carried_eq_some] at hcarried
  obtain ⟨p, hp⟩ := h.encoded m hm
  rw [hcarried] at hp
  dsimp only at hp
  rw [hp, BenchmarkPacket.fromBytes_toBytes]
  rfl

/-- Every packet goes to a connection that the client has heard of. -/
theorem connected_of_sends {st : ClientState} (h : Introduced args st) {m : Transfer}
    (hm : m ∈ sends st) : .connected m.connection ∈ st.peer.eventRx.log := by
  obtain ⟨cmd, hcmd, hsent⟩ := List.mem_filterMap.mp hm
  rw [BackendCommand.sent_eq_some] at hsent
  obtain ⟨cmds, hlog, hcmds⟩ := h.commands
  rw [hlog, hsent, List.mem_cons] at hcmd
  exact (hcmds _ (hcmd.resolve_left nofun)).1

end Commands

end Client
end GameSockets

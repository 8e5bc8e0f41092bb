/-
Which connections `UdpBackend` reports.

`Connect` enters the UUID it draws, and a datagram enters the UUID it carries, whoever
sent it and whether or not the socket was bound.  A benchmark client takes every
`Connected` for its server.
-/
import GameSockets.Client.Numbering
import GameSockets.Library.History
import GameSockets.Udp.Events
import GameSockets.Udp.Routing

namespace GameSockets
namespace Udp

open Library History

section Accept

variable {Addr : Type} (parse : String → Option Addr)

/-- The UUID that a `Connect` draws. -/
def drawn : Input Addr → Option Uuid
  | .command env (.connect addr port) =>
    if (parse (addr ++ ":" ++ toString port.toNat)).isSome then some env.newV4 else none
  | _ => none

/-- The UUID that a datagram carries. -/
def carried : Input Addr → Option Uuid
  | .datagram bytes _ => datagramUuid bytes
  | _ => none

/-- The UUIDs that the `Connect`s have drawn. -/
def generated (inputs : List (Input Addr)) : List Uuid := inputs.filterMap (drawn parse)

/-- Every connection reported is one that a `Connect` opened. -/
def Own (inputs : List (Input Addr)) (s : UdpRun Addr) : Prop :=
  ∀ c, .connected c ∈ s.events → c ∈ generated parse inputs

/-- A datagram carries no UUID but that of a connection opened before it. -/
def Answers (before : List (Input Addr)) (a : Input Addr) : Prop :=
  ∀ u, carried a = some u → u ∈ generated parse before

variable {parse}

theorem mem_generated_append {inputs : List (Input Addr)} {a : Input Addr} {u : Uuid} :
    u ∈ generated parse (inputs ++ [a]) ↔ u ∈ generated parse inputs ∨ drawn parse a = some u := by
  rw [generated, List.filterMap_append, List.mem_append]
  cases h : drawn parse a <;> simp [h, generated, eq_comm]

/-- No input both draws and carries. -/
theorem drawn_of_carried {a : Input Addr} {u : Uuid} (h : carried a = some u) :
    drawn parse a = none := by
  cases a with
  | datagram bytes src => rfl
  | command env cmd => cases h
  | recvError => cases h

theorem sourceFor_ne_none {a : Input Addr} {u : Uuid} :
    sourceFor u a ≠ none ↔ carried a = some u := by
  cases a with
  | datagram bytes src => simp [sourceFor, carried]
  | command env cmd => simp [sourceFor, carried]
  | recvError => simp [sourceFor, carried]

theorem targetFor_ne_none {a : Input Addr} {u : Uuid} :
    targetFor parse u a ≠ none ↔ drawn parse a = some u := by
  cases a with
  | datagram bytes src => simp [targetFor, drawn]
  | recvError => simp [targetFor, drawn]
  | command env cmd =>
    cases cmd with
    | connect addr port =>
      rw [targetFor, drawn]
      cases parse (addr ++ ":" ++ toString port.toNat) <;> simp
    | _ => simp [targetFor, drawn]

/-- A command reports the UUID it draws, and no other. -/
theorem connected_mem_processCommand {env : CommandEnv} {b : UdpBackend Addr}
    {cmd : BackendCommand} {u : Uuid} :
    .connected u ∈ (processCommand parse env b cmd).2.events ↔
      drawn parse (.command env cmd) = some u := by
  generalize hout : processCommand parse env b cmd = out
  cases processes_of_processCommand hout with
  | connect hparse =>
    rw [drawn, hparse]
    simp [eq_comm]
  | unparsed hparse =>
    rw [drawn, hparse]
    simp
  | _ => simp [drawn]

/-- A datagram reports the UUID it carries if the table does not hold it. -/
theorem connected_mem_noteAddress {b : UdpBackend Addr} {u v : Uuid} {addr : Addr} :
    .connected u ∈ (noteAddress b v addr).2 ↔ v = u ∧ b.connections u = none := by
  rw [noteAddress]
  dsimp only
  split
  · next hnone =>
    rw [List.mem_singleton, GameNetworkEvent.connected.injEq]
    constructor
    · rintro rfl
      exact ⟨rfl, hnone⟩
    · exact fun h => h.1.symm
  · next hsome =>
    refine iff_of_false List.not_mem_nil ?_
    rintro ⟨rfl, hnone⟩
    exact hsome hnone

namespace UdpRun

/-! ## One step -/

/-- A UUID enters the table when it is drawn or carried, and stays. -/
theorem connections_step {s t : UdpRun Addr} {a : Input Addr} (h : step parse s a = some t)
    (u : Uuid) :
    t.backend.connections u ≠ none ↔
      s.backend.connections u ≠ none ∨ drawn parse a = some u ∨ carried a = some u := by
  rw [step_connections parse h u, ← sourceFor_ne_none, ← targetFor_ne_none, Ne,
    Option.or_eq_none_iff, Option.or_eq_none_iff, not_and_or, not_and_or]
  tauto

/-- A step reports the UUID it draws, and the one it carries if that is new. -/
theorem reported_step {s t : UdpRun Addr} {a : Input Addr} (h : step parse s a = some t)
    (u : Uuid) :
    .connected u ∈ t.events ↔
      .connected u ∈ s.events ∨ drawn parse a = some u ∨
        carried a = some u ∧ s.backend.connections u = none := by
  cases steps_of_step h with
  | shutdown => simp [drawn, carried]
  | command hcmd =>
    rw [put, List.mem_append, connected_mem_processCommand]
    simp [carried]
  | noise hnone => simp [drawn, carried, hnone]
  | @packet bytes src v data hv =>
    have hstream : ∀ b : UdpBackend Addr,
        .connected u ∉ (noteStream b v (datagramStream bytes)).2 := by
      intro b hmem
      cases eq_of_mem_noteStream hmem
    simp [put, connected_mem_noteAddress, hstream, drawn, carried, hv]
  | recvError => simp [drawn, carried]

/-! ## Every run -/

/-- The table holds the UUIDs that have been reported. -/
def Reported (s : UdpRun Addr) : Prop :=
  ∀ u, s.backend.connections u ≠ none ↔ .connected u ∈ s.events

theorem reported_init : Reported (init : UdpRun Addr) :=
  fun _ => iff_of_false (fun h => h rfl) List.not_mem_nil

theorem reported_of_step {s t : UdpRun Addr} {a : Input Addr} (h : Reported s)
    (hstep : step parse s a = some t) : Reported t := by
  intro u
  rw [connections_step hstep u, reported_step hstep u, ← h u]
  tauto

/-- After a run that reported nothing else, a step reports nothing else exactly when it
carries nothing else. -/
theorem own_step_iff {inputs : List (Input Addr)} {s t : UdpRun Addr} {a : Input Addr}
    (h : Reported s) (hown : Own parse inputs s) (hstep : step parse s a = some t) :
    Own parse (inputs ++ [a]) t ↔ Answers parse inputs a := by
  constructor
  · intro hnext u hcarried
    have hreported : .connected u ∈ t.events := by
      refine (reported_of_step h hstep u).mp ?_
      exact (connections_step hstep u).mpr (Or.inr (Or.inr hcarried))
    refine (mem_generated_append.mp (hnext u hreported)).resolve_right ?_
    rw [drawn_of_carried hcarried]
    exact nofun
  · intro hanswers u hreported
    rw [mem_generated_append]
    rcases (reported_step hstep u).mp hreported with hbefore | hdrawn | ⟨hcarried, -⟩
    · exact Or.inl (hown u hbefore)
    · exact Or.inr hdrawn
    · exact Or.inl (hanswers u hcarried)

/-- A backend reports its own connections alone exactly when no datagram that reaches it
carries the UUID of another. -/
theorem own_connections_iff (parse : String → Option Addr) (inputs : List (Input Addr))
    (s : UdpRun Addr) (hrun : Run.run (step parse) init inputs = some s) :
    Run.Prefixes (step parse) (Own parse) init inputs ↔ Always (Answers parse) inputs :=
  Run.prefixes_iff_always (fun _ _ _ h hstep => reported_of_step h hstep)
    (fun _ _ _ _ h hown hstep => own_step_iff h hown hstep) reported_init
    (fun _ hc => absurd hc List.not_mem_nil) inputs hrun

end UdpRun

/-! ## The server of the benchmark -/

/-- The client has been told of its server. -/
def Told (st : Client.ClientState) : Prop :=
  ∀ c, st.serverId = some c → .connected c ∈ st.peer.eventRx.log

variable {crc : Bytes → UInt32} {entropy : Bytes} {args : Client.CliArgs}

theorem serverId_handleEvent {r : Client.PollReading} {st : Client.ClientState}
    {e : GameNetworkEvent} {c : GameConnection}
    (h : (Client.handleEvent crc args r st e).serverId = some c) :
    e = .connected c ∨ st.serverId = some c := by
  generalize hst : Client.handleEvent crc args r st e = st' at h
  cases Client.handles_of_handleEvent hst with
  | connected hcan hasks hnext =>
    cases h
    exact Or.inl rfl
  | refused hcan hasks hover =>
    cases h
    exact Or.inl rfl
  | disconnected => cases h
  | _ => exact Or.inr h

theorem told_step {st st' : Client.ClientState} {a : Client.Action} (h : Told st)
    (hstep : Client.step crc entropy args st a = some st') : Told st' := by
  cases Client.steps_of_step hstep with
  | @poll r =>
    unfold Client.poll
    split
    · next e peer hpoll =>
      obtain ⟨rx, hrecv, rfl⟩ := GamePeer.poll_eq_some hpoll
      intro c hc
      rw [(Client.handled_handleEvent crc args r _ e).eventRx]
      show _ ∈ rx.log
      rw [Channel.log_recv hrecv]
      rcases serverId_handleEvent hc with rfl | hold
      · exact Channel.mem_log_of_recv hrecv
      · exact h c hold
    · exact h
    · exact h
  | @pace r hphase =>
    have hframe := @Client.frame_pace crc entropy args r st hphase
    intro c hc
    rw [hframe.serverId] at hc
    rw [hframe.eventRx]
    exact h c hc
  | @emits e =>
    intro c hc
    show _ ∈ (st.peer.eventRx.send e).log
    rw [Channel.log_send]
    exact List.mem_append_left _ (h c hc)
  | stops => exact h

/-- A benchmark client whose backend reports its own connections alone sends to none but
these. -/
theorem serverId_generated {inputs : List (Input Addr)} {s : UdpRun Addr}
    (hown : Own parse inputs s) {t60 t20 : Nat} {actions : List Client.Action}
    {st : Client.ClientState}
    (hrun : Run.run (Client.step crc entropy args) (Client.init args t60 t20) actions = some st)
    (hevents : st.peer.eventRx.log ⊆ s.events) {c : GameConnection} (hc : st.serverId = some c) :
    c ∈ generated parse inputs := by
  have hinit : Told (Client.init args t60 t20) := fun c hc => by cases hc
  have htold : Told st := Run.invariant_of_run (fun _ _ _ => told_step) hinit hrun
  exact hown c (hevents (htold c hc))

end Accept

/-! ## Two clients -/

namespace UdpRun

/-- A client connects, and its server answers. -/
def echoed : List (Input Nat) :=
  [.command { bindOk := true, newV4 := Uuid.nil } (.connect "10.0.0.1" 8080),
    .datagram (packet Uuid.nil { streamId := 4 } [7]) 1]

theorem own_connections_echoed :
    ∃ s, Run.run (step fun _ => some 1) init echoed = some s ∧
      s.events = [.connected Uuid.nil, .streamCreated Uuid.nil { streamId := 4 },
        .message Uuid.nil { streamId := 4 } [7]] ∧
      Run.Prefixes (step fun _ => some 1) (Own fun _ => some 1) init echoed := by
  refine ⟨_, rfl, by decide +kernel, ?_⟩
  refine (own_connections_iff (fun _ => some 1) echoed _ rfl).mpr ?_
  rw [echoed, ← List.singleton_append, always_append_singleton, ← List.nil_append [_],
    always_append_singleton]
  refine ⟨⟨always_nil _, fun u hu => ?_⟩, fun u hu => ?_⟩
  · cases hu
  · rw [carried, datagramUuid_packet] at hu
    cases hu
    exact List.mem_singleton_self _

/-- A UUID that no `Connect` drew. -/
def forged : Uuid := { asBytes := List.replicate 16 0xfe, size := rfl }

/-- A client connects, and a datagram of another peer reaches its socket. -/
def stray : List (Input Nat) :=
  [.command { bindOk := true, newV4 := Uuid.nil } (.connect "10.0.0.1" 8080),
    .datagram (packet forged { streamId := 4 } []) 9]

def benchmarkArgs : Client.CliArgs := { Client.emptyPackets with ip := "10.0.0.1" }

/-- The client takes the other peer for its server. -/
theorem server_switched :
    ∃ s, Run.run (step fun _ => some 1) init stray = some s ∧
      ¬ Run.Prefixes (step fun _ => some 1) (Own fun _ => some 1) init stray ∧
      ∃ st, Run.run (Client.step (fun _ => 0) [] benchmarkArgs) (Client.init benchmarkArgs 0 0)
          (s.events.flatMap fun e =>
            [.backendEmits e, .poll { instant := 0, micros := 0 }]) = some st ∧
        st.serverId = some forged := by
  refine ⟨_, rfl, fun h => ?_, _, rfl, rfl⟩
  have hforged := h stray [] _ (List.append_nil _).symm rfl forged (by decide +kernel)
  revert hforged
  decide +kernel

end UdpRun

end Udp
end GameSockets

/-
`TcpBackend`: the select loop, the accept tasks and the peer handlers, with the
channels between them and the application's handle.

Every step is one action of one party, so a run is an interleaving of the tasks.
What the system decides is part of the action.
-/
import GameSockets.Library.Run
import GameSockets.Tcp.Handler
import Mathlib.Logic.Function.Basic

namespace GameSockets
namespace Tcp

open Library

/-- `mpsc::channel(16)`, the registration channel. -/
def registrationCapacity : Nat := 16

/-- The packet of a `Send`. -/
def packet (stream : GameStream) (data : Bytes) : Bytes := putU16 stream.streamId ++ data

inductive LoopPhase where
  /-- in the `select!` -/
  | selecting
  /-- in `tx.send(packet).await` -/
  | sending (connection : Uuid) (packet : Bytes)
  | stopped
  /-- `expect("Bind failed")` -/
  | panicked
deriving DecidableEq

/-- Where an accept task stands. -/
inductive AcceptPhase where
  /-- in `listener.accept().await` -/
  | accepting
  /-- `Connected` is sent, the handler not yet spawned -/
  | announced (uuid : Uuid)
  /-- the handler runs, its write handle not yet sent to the loop -/
  | spawned (uuid : Uuid)
deriving DecidableEq

/-- The UUID whose write handle the task holds. -/
def AcceptPhase.held : AcceptPhase → List Uuid
  | .accepting => []
  | .announced uuid => [uuid]
  | .spawned uuid => [uuid]

/-- The system's answers while a command is processed. -/
structure CommandEnv where
  /-- `TcpListener::bind` succeeds -/
  bindOk : Bool
  /-- `TcpStream::connect` succeeds -/
  connectOk : Bool
  /-- the result of `Uuid::new_v4()` -/
  newV4 : Uuid

/-- The backend while it runs.  The write handle of a UUID leads to the handler of
that UUID, so `peers` and the registration channel hold the UUIDs alone. -/
structure TcpBackend where
  peer : GamePeer
  peers : List Uuid
  peerReg : Channel Uuid
  loop : LoopPhase
  accepts : List AcceptPhase
  handlers : Uuid → Option PeerHandler

inductive Action where
  /-- the application issues a command -/
  | issue (cmd : BackendCommand)
  /-- the application polls -/
  | poll
  /-- the loop takes a registration -/
  | register
  /-- the loop takes a command -/
  | command (env : CommandEnv)
  /-- the loop gets its packet into the full queue -/
  | resume
  /-- accept task `k` accepts a connection -/
  | announce (k : Nat) (uuid : Uuid)
  /-- accept task `k` spawns the handler -/
  | spawn (k : Nat)
  /-- accept task `k` sends the write handle to the loop -/
  | handOver (k : Nat)
  | handler (uuid : Uuid) (a : HandlerAction)

/-- What an action has the handler of a UUID do. -/
def Action.atHandler (uuid : Uuid) : Action → Option HandlerAction
  | .handler u b => if u = uuid then some b else none
  | _ => none

theorem Action.atHandler_eq_some {uuid : Uuid} {a : Action} {b : HandlerAction}
    (h : a.atHandler uuid = some b) : a = .handler uuid b := by
  unfold atHandler at h
  split at h
  · split at h
    · next hu =>
      cases h
      rw [hu]
    · cases h
  · cases h

namespace TcpBackend

def init : TcpBackend :=
  { peer := GamePeer.new, peers := [], peerReg := Channel.empty, loop := .selecting, accepts := [],
    handlers := fun _ => none }

/-- The loop has not ended, so the runtime and its tasks live. -/
def running (s : TcpBackend) : Bool :=
  match s.loop with
  | .selecting => true
  | .sending _ _ => true
  | .stopped => false
  | .panicked => false

/-- The UUIDs whose write handle has not reached the loop. -/
def waiting (s : TcpBackend) : List Uuid :=
  s.accepts.flatMap AcceptPhase.held ++ s.peerReg.pending

/-- A UUID that `Uuid::new_v4()` can still draw. -/
def Fresh (s : TcpBackend) (uuid : Uuid) : Prop :=
  uuid ∉ s.peers ∧ uuid ∉ s.waiting ∧ s.handlers uuid = none

instance (s : TcpBackend) (uuid : Uuid) : Decidable (s.Fresh uuid) :=
  inferInstanceAs (Decidable (_ ∧ _ ∧ _))

def emit (s : TcpBackend) (events : List GameNetworkEvent) : TcpBackend :=
  { s with peer := { s.peer with eventRx := s.peer.eventRx.sendAll events } }

def setHandler (s : TcpBackend) (uuid : Uuid) (h : PeerHandler) : TcpBackend :=
  { s with handlers := Function.update s.handlers uuid (some h) }

@[simp] theorem handlers_setHandler_self (s : TcpBackend) (uuid : Uuid) (h : PeerHandler) :
    (s.setHandler uuid h).handlers uuid = some h := Function.update_self _ _ _

theorem handlers_setHandler_of_ne (s : TcpBackend) {uuid c : Uuid} (hc : c ≠ uuid)
    (h : PeerHandler) : (s.setHandler uuid h).handlers c = s.handlers c :=
  Function.update_of_ne hc _ _

/-- The loop ends, and with it the runtime and the thread. -/
def stop (s : TcpBackend) (phase : LoopPhase) : TcpBackend :=
  { s with loop := phase, peer := { s.peer with alive := false } }

/-- What `tx.send(packet)` does to the handler of `uuid`, if it does not have to
wait. -/
def offer (s : TcpBackend) (uuid : Uuid) (packet : Bytes) : Option PeerHandler :=
  (s.handlers uuid).bind fun h => h.offer packet

/-- `tx.send(packet).await` for the handle of `uuid`. -/
def push (s : TcpBackend) (uuid : Uuid) (packet : Bytes) : TcpBackend :=
  match s.offer uuid packet with
  | some h => s.setHandler uuid h
  | none => { s with loop := .sending uuid packet }

@[simp] theorem peer_push (s : TcpBackend) (uuid : Uuid) (packet : Bytes) :
    (s.push uuid packet).peer = s.peer := by
  unfold push
  split <;> rfl

def processCommand (env : CommandEnv) (s : TcpBackend) : BackendCommand → Option TcpBackend
  | .bind _ _ =>
    if env.bindOk then some { s with accepts := s.accepts ++ [.accepting] }
    else some (s.stop .panicked)
  | .connect _ _ =>
    if env.connectOk then
      if s.Fresh env.newV4 then
        some
          { (s.emit [.connected env.newV4]).setHandler env.newV4 PeerHandler.new with
            peers := env.newV4 :: s.peers }
      else none
    else some (s.emit [.error Uuid.nil .connectionError])
  | .send connection stream data =>
    if connection ∈ s.peers then some (s.push connection (packet stream data)) else some s
  | .shutdown => some (s.stop .stopped)
  | .createStream connection stream reliability =>
    some (s.emit [.streamCreated connection (GameStream.new stream reliability)])
  | .closeStream connection stream =>
    some (s.emit [.streamClosed connection { streamId := stream }])

def step (s : TcpBackend) : Action → Option TcpBackend
  | .issue cmd =>
    match s.peer.sendCmd cmd with
    | .ok peer => some { s with peer := peer }
    | _ => none
  | .poll =>
    match s.peer.poll with
    | .ok (some (_, peer)) => some { s with peer := peer }
    | _ => none
  | .register =>
    match s.loop, s.peerReg.recv with
    | .selecting, some (uuid, reg) => some { s with peers := uuid :: s.peers, peerReg := reg }
    | _, _ => none
  | .command env =>
    match s.loop, s.peer.cmdTx.recv with
    | .selecting, some (cmd, tx) =>
      processCommand env { s with peer := { s.peer with cmdTx := tx } } cmd
    | _, _ => none
  | .resume =>
    match s.loop with
    | .sending uuid packet =>
      match s.offer uuid packet with
      | some h => some { s.setHandler uuid h with loop := .selecting }
      | none => none
    | _ => none
  | .announce k uuid =>
    if s.running ∧ s.accepts[k]? = some .accepting ∧ s.Fresh uuid then
      some { s.emit [.connected uuid] with accepts := s.accepts.set k (.announced uuid) }
    else none
  | .spawn k =>
    match s.running, s.accepts[k]? with
    | true, some (.announced uuid) =>
      some
        { s.setHandler uuid PeerHandler.new with accepts := s.accepts.set k (.spawned uuid) }
    | _, _ => none
  | .handOver k =>
    match s.running, s.accepts[k]? with
    | true, some (.spawned uuid) =>
      if s.peerReg.pending.length < registrationCapacity then
        some
          { s with accepts := s.accepts.set k .accepting, peerReg := s.peerReg.send uuid }
      else none
    | _, _ => none
  | .handler uuid a =>
    match s.running, s.handlers uuid with
    | true, some h =>
      (h.step uuid a).map fun (h, events) => (s.emit events).setHandler uuid h
    | _, _ => none

/-- The branches of `processCommand`: what each asks of the state, and what it makes
of it. -/
inductive Processes (env : CommandEnv) (s : TcpBackend) : BackendCommand → TcpBackend → Prop where
  | bind {addr : String} {port : UInt16} (hok : env.bindOk = true) :
    Processes env s (.bind addr port) { s with accepts := s.accepts ++ [.accepting] }
  | bindFails {addr : String} {port : UInt16} (hfails : ¬ env.bindOk = true) :
    Processes env s (.bind addr port) (s.stop .panicked)
  | connect {addr : String} {port : UInt16} (hok : env.connectOk = true)
    (hfresh : s.Fresh env.newV4) :
    Processes env s (.connect addr port)
      { (s.emit [.connected env.newV4]).setHandler env.newV4 PeerHandler.new with
        peers := env.newV4 :: s.peers }
  | connectFails {addr : String} {port : UInt16} (hfails : ¬ env.connectOk = true) :
    Processes env s (.connect addr port) (s.emit [.error Uuid.nil .connectionError])
  | send {c : Uuid} {stream : GameStream} {data : Bytes} (hpeer : c ∈ s.peers) :
    Processes env s (.send c stream data) (s.push c (packet stream data))
  | drop {c : Uuid} {stream : GameStream} {data : Bytes} (hpeer : c ∉ s.peers) :
    Processes env s (.send c stream data) s
  | shutdown : Processes env s .shutdown (s.stop .stopped)
  | createStream {c : Uuid} {i : UInt16} {reliability : GameStreamReliability} :
    Processes env s (.createStream c i reliability)
      (s.emit [.streamCreated c (GameStream.new i reliability)])
  | closeStream {c : Uuid} {i : UInt16} :
    Processes env s (.closeStream c i) (s.emit [.streamClosed c { streamId := i }])

theorem processes_of_processCommand {env : CommandEnv} {s t : TcpBackend} {cmd : BackendCommand}
    (h : processCommand env s cmd = some t) : Processes env s cmd t := by
  cases cmd with
  | bind addr port =>
    simp only [processCommand] at h
    split at h
    · next hok =>
      cases h
      exact .bind hok
    · next hfails =>
      cases h
      exact .bindFails hfails
  | connect addr port =>
    simp only [processCommand] at h
    split at h
    · next hok =>
      split at h
      · next hfresh =>
        cases h
        exact .connect hok hfresh
      · cases h
    · next hfails =>
      cases h
      exact .connectFails hfails
  | send c stream data =>
    simp only [processCommand] at h
    split at h
    · next hpeer =>
      cases h
      exact .send hpeer
    · next hpeer =>
      cases h
      exact .drop hpeer
  | shutdown =>
    cases h
    exact .shutdown
  | createStream c i reliability =>
    cases h
    exact .createStream
  | closeStream c i =>
    cases h
    exact .closeStream

/-- The branches of `step`. -/
inductive Steps (s : TcpBackend) : Action → TcpBackend → Prop where
  | issue {cmd : BackendCommand} (halive : s.peer.alive = true) :
    Steps s (.issue cmd) { s with peer := { s.peer with cmdTx := s.peer.cmdTx.send cmd } }
  | poll {e : GameNetworkEvent} {rx : Channel GameNetworkEvent}
    (hrecv : s.peer.eventRx.recv = some (e, rx)) :
    Steps s .poll { s with peer := { s.peer with eventRx := rx } }
  | register {uuid : Uuid} {reg : Channel Uuid} (hloop : s.loop = .selecting)
    (hrecv : s.peerReg.recv = some (uuid, reg)) :
    Steps s .register { s with peers := uuid :: s.peers, peerReg := reg }
  | command {env : CommandEnv} {cmd : BackendCommand} {tx : Channel BackendCommand}
    {t : TcpBackend} (hloop : s.loop = .selecting) (hrecv : s.peer.cmdTx.recv = some (cmd, tx))
    (hcommand : Processes env { s with peer := { s.peer with cmdTx := tx } } cmd t) :
    Steps s (.command env) t
  | resume {uuid : Uuid} {p : Bytes} {h : PeerHandler} (hloop : s.loop = .sending uuid p)
    (hoffer : s.offer uuid p = some h) :
    Steps s .resume { s.setHandler uuid h with loop := .selecting }
  | announce {k : Nat} {uuid : Uuid} (hrunning : s.running = true)
    (hphase : s.accepts[k]? = some .accepting) (hfresh : s.Fresh uuid) :
    Steps s (.announce k uuid)
      { s.emit [.connected uuid] with accepts := s.accepts.set k (.announced uuid) }
  | spawn {k : Nat} {uuid : Uuid} (hrunning : s.running = true)
    (hphase : s.accepts[k]? = some (.announced uuid)) :
    Steps s (.spawn k)
      { s.setHandler uuid PeerHandler.new with accepts := s.accepts.set k (.spawned uuid) }
  | handOver {k : Nat} {uuid : Uuid} (hrunning : s.running = true)
    (hphase : s.accepts[k]? = some (.spawned uuid))
    (hroom : s.peerReg.pending.length < registrationCapacity) :
    Steps s (.handOver k)
      { s with accepts := s.accepts.set k .accepting, peerReg := s.peerReg.send uuid }
  | handler {uuid : Uuid} {b : HandlerAction} {h h' : PeerHandler}
    {events : List GameNetworkEvent} (hrunning : s.running = true)
    (hhandler : s.handlers uuid = some h) (hb : h.step uuid b = some (h', events)) :
    Steps s (.handler uuid b) ((s.emit events).setHandler uuid h')

theorem steps_of_step {s t : TcpBackend} {a : Action} (h : s.step a = some t) : Steps s a t := by
  cases a with
  | issue cmd =>
    simp only [step] at h
    split at h
    · next peer hsend =>
      cases h
      obtain ⟨halive, rfl⟩ := GamePeer.sendCmd_eq_ok hsend
      exact .issue halive
    · cases h
  | poll =>
    simp only [step] at h
    split at h
    · next e peer hpoll =>
      cases h
      obtain ⟨rx, hrecv, rfl⟩ := GamePeer.poll_eq_some hpoll
      exact .poll hrecv
    · cases h
  | register =>
    simp only [step] at h
    split at h
    · next uuid reg hloop hrecv =>
      cases h
      exact .register hloop hrecv
    · cases h
  | command env =>
    simp only [step] at h
    split at h
    · next cmd tx hloop hrecv =>
      exact .command hloop hrecv (processes_of_processCommand h)
    · cases h
  | resume =>
    simp only [step] at h
    split at h
    · next uuid p hloop =>
      split at h
      · next hd hoffer =>
        cases h
        exact .resume hloop hoffer
      · cases h
    · cases h
  | announce k uuid =>
    simp only [step] at h
    split at h
    · next hcond =>
      cases h
      exact .announce hcond.1 hcond.2.1 hcond.2.2
    · cases h
  | spawn k =>
    simp only [step] at h
    split at h
    · next uuid hrunning hphase =>
      cases h
      exact .spawn hrunning hphase
    · cases h
  | handOver k =>
    simp only [step] at h
    split at h
    · next uuid hrunning hphase =>
      split at h
      · next hroom =>
        cases h
        exact .handOver hrunning hphase hroom
      · cases h
    · cases h
  | handler uuid b =>
    simp only [step] at h
    split at h
    · next hd hrunning hhandler =>
      obtain ⟨⟨h', events⟩, hb, rfl⟩ := Option.map_eq_some_iff.mp h
      exact .handler hrunning hhandler hb
    · cases h

/-- What a step may add to the events, seen from one UUID: what its handler says, if it
is a step of that handler, and else no payload of that UUID. -/
def Speaks (s t : TcpBackend) (uuid : Uuid) (new : List GameNetworkEvent) :
    Option HandlerAction → Prop
  | some b => ∃ h h', s.handlers uuid = some h ∧ t.handlers uuid = some h' ∧
      h.step uuid b = some (h', new)
  | none => ∀ m ∈ new.filterMap GameNetworkEvent.delivered, m.connection ≠ uuid

/-- The events only grow, and only the application adds commands. -/
theorem step_logs {s t : TcpBackend} {a : Action} (hstep : s.step a = some t) :
    (∃ new, t.peer.eventRx.log = s.peer.eventRx.log ++ new ∧
        ∀ uuid, Speaks s t uuid new (a.atHandler uuid)) ∧
      (t.peer.cmdTx.log = s.peer.cmdTx.log ∨
        ∃ cmd, a = .issue cmd ∧ t.peer.cmdTx.log = s.peer.cmdTx.log ++ [cmd]) := by
  have silent : ∀ {events : List GameNetworkEvent},
      events.filterMap GameNetworkEvent.delivered = [] →
        ∀ uuid, Speaks s t uuid events none := by
    intro events hnone uuid m hm
    rw [hnone] at hm
    cases hm
  have keep : ∃ new, s.peer.eventRx.log = s.peer.eventRx.log ++ new ∧
      ∀ uuid, Speaks s t uuid new none :=
    ⟨[], (List.append_nil _).symm, silent rfl⟩
  cases steps_of_step hstep with
  | @issue cmd => exact ⟨keep, Or.inr ⟨cmd, rfl, Channel.log_send _ _⟩⟩
  | poll hrecv =>
    refine ⟨⟨[], ?_, silent rfl⟩, Or.inl rfl⟩
    rw [List.append_nil]
    exact Channel.log_recv hrecv
  | register => exact ⟨keep, Or.inl rfl⟩
  | command _ hrecv hcommand =>
    have hlog := Channel.log_recv hrecv
    cases hcommand with
    | bind => exact ⟨keep, Or.inl hlog⟩
    | bindFails => exact ⟨keep, Or.inl hlog⟩
    | connect => exact ⟨⟨_, Channel.log_sendAll _ _, silent rfl⟩, Or.inl hlog⟩
    | connectFails => exact ⟨⟨_, Channel.log_sendAll _ _, silent rfl⟩, Or.inl hlog⟩
    | send =>
      rw [peer_push]
      exact ⟨keep, Or.inl hlog⟩
    | drop => exact ⟨keep, Or.inl hlog⟩
    | shutdown => exact ⟨keep, Or.inl hlog⟩
    | createStream => exact ⟨⟨_, Channel.log_sendAll _ _, silent rfl⟩, Or.inl hlog⟩
    | closeStream => exact ⟨⟨_, Channel.log_sendAll _ _, silent rfl⟩, Or.inl hlog⟩
  | resume => exact ⟨keep, Or.inl rfl⟩
  | announce => exact ⟨⟨_, Channel.log_sendAll _ _, silent rfl⟩, Or.inl rfl⟩
  | spawn => exact ⟨keep, Or.inl rfl⟩
  | handOver => exact ⟨keep, Or.inl rfl⟩
  | @handler uuid b hd h' events _ hhandler hb =>
    refine ⟨⟨_, Channel.log_sendAll _ _, fun c => ?_⟩, Or.inl rfl⟩
    by_cases hc : uuid = c
    · subst hc
      rw [Action.atHandler, if_pos rfl]
      exact ⟨hd, h', hhandler, handlers_setHandler_self _ _ _, hb⟩
    · rw [Action.atHandler, if_neg hc]
      intro m hm
      obtain ⟨e, he, hdelivered⟩ := List.mem_filterMap.mp hm
      have hconnection := PeerHandler.step_events hb e he
      rw [GameNetworkEvent.delivered_eq_some.mp hdelivered] at hconnection
      exact fun heq => hc (hconnection.symm.trans heq)

end TcpBackend

end Tcp
end GameSockets

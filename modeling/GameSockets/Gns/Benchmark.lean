/-
The benchmark over GNS: the client's loop and the server's loop, each at the handle of its
backend, and the connection between the backends.

A stream id says by its low bits whether its packets go out reliably, and the server answers on
the stream that a packet came on.  So a reliable stream is reliable there and back, as far as GNS
accepts its messages, and the echoes of an unreliable one may be missing, late or repeated.
-/
import GameSockets.Client.Commands
import GameSockets.Client.Gapless
import GameSockets.Gns.Link
import GameSockets.Server.Replies
import Mathlib.Data.Rat.Floor

namespace GameSockets
namespace Gns

open Library Client

section Benchmark

variable {Handle : Type}

/-- The two programs, the loops of their backends, and what is under way between these. -/
structure Bench (Handle : Type) where
  client : ClientState
  clientRun : GnsRun Handle
  server : Server.ServerState
  serverRun : GnsRun Handle
  toServer : Lanes
  toClient : Lanes

inductive BenchAction (Handle : Type) where
  | poll (r : PollReading)
  | pace (r : PaceReading)
  /-- a pass of the server's loop -/
  | serve
  | link (a : LinkAction Handle)

def EndAction.byApplication : EndAction Handle → Bool
  | .own a _ => a.byApplication
  | _ => false

def LinkAction.byApplication : LinkAction Handle → Bool
  | .left a => a.byApplication
  | .right a => a.byApplication

namespace Bench

def link (s : Bench Handle) : Link Handle :=
  { left := { peer := s.client.peer, run := s.clientRun },
    right := { peer := s.server.peer, run := s.serverRun },
    toRight := s.toServer,
    toLeft := s.toClient }

def withLink (s : Bench Handle) (l : Link Handle) : Bench Handle :=
  { client := { s.client with peer := l.left.handle },
    clientRun := l.left.run,
    server := { s.server with peer := l.right.handle },
    serverRun := l.right.run,
    toServer := l.toRight,
    toClient := l.toLeft }

/-- The two programs at the heads of their loops. -/
def init (args : CliArgs) (t60 t20 : Nat) (ip : String) (port : UInt16) : Bench Handle :=
  { client := Client.init args t60 t20,
    clientRun := GnsRun.init,
    server := Server.init ip port,
    serverRun := GnsRun.init,
    toServer := Lanes.empty,
    toClient := Lanes.empty }

/-- The client dials once: the UUID that is drawn at its end is that of the connection. -/
def Dialled (w : Wire Handle) (s : Bench Handle) : LinkAction Handle → Prop
  | .left (.own (.event env conn _ _) _) =>
    s.clientRun.backend.handleToUuid conn = none → env.newV4 = w.left.uuid
  | _ => True

def Assumed (w : Wire Handle) (s : Bench Handle) : BenchAction Handle → Prop
  | .link a => s.link.Assumed w a ∧ s.Dialled w a
  | _ => True

/-- GNS has refused no reliable message, neither the client's nor the server's. -/
def Accepted (s : Bench Handle) : Prop := s.toServer.refused = [] ∧ s.toClient.refused = []

variable [DecidableEq Handle] (parse : String → Option Ipv4Addr) (crc : Bytes → UInt32)
  (entropy : Bytes) (args : CliArgs) (w : Wire Handle)

def step (s : Bench Handle) : BenchAction Handle → Option (Bench Handle)
  | .poll r =>
    (Client.step crc entropy args s.client (.poll r)).map fun st => { s with client := st }
  | .pace r =>
    (Client.step crc entropy args s.client (.pace r)).map fun st => { s with client := st }
  | .serve => (Server.step crc s.server).map fun st => { s with server := st }
  | .link a => if a.byApplication then none else (Link.step parse w s.link a).map s.withLink

end Bench

/-! ## The backends -/

/-- The backend has reported no other connection than `uuid`. -/
structure GnsRun.Dials (uuid : Uuid) (s : GnsRun Handle) : Prop where
  connected : ∀ c, .connected c ∈ s.events → c = uuid
  delivered : ∀ m ∈ s.events.filterMap GameNetworkEvent.delivered, m.connection = uuid

section Backends

variable [DecidableEq Handle] {parse : String → Option Ipv4Addr} {uuid : Uuid}

omit [DecidableEq Handle] in
/-- New events that are about the connection. -/
theorem GnsRun.Dials.append {s t : GnsRun Handle} (h : s.Dials uuid) {new : List GameNetworkEvent}
    (hevents : t.events = s.events ++ new) (hconnected : ∀ c, .connected c ∈ new → c = uuid)
    (hdelivered : ∀ m ∈ new.filterMap GameNetworkEvent.delivered, m.connection = uuid) :
    t.Dials uuid := by
  refine ⟨fun c hc => ?_, fun m hm => ?_⟩
  · rw [hevents, List.mem_append] at hc
    exact hc.elim (h.connected c) (hconnected c)
  · rw [hevents, List.filterMap_append, List.mem_append] at hm
    exact hm.elim (h.delivered m) (hdelivered m)

theorem GnsRun.dials_step {s t : GnsRun Handle} {a : Input Handle} (h : s.Dials uuid)
    (hregistered : s.Registered) (hassumed : s.Assumed a)
    (hdraws : ∀ env conn old new, a = .event env conn old new →
      s.backend.handleToUuid conn = none → env.newV4 = uuid)
    (hstep : s.step parse a = some t) : t.Dials uuid := by
  have received : ∀ {conn c} {stream : GameStream} {data : Bytes},
      s.backend.handleToUuid conn = some c →
        ∀ m ∈ [GameNetworkEvent.message c stream data].filterMap GameNetworkEvent.delivered,
          m.connection = uuid := by
    intro conn c stream data hconn m hm
    rw [List.mem_singleton.mp hm]
    refine h.connected c ((hregistered.live c).mp ?_).1
    rw [(hregistered.inverse conn c).mp hconn]
    exact Option.some_ne_none conn
  cases GnsRun.steps_of_step hstep with
  | stop => exact ⟨h.connected, h.delivered⟩
  | command hcommand =>
    obtain ⟨-, -, -, hpassing⟩ := GnsRun.processCommand_keeps hcommand
    refine h.append rfl (fun c hc => absurd rfl ((hpassing _ hc).1 c).1) fun m hm => ?_
    obtain ⟨ev, hev, hm⟩ := List.mem_filterMap.mp hm
    rw [(hpassing ev hev).2] at hm
    cases hm
  | @register env socket conn old new calls hsocket hdrawn =>
    have hnone : s.backend.handleToUuid conn = none := by
      rcases hdrawn with ⟨rfl, rfl, -⟩ | ⟨rfl, rfl, hnone⟩
      · exact hassumed.2
      · exact hnone
    have huuid := hdraws env conn old new rfl hnone
    exact h.append rfl (by simp [huuid]) (by simp [GameNetworkEvent.delivered])
  | disconnect => exact h.append rfl (by simp) (by simp [GameNetworkEvent.delivered])
  | quiet => exact h.append rfl (by simp) (by simp)
  | drop => exact h.append rfl (by simp) (by simp)
  | receive hconn => exact h.append rfl (by simp) (received hconn)
  | receiveNew hconn => exact h.append rfl (by simp) (received hconn)

namespace GnsPeer

variable {e : End Handle} {s t : GnsPeer Handle} {out inp out' inp' : Lanes}

variable (parse e) in
/-- What the loop does when `a` happens: it takes commands from the handle and adds events, and
has taken an input if it has changed. -/
structure Serves (a : EndAction Handle) (s t : GnsPeer Handle) : Prop where
  commands : t.peer.cmdTx.log = s.peer.cmdTx.log
  events : s.peer.eventRx.log <+: t.peer.eventRx.log
  received : t.peer.eventRx.received = s.peer.eventRx.received
  run : t.run = s.run ∨ ∃ input, s.run.step parse input = some t.run ∧
    (s.Assumed e a → s.run.Assumed input) ∧
    ∀ env conn old new, input = .event env conn old new →
      ∃ sendOk, a = .own (.event env conn old new) sendOk

theorem serves_feed {a : EndAction Handle} {u : GnsPeer Handle} {input : Input Handle}
    (hrun : u.run = s.run) (hcommands : u.peer.cmdTx.log = s.peer.cmdTx.log)
    (hevents : u.peer.eventRx = s.peer.eventRx) (hassumed : s.Assumed e a → s.run.Assumed input)
    (hinput : ∀ env conn old new, input = .event env conn old new →
      ∃ sendOk, a = .own (.event env conn old new) sendOk)
    (hfeed : u.feed parse input = some t) : Serves parse e a s t := by
  obtain ⟨run, hstep, rfl⟩ := Option.map_eq_some_iff.mp hfeed
  rw [hrun] at hstep
  refine ⟨hcommands, ?_, ?_, Or.inr ⟨input, hstep, hassumed, hinput⟩⟩
  · rw [Channel.log_sendAll, hevents]
    exact List.prefix_append _ _
  · rw [← hevents]
    rfl

theorem serves_stepEnd {a : EndAction Handle} (ha : a.byApplication = false)
    (hstep : s.stepEnd parse e out inp a = some (t, out', inp')) : Serves parse e a s t := by
  have arrives : ∀ {bytes : Bytes}, s.feed parse (.message e.conn bytes) = some t →
      Serves parse e a s t := by
    intro bytes hfeed
    have harrival : s.run.Assumed (.message e.conn bytes) := ⟨trivial, trivial⟩
    exact serves_feed rfl rfl rfl (fun _ => harrival) (fun _ _ _ _ heq => by cases heq) hfeed
  cases a with
  | own a sendOk =>
    obtain ⟨t', ht, heq⟩ := Option.map_eq_some_iff.mp hstep
    cases heq
    cases a with
    | issue cmd => cases ha
    | poll => cases ha
    | command env =>
      simp only [GnsPeer.step] at ht
      split at ht
      · next cmd tx hrecv =>
        let u : GnsPeer Handle := { s with peer := { s.peer with cmdTx := tx } }
        have hrun : u.run = s.run := rfl
        have hcommand : s.run.Assumed (.command env cmd) := ⟨trivial, trivial⟩
        exact serves_feed hrun (Channel.log_recv hrecv) rfl (fun _ => hcommand)
          (fun _ _ _ _ heq => by cases heq) ht
      · cases ht
    | event env conn old new =>
      refine serves_feed rfl rfl rfl And.left (fun env' conn' old' new' heq => ?_) ht
      cases heq
      exact ⟨sendOk, rfl⟩
    | message conn payload =>
      have harrival : s.run.Assumed (.message conn payload) := ⟨trivial, trivial⟩
      exact serves_feed rfl rfl rfl (fun _ => harrival) (fun _ _ _ _ heq => by cases heq) ht
    | pass =>
      simp only [GnsPeer.step] at ht
      split at ht <;> cases ht
      exact ⟨rfl, List.prefix_refl _, rfl, Or.inl rfl⟩
  | reliable lane =>
    simp only [stepEnd] at hstep
    split at hstep
    · obtain ⟨t', ht, heq⟩ := Option.map_eq_some_iff.mp hstep
      cases heq
      exact arrives ht
    · cases hstep
  | unreliable sent =>
    obtain ⟨bytes, -, hfeed⟩ := Option.bind_eq_some_iff.mp hstep
    obtain ⟨t', ht, heq⟩ := Option.map_eq_some_iff.mp hfeed
    cases heq
    exact arrives ht

end GnsPeer

end Backends

/-! ## The invariant -/

section Orderly

variable {crc : Bytes → UInt32} {entropy : Bytes} {args : CliArgs} {w : Wire Handle}

/-- The applications use their handles: what the loops have taken and put out stays. -/
theorem Link.Sound.withPeers {l : Link Handle} (h : l.Sound w) {left right : GamePeer}
    (hleft : left.eventRx.log = l.left.peer.eventRx.log)
    (hleftTaken : left.cmdTx.received = l.left.peer.cmdTx.received)
    (hright : right.eventRx.log = l.right.peer.eventRx.log)
    (hrightTaken : right.cmdTx.received = l.right.peer.cmdTx.received) :
    Link.Sound w
      { l with left := { l.left with peer := left }, right := { l.right with peer := right } } := by
  refine ⟨⟨h.left.known, hleft.trans h.left.told⟩, ⟨h.right.known, hright.trans h.right.told⟩,
    ?_, ?_⟩
  · have hforth := h.forth
    unfold Link.Conveys GnsPeer.takenSends GnsPeer.heard at hforth ⊢
    rw [hleftTaken, hright]
    exact hforth
  · have hback := h.back
    unfold Link.Conveys GnsPeer.takenSends GnsPeer.heard Link.swap Wire.swap at hback ⊢
    dsimp only at hback ⊢
    rw [hrightTaken, hleft]
    exact hback

namespace Bench

variable (crc args w) in
/-- What is under way belongs to the client's packets. -/
structure Orderly (s : Bench Handle) : Prop where
  client : Introduced args s.client
  numbered : Numbered crc s.client
  rows : RowsPolled s.client
  dials : s.clientRun.Dials w.left.uuid
  link : s.link.Sound w
  replies : Server.Replies crc s.server

theorem orderly_init (t60 t20 : Nat) (ip : String) (port : UInt16) :
    Orderly crc args w (init args t60 t20 ip port) :=
  { client := introduced_init t60 t20
    numbered := numbered_init args t60 t20
    rows := ⟨[], List.nil_sublist _, .nil⟩
    dials := ⟨nofun, nofun⟩
    link := ⟨⟨GnsRun.known_init _, rfl⟩, ⟨GnsRun.known_init _, rfl⟩, delivers_empty, delivers_empty⟩
    replies := Server.replies_init ip port }

/-- The client takes a turn. -/
theorem orderly_turn {s : Bench Handle} {st : ClientState} {a : Client.Action}
    (h : Orderly crc args w s) (hturn : (∃ r, a = .poll r) ∨ ∃ r, a = .pace r)
    (hstep : Client.step crc entropy args s.client a = some st) :
    Orderly crc args w { s with client := st } := by
  obtain ⟨huses, hclient⟩ := introduced_turn h.client hturn hstep
  exact
    { client := hclient
      numbered := numbered_step entropy args h.numbered hstep
      rows := rowsPolled_step h.rows hstep
      dials := h.dials
      link := h.link.withPeers huses.events huses.received rfl rfl
      replies := h.replies }

/-- The server's loop makes a pass. -/
theorem orderly_serve {s : Bench Handle} {st : Server.ServerState} (h : Orderly crc args w s)
    (hstep : Server.step crc s.server = some st) : Orderly crc args w { s with server := st } := by
  have huses := Server.uses_step hstep
  exact
    { client := h.client
      numbered := h.numbered
      rows := h.rows
      dials := h.dials
      link := h.link.withPeers rfl rfl huses.events huses.received
      replies := Server.replies_step h.replies hstep }

variable [DecidableEq Handle] {parse : String → Option Ipv4Addr}

/-- A backend takes a step. -/
theorem orderly_link {s : Bench Handle} {l : Link Handle} {a : LinkAction Handle}
    (h : Orderly crc args w s) (ha : a.byApplication = false) (hassumed : s.link.Assumed w a)
    (hdialled : s.Dialled w a) (hstep : Link.step parse w s.link a = some l) :
    Orderly crc args w (s.withLink l) := by
  have hsound := Link.sound_step h.link hassumed hstep
  have hlink : (s.withLink l).link.Sound w := hsound.withPeers rfl rfl rfl rfl
  cases a with
  | left a =>
    obtain ⟨⟨u, out, inp⟩, hend, rfl⟩ := Option.map_eq_some_iff.mp hstep
    have hserves := GnsPeer.serves_stepEnd ha hend
    refine
      { client := h.client.backend hserves.commands hserves.events
        numbered := numbered_of_eq h.numbered ?_ rfl id
        rows := ?_
        dials := ?_
        link := hlink
        replies := h.replies.backend rfl rfl }
    · show u.peer.cmdTx.log.filterMap BackendCommand.sent = Client.sends s.client
      rw [hserves.commands]
      rfl
    · obtain ⟨ms, hms, hrows⟩ := h.rows
      refine ⟨ms, ?_, hrows⟩
      show ms.Sublist (u.peer.eventRx.received.filterMap GameNetworkEvent.delivered)
      rw [hserves.received]
      exact hms
    · rcases hserves.run with hrun | ⟨input, hrun, hinput, hevent⟩
      · show u.run.Dials w.left.uuid
        rw [hrun]
        exact h.dials
      · refine GnsRun.dials_step h.dials h.link.left.known.registered (hinput hassumed) ?_ hrun
        intro env conn old new heq hnone
        obtain ⟨sendOk, haction⟩ := hevent env conn old new heq
        rw [haction] at hdialled
        exact hdialled hnone
  | right a =>
    obtain ⟨⟨u, out, inp⟩, hend, rfl⟩ := Option.map_eq_some_iff.mp hstep
    have hserves := GnsPeer.serves_stepEnd ha hend
    exact
      { client := h.client.backend rfl (List.prefix_refl _)
        numbered := numbered_of_eq h.numbered rfl rfl id
        rows := h.rows
        dials := h.dials
        link := hlink
        replies := h.replies.backend hserves.commands hserves.received }

theorem orderly_step {s t : Bench Handle} {a : BenchAction Handle} (h : Orderly crc args w s)
    (hassumed : s.Assumed w a) (hstep : step parse crc entropy args w s a = some t) :
    Orderly crc args w t := by
  cases a with
  | poll r =>
    obtain ⟨st, hst, rfl⟩ := Option.map_eq_some_iff.mp hstep
    exact orderly_turn h (Or.inl ⟨r, rfl⟩) hst
  | pace r =>
    obtain ⟨st, hst, rfl⟩ := Option.map_eq_some_iff.mp hstep
    exact orderly_turn h (Or.inr ⟨r, rfl⟩) hst
  | serve =>
    obtain ⟨st, hst, rfl⟩ := Option.map_eq_some_iff.mp hstep
    exact orderly_serve h hst
  | link a =>
    simp only [step] at hstep
    split at hstep
    · cases hstep
    · next happ =>
      obtain ⟨l, hl, rfl⟩ := Option.map_eq_some_iff.mp hstep
      exact orderly_link h (Bool.eq_false_iff.mpr happ) hassumed.1 hassumed.2 hl

theorem orderly_of_run {t60 t20 : Nat} {ip : String} {port : UInt16}
    {actions : List (BenchAction Handle)} {s : Bench Handle}
    (hassumed : Run.Along (step parse crc entropy args w) (Assumed w)
      (init args t60 t20 ip port) actions)
    (hrun : Run.run (step parse crc entropy args w) (init args t60 t20 ip port) actions = some s) :
    Orderly crc args w s := by
  have keep : ∀ s a t, Orderly crc args w s → s.Assumed w a →
      step parse crc entropy args w s a = some t → Orderly crc args w t := fun _ _ _ => orderly_step
  exact Run.invariant keep actions (orderly_init t60 t20 ip port) hassumed hrun

end Bench

/-! ## There and back -/

namespace Bench

/-- A packet of a reliable stream. -/
def reliable (m : Transfer) : Bool := m.stream.isReliable

section Echoes

variable {s : Bench Handle}

theorem Orderly.heard_sent (h : Orderly crc args w s) :
    heardOn w.right.uuid s.server.peer.eventRx.received ⊆
      sendsTo w.left.uuid s.client.peer.cmdTx.log := fun _ hx =>
  (sendsTo_isPrefix _ _).subset (Delivers.subset h.link.forth ((heardOn_isPrefix _ _).subset hx))

/-- What the server has passed to `send` for the connection is what it has polled there, up to
the answer that failed. -/
theorem Orderly.answers (h : Orderly crc args w s) :
    sendsTo w.right.uuid s.server.peer.cmdTx.log <+:
      heardOn w.right.uuid s.server.peer.eventRx.received :=
  h.replies.answers fun _ hx => readable_of_sendsTo h.numbered (h.heard_sent hx)

theorem Orderly.polled_sent (h : Orderly crc args w s) :
    heardOn w.left.uuid s.client.peer.eventRx.received ⊆
      sendsTo w.left.uuid s.client.peer.cmdTx.log := by
  intro x hx
  have hback := Delivers.subset h.link.back ((heardOn_isPrefix _ _).subset hx)
  exact h.heard_sent (h.answers.subset ((sendsTo_isPrefix _ _).subset hback))

/-- The reliable streams keep their order on either way, and at the server. -/
theorem Orderly.polled_sublist (h : Orderly crc args w s) :
    List.Sublist ((heardOn w.left.uuid s.client.peer.eventRx.received).filter overReliable)
      ((sendsTo w.left.uuid s.client.peer.cmdTx.log).filter overReliable) := by
  have hthere : List.Sublist
      ((heardOn w.right.uuid s.server.peer.eventRx.received).filter overReliable)
      ((sendsTo w.left.uuid s.client.peer.cmdTx.log).filter overReliable) :=
    (((heardOn_isPrefix _ _).filter _).sublist.trans (Delivers.sublist h.link.forth)).trans
      ((sendsTo_isPrefix _ _).filter _).sublist
  have hback : List.Sublist
      ((heardOn w.left.uuid s.client.peer.eventRx.received).filter overReliable)
      ((sendsTo w.right.uuid s.server.peer.cmdTx.log).filter overReliable) :=
    (((heardOn_isPrefix _ _).filter _).sublist.trans (Delivers.sublist h.link.back)).trans
      ((sendsTo_isPrefix _ _).filter _).sublist
  exact (hback.trans (h.answers.filter _).sublist).trans hthere

/-- They lose nothing on either way if GNS refuses nothing, and nothing at the server. -/
theorem Orderly.polled_reliable (h : Orderly crc args w s) (haccepted : s.Accepted) :
    (heardOn w.left.uuid s.client.peer.eventRx.received).filter overReliable <:+:
      (sendsTo w.left.uuid s.client.peer.cmdTx.log).filter overReliable := by
  have hthere : (heardOn w.right.uuid s.server.peer.eventRx.received).filter overReliable <:+:
      (sendsTo w.left.uuid s.client.peer.cmdTx.log).filter overReliable :=
    (((heardOn_isPrefix _ _).filter _).isInfix.trans
      (Delivers.isInfix h.link.forth haccepted.1)).trans
        ((sendsTo_isPrefix _ _).filter _).isInfix
  have hback : (heardOn w.left.uuid s.client.peer.eventRx.received).filter overReliable <:+:
      (sendsTo w.right.uuid s.server.peer.cmdTx.log).filter overReliable :=
    (((heardOn_isPrefix _ _).filter _).isInfix.trans
      (Delivers.isInfix h.link.back haccepted.2)).trans
        ((sendsTo_isPrefix _ _).filter _).isInfix
  exact (hback.trans (h.answers.filter _).isInfix).trans hthere

theorem Orderly.told (h : Orderly crc args w s) :
    s.client.peer.eventRx.log = s.clientRun.events := h.link.left.told

theorem Orderly.heard_onWire (h : Orderly crc args w s) :
    ∀ m ∈ Client.heard s.client, m.connection = w.left.uuid := by
  intro m hm
  refine h.dials.delivered m ?_
  rw [← h.told]
  exact ((received_isPrefix _).filterMap _).subset hm

theorem Orderly.sends_onWire (h : Orderly crc args w s) :
    ∀ m ∈ Client.sends s.client, m.connection = w.left.uuid := by
  intro m hm
  refine h.dials.connected _ ?_
  rw [← h.told]
  exact connected_of_sends h.client hm

theorem filter_onWire (uuid : Uuid) (xs : List (GameStream × Bytes)) :
    (xs.map (onWire uuid)).filter reliable = (xs.filter overReliable).map (onWire uuid) := by
  rw [List.filter_map]
  rfl

theorem Orderly.heard_subset (h : Orderly crc args w s) :
    Client.heard s.client ⊆ Client.sends s.client := by
  rw [← map_onWire h.heard_onWire, ← map_onWire h.sends_onWire]
  exact List.map_subset _ h.polled_sent

theorem Orderly.heard_sublist (h : Orderly crc args w s) :
    List.Sublist ((Client.heard s.client).filter reliable)
      ((Client.sends s.client).filter reliable) := by
  rw [← map_onWire h.heard_onWire, ← map_onWire h.sends_onWire, filter_onWire, filter_onWire]
  exact h.polled_sublist.map _

theorem Orderly.heard_reliable (h : Orderly crc args w s) (haccepted : s.Accepted) :
    (Client.heard s.client).filter reliable <:+: (Client.sends s.client).filter reliable := by
  rw [← map_onWire h.heard_onWire, ← map_onWire h.sends_onWire, filter_onWire, filter_onWire]
  exact (h.polled_reliable haccepted).map _

theorem onStream_filter_reliable {id : UInt16} (hid : (GameStream.mk id).isReliable = true)
    (ms : List Transfer) : onStream id (ms.filter reliable) = onStream id ms := by
  rw [onStream, onStream, List.filter_filter]
  refine List.filter_congr fun m _ => ?_
  by_cases hm : m.stream.streamId = id
  · have hreliable : reliable m = true := by
      rw [reliable, ← hid, ← hm]
    rw [hreliable, Bool.and_true]
  · simp [hm]

/-- Of a reliable stream the client polls a stretch of what it has sent. -/
theorem Orderly.heard_onStream (h : Orderly crc args w s) (haccepted : s.Accepted) {id : UInt16}
    (hid : (GameStream.mk id).isReliable = true) :
    onStream id (Client.heard s.client) <:+: onStream id (Client.sends s.client) := by
  rw [← onStream_filter_reliable hid, ← onStream_filter_reliable hid (Client.sends s.client)]
  exact (h.heard_reliable haccepted).filter _

theorem Orderly.rows_increase (h : Orderly crc args w s) {id : UInt16}
    (hid : (GameStream.mk id).isReliable = true) :
    ((Stats.streamRecords s.client.recorder id).map (·.packetId)).Pairwise (· < ·) := by
  obtain ⟨ms, hms, hrows⟩ := h.rows
  obtain ⟨k, hk, hids, -⟩ := h.numbered.ids { streamId := id }
  have hrecorded : (Stats.streamRecords s.client.recorder id).map (·.packetId) =
      idsOf id (ms.map packetKey) := by
    rw [← key_of_measures hrows, idsOf_rowKey]
  have hheard : List.Sublist (idsOf id ((Client.heard s.client).map packetKey)) (firstIds k) := by
    rw [← hids, ← idsOf_packetKey, idsOf_onStream, idsOf_onStream,
      ← onStream_filter_reliable hid, ← onStream_filter_reliable hid (Client.sends s.client)]
    exact (h.heard_sublist.filter _).map _
  rw [hrecorded]
  have hsub := idsOf_sublist (hms.map packetKey) id
  exact (firstIds_increasing hk).sublist (hsub.trans hheard)

variable [DecidableEq Handle] (parse : String → Option Ipv4Addr)
variable (crc entropy args w)

/-- However GNS treats the packets, everything that the client polls and every row that it records
is a packet of its own.  Those of the reliable streams it polls in the order in which it has sent
them, and so the ids recorded for such a stream rise; if GNS has refused none of them, it polls a
stretch. -/
theorem echoes_by_stream (t60 t20 : Nat) (ip : String) (port : UInt16)
    (actions : List (BenchAction Handle)) (s : Bench Handle)
    (hassumed : Run.Along (step parse crc entropy args w) (Assumed w)
      (init args t60 t20 ip port) actions)
    (hrun : Run.run (step parse crc entropy args w) (init args t60 t20 ip port) actions = some s) :
    Client.heard s.client ⊆ Client.sends s.client ∧
      (∃ ms ⊆ Client.sends s.client, List.Forall₂ Measures s.client.recorder ms) ∧
      List.Sublist ((Client.heard s.client).filter reliable)
        ((Client.sends s.client).filter reliable) ∧
      (s.Accepted →
        (Client.heard s.client).filter reliable <:+: (Client.sends s.client).filter reliable) ∧
      ∀ id, (GameStream.mk id).isReliable = true →
        ((Stats.streamRecords s.client.recorder id).map (·.packetId)).Pairwise (· < ·) := by
  have h := orderly_of_run hassumed hrun
  obtain ⟨ms, hms, hrows⟩ := h.rows
  exact ⟨h.heard_subset, ⟨ms, fun m hm => h.heard_subset (hms.subset hm), hrows⟩, h.heard_sublist,
    h.heard_reliable, fun id hid => h.rows_increase hid⟩

end Echoes

/-! ## The loss of a reliable stream -/

/-- The event that the client polls. -/
def polled (s : Bench Handle) : BenchAction Handle → Option Polled
  | .poll r => Client.polled s.client (.poll r)
  | .pace _ => none
  | .serve => none
  | .link _ => none

section Loss

variable [DecidableEq Handle] {parse : String → Option Ipv4Addr}

theorem seenBy_bench {seen : List Polled} {s t : Bench Handle} {a : BenchAction Handle}
    (h : SeenBy crc args seen s.client) (hstep : step parse crc entropy args w s a = some t) :
    SeenBy crc args (seen ++ (s.polled a).toList) t.client := by
  cases a with
  | poll r =>
    obtain ⟨st, hst, rfl⟩ := Option.map_eq_some_iff.mp hstep
    exact seenBy_step h hst
  | pace r =>
    obtain ⟨st, hst, rfl⟩ := Option.map_eq_some_iff.mp hstep
    exact seenBy_step h hst
  | serve =>
    obtain ⟨st, -, rfl⟩ := Option.map_eq_some_iff.mp hstep
    rw [polled, Option.toList_none, List.append_nil]
    exact h
  | link a =>
    simp only [step] at hstep
    split at hstep
    · cases hstep
    · next happ =>
      obtain ⟨l, hl, rfl⟩ := Option.map_eq_some_iff.mp hstep
      rw [polled, Option.toList_none, List.append_nil]
      cases a with
      | left a =>
        obtain ⟨⟨u, out, inp⟩, hend, rfl⟩ := Option.map_eq_some_iff.mp hl
        exact h.backend (GnsPeer.serves_stepEnd (Bool.eq_false_iff.mpr happ) hend).received
      | right a =>
        obtain ⟨⟨u, out, inp⟩, -, rfl⟩ := Option.map_eq_some_iff.mp hl
        exact h.backend rfl

omit [DecidableEq Handle] in
/-- The rows of a reliable stream are those of a stretch of the packets sent on it. -/
theorem rows_isInfix {s : Bench Handle} (h : Orderly crc args w s) (haccepted : s.Accepted)
    {seen : List Polled}
    (hseen : SeenBy crc args seen s.client) (hclock : Chronological seen) {id : UInt16}
    (hid : (GameStream.mk id).isReliable = true) :
    (s.client.recorder.map rowKey).filter (·.1 = id) <:+:
      ((Client.sends s.client).map packetKey).filter (·.1 = id) := by
  refine Client.rows_isInfix hseen hclock (fun m hm => ?_) (h.heard_onStream haccepted hid)
  obtain ⟨p, hp⟩ := h.numbered.encoded m (h.heard_subset hm)
  rw [hp, BenchmarkPacket.fromBytes_toBytes]
  rfl

variable {F : Type} [Field F] [LinearOrder F] [FloorSemiring F] (sqrt : F → F)
variable (parse crc entropy args w)

end Loss

end Bench

end Orderly

end Benchmark

/-! ## Two packets of each kind -/

instance decidableDialled (w : Wire Nat) (s : Bench Nat) : ∀ a, Decidable (s.Dialled w a)
  | .left (.own (.event env conn _ _) _) =>
    inferInstanceAs (Decidable
      (s.clientRun.backend.handleToUuid conn = none → env.newV4 = w.left.uuid))
  | .left (.own (.message _ _) _) => .isTrue trivial
  | .left (.own (.issue _) _) => .isTrue trivial
  | .left (.own .poll _) => .isTrue trivial
  | .left (.own (.command _) _) => .isTrue trivial
  | .left (.own .pass _) => .isTrue trivial
  | .left (.reliable _) => .isTrue trivial
  | .left (.unreliable _) => .isTrue trivial
  | .right _ => .isTrue trivial

instance decidableBenchAssumed (w : Wire Nat) (s : Bench Nat) : ∀ a, Decidable (s.Assumed w a)
  | .link a => inferInstanceAs (Decidable (s.link.Assumed w a ∧ s.Dialled w a))
  | .poll _ => .isTrue trivial
  | .pace _ => .isTrue trivial
  | .serve => .isTrue trivial

namespace Bench

/-- Of the unreliable packets the first one is lost, and the second one comes twice.  The client
polls the first reliable packet within the first second. -/
def mixedEcho : List (BenchAction Nat) :=
  let pollAt (instant : Nat) : BenchAction Nat := .poll { instant := instant, micros := 0 }
  let paceAt (now : Nat) : BenchAction Nat :=
    .pace { elapsedAt := now, now := now, micros60hz := 0, micros20hz := 0 }
  let env : CommandEnv := { listenOk := true, connectOk := true }
  let client (a : PeerAction Nat) : BenchAction Nat := .link (.left (.own a true))
  let server (a : PeerAction Nat) : BenchAction Nat := .link (.right (.own a true))
  let clientTakes := client (.command env)
  let serverTakes := server (.command env)
  [serverTakes, clientTakes,
    client (.event { acceptOk := true, newV4 := Uuid.nil } 1 .none .connecting),
    server (.event { acceptOk := true, newV4 := otherUuid } 2 .none .connecting),
    pollAt 0, clientTakes, clientTakes, pollAt 0, pollAt 0, pollAt 0, paceAt interval20hz,
    pollAt interval20hz, paceAt (2 * interval20hz),
    clientTakes, clientTakes, clientTakes, clientTakes,
    .link (.right (.unreliable 1)), .link (.right (.reliable 0)), .link (.right (.unreliable 1)),
    .link (.right (.reliable 0))] ++
    List.replicate 7 .serve ++ List.replicate 4 serverTakes ++
    [.link (.left (.reliable 0)), .link (.left (.reliable 0)), .link (.left (.unreliable 0)),
      .link (.left (.unreliable 1)), pollAt 500000000, pollAt 500000000, pollAt nanosPerSec,
      pollAt nanosPerSec, pollAt nanosPerSec, pollAt nanosPerSec]

instance decidableAccepted (s : Bench Nat) : Decidable s.Accepted :=
  inferInstanceAs (Decidable (_ ∧ _))

theorem echoes_by_stream_mixed :
    ∃ s, Run.run (step (fun _ => none) crc32 [] emptyPackets dialled)
        (init emptyPackets 0 0 "0.0.0.0" 8080) mixedEcho = some s ∧
      s.client.recorder.map rowKey = [(11, 1, 0), (4, 1, 0), (4, 1, 0)] ∧
      Client.heard s.client ⊆ Client.sends s.client ∧
      (Client.heard s.client).filter reliable <:+: (Client.sends s.client).filter reliable ∧
      ((Stats.streamRecords s.client.recorder 11).map (·.packetId)).Pairwise (· < ·) := by
  have hview : (Run.run (step (fun _ => none) crc32 [] emptyPackets dialled)
      (init emptyPackets 0 0 "0.0.0.0" 8080) mixedEcho).map (fun s =>
        (s.client.recorder.map rowKey, decide s.Accepted)) =
        some ([(11, 1, 0), (4, 1, 0), (4, 1, 0)], true) := by
    decide +kernel
  obtain ⟨s, hrun, hs⟩ := Option.map_eq_some_iff.mp hview
  obtain ⟨hrows, haccepted⟩ := Prod.mk.inj hs
  have h := echoes_by_stream crc32 [] emptyPackets dialled (fun _ => none) 0 0 "0.0.0.0" 8080
    mixedEcho s (by decide +kernel) hrun
  exact ⟨s, hrun, hrows, h.1, h.2.2.2.1 (of_decide_eq_true haccepted),
    h.2.2.2.2 11 (by decide)⟩

end Bench

end Gns
end GameSockets

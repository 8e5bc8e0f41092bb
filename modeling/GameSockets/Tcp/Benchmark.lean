/-
The benchmark over TCP: the client's loop and the server's loop, each at the handle of its
backend, and the connection between the backends.

What the client polls is a stretch of what it has sent: the same packets in the same order, none
lost between two others.  The stretch begins with the first packet that the server's loop can
answer, and ends before those that are under way.
-/
import GameSockets.Client.Commands
import GameSockets.Client.Records
import GameSockets.Server.Replies
import GameSockets.Tcp.Application

namespace GameSockets
namespace Tcp

open Library Client EchoLink

/-- The echo with the client's loop in it.  The client's handle is the one of its backend. -/
structure Bench where
  echo : EchoLink
  app : ClientState

inductive BenchAction where
  | poll (r : PollReading)
  | pace (r : PaceReading)
  /-- the backends, and the server's loop -/
  | system (a : EchoAction)

/-- The system acts for neither program's application, and the connection that the client dials
is the one of the wire. -/
def EchoAction.BySystem (w : Wire) : EchoAction → Prop
  | .client (.command env) => env.newV4 = w.left
  | .client a => a.byApplication = false
  | _ => True

instance (w : Wire) : ∀ a, Decidable (EchoAction.BySystem w a)
  | .client (.command env) => inferInstanceAs (Decidable (env.newV4 = w.left))
  | .client (.issue _) => inferInstanceAs (Decidable (true = false))
  | .client .poll => inferInstanceAs (Decidable (true = false))
  | .client .register => .isTrue rfl
  | .client .resume => .isTrue rfl
  | .client (.announce _ _) => .isTrue rfl
  | .client (.spawn _) => .isTrue rfl
  | .client (.handOver _) => .isTrue rfl
  | .client (.handler _ _) => .isTrue rfl
  | .backend _ => .isTrue trivial
  | .serve => .isTrue trivial

theorem EchoAction.BySystem.backend {w : Wire} {a : Action}
    (h : EchoAction.BySystem w (.client a)) : a.byApplication = false := by
  cases a with
  | issue => exact h
  | poll => exact h
  | _ => rfl

namespace Bench

section Bench

variable (crc : Bytes → UInt32) (entropy : Bytes) (args : CliArgs) (w : Wire)

def client (s : Bench) : ClientState := { s.app with peer := s.echo.link.left.peer }

def withClient (s : Bench) (st : ClientState) : Bench :=
  { echo := { s.echo with
      link := { s.echo.link with left := { s.echo.link.left with peer := st.peer } } },
    app := st }

/-- The two programs at the heads of their loops. -/
def init (t60 t20 : Nat) (ip : String) (port : UInt16) : Bench :=
  withClient { echo := EchoLink.init ip port, app := Client.init args t60 t20 }
    (Client.init args t60 t20)

def step (s : Bench) : BenchAction → Option Bench
  | .poll r => (Client.step crc entropy args s.client (.poll r)).map s.withClient
  | .pace r => (Client.step crc entropy args s.client (.pace r)).map s.withClient
  | .system a =>
    if a.BySystem w then (EchoLink.step crc w s.echo a).map fun e => { s with echo := e }
    else none

/-- What is under way belongs to the client's packets, in their order. -/
structure Orderly (s : Bench) : Prop where
  client : Introduced args s.client
  numbered : Numbered crc s.client
  rows : RowsPolled s.client
  dials : s.echo.link.left.Dials w.left
  forth : Link.Conveys w (s.echo.link.left.takenSends w.left) s.echo.link
  back : ∃ sent, Link.Conveys w.swap sent s.echo.link.swap ∧ s.echo.link.right.Counts w.right sent
  replies : Server.Replies crc s.echo.server

variable {crc entropy args w}

/-! ## The packets of the client -/

theorem bind_not_mem {st : ClientState} (h : Introduced args st) (addr : String) (port : UInt16) :
    .bind addr port ∉ st.peer.cmdTx.log := by
  obtain ⟨new, hlog, hnew⟩ := h.commands
  rw [hlog, List.mem_cons]
  rintro (hx | hx)
  · cases hx
  · exact hnew _ hx

theorem length_packetOf {x : GameStream × Bytes}
    (hx : x.2.length = BenchmarkPacket.headerSize + args.packetSize)
    (hsize : BenchmarkPacket.headerSize + args.packetSize + 2 ≤ maxFrame) :
    (packetOf x).length ≤ maxFrame := by
  rw [packetOf, packet, List.length_append, length_putU16, hx]
  omega

theorem taken_isPrefix (s : TcpBackend) (uuid : Uuid) :
    s.takenSends uuid <+: sendsTo uuid s.peer.cmdTx.log := sendsTo_isPrefix _ _

theorem messages_isPrefix (s : TcpBackend) (uuid : Uuid) :
    heardOn uuid s.peer.eventRx.received <+: s.messages uuid := heardOn_isPrefix _ _

theorem messages_of_conveys {w : Wire} {sent : List (GameStream × Bytes)} {l : Link}
    (h : Link.Conveys w sent l) : l.right.messages w.right <+: sent := by
  obtain ⟨rest, ext, hsent, -⟩ := h.transit
  exact hsent ▸ List.prefix_append _ _

/-- The server can read what it polls on the connection. -/
theorem Orderly.readable {s : Bench} (h : Orderly crc args w s) :
    ∀ x ∈ heardOn w.right s.echo.server.peer.eventRx.received,
      (BenchmarkPacket.fromBytes crc x.2).isSome = true := by
  intro x hx
  have hsent := ((messages_isPrefix _ _).trans (messages_of_conveys h.forth)).subset hx
  exact readable_of_sendsTo h.numbered ((taken_isPrefix _ _).subset hsent)

/-- What the server has passed to `send` for the connection is what it has polled there, up to
the answer that failed. -/
theorem Orderly.answers {s : Bench} (h : Orderly crc args w s) :
    sendsTo w.right s.echo.link.right.peer.cmdTx.log <+:
      heardOn w.right s.echo.link.right.peer.eventRx.received :=
  h.replies.answers h.readable

/-- Every answer for the connection was taken from the client. -/
theorem Orderly.answers_subset {s : Bench} (h : Orderly crc args w s) :
    sendsTo w.right s.echo.link.right.peer.cmdTx.log <+: s.echo.link.left.takenSends w.left :=
  (h.answers.trans (messages_isPrefix _ _)).trans (messages_of_conveys h.forth)

/-- What the client has polled on the connection is a stretch of what it has sent. -/
theorem Orderly.polled {s : Bench} (h : Orderly crc args w s) :
    heardOn w.left s.echo.link.left.peer.eventRx.received <:+:
      sendsTo w.left s.echo.link.left.peer.cmdTx.log := by
  obtain ⟨sent, hconveys, hcounts⟩ := h.back
  have hpolled : heardOn w.left s.echo.link.left.peer.eventRx.received <+: sent :=
    (messages_isPrefix _ _).trans (messages_of_conveys hconveys)
  have htaken := (taken_isPrefix s.echo.link.right w.right).trans
    (h.answers_subset.trans (taken_isPrefix s.echo.link.left w.left))
  exact (hpolled.isInfix.trans hcounts.suffix.isInfix).trans htaken.isInfix

/-! ## Every step -/

theorem orderly_init (t60 t20 : Nat) (ip : String) (port : UInt16) :
    Orderly crc args w (init args t60 t20 ip port) := by
  have hempty : Link.Conveys w [] (EchoLink.init ip port).link :=
    (Link.conveys_init w).withRightPeer rfl
  have hback : Link.Conveys w.swap [] (EchoLink.init ip port).link.swap :=
    (Link.conveys_init w.swap).withLeftPeer rfl
  exact
    { client := introduced_init t60 t20
      numbered := numbered_init args t60 t20
      rows := ⟨[], List.nil_sublist _, .nil⟩
      dials := ⟨rfl, rfl, nofun⟩
      forth := hempty.withLeftPeer rfl
      back := ⟨[], hback.withRightPeer rfl, List.nil_suffix, fun _ => rfl⟩
      replies := Server.replies_init ip port }

/-- The client takes a turn. -/
theorem orderly_turn {s : Bench} {st : ClientState} {a : Client.Action}
    (h : Orderly crc args w s) (hturn : (∃ r, a = .poll r) ∨ ∃ r, a = .pace r)
    (hstep : Client.step crc entropy args s.client a = some st) :
    Orderly crc args w (s.withClient st) := by
  obtain ⟨huses, hclient⟩ := introduced_turn h.client hturn hstep
  have hlog : st.peer.eventRx.log = s.echo.link.left.peer.eventRx.log := huses.events
  have htaken : (s.withClient st).echo.link.left.takenSends w.left =
      s.echo.link.left.takenSends w.left := by
    show sendsTo w.left st.peer.cmdTx.received = sendsTo w.left s.client.peer.cmdTx.received
    rw [huses.received]
  obtain ⟨sent, hconveys, hcounts⟩ := h.back
  exact
    { client := hclient
      numbered := numbered_step entropy args h.numbered hstep
      rows := rowsPolled_step h.rows hstep
      dials := ⟨h.dials.accepts, h.dials.peerReg, h.dials.peers⟩
      forth := htaken ▸ h.forth.withLeftPeer hlog
      back := ⟨sent, hconveys.withRightPeer hlog, hcounts⟩
      replies := h.replies }

/-- The client's backend takes a step. -/
theorem orderly_client {s : Bench} {l : Link} {a : Action}
    (hsize : BenchmarkPacket.headerSize + args.packetSize + 2 ≤ maxFrame)
    (h : Orderly crc args w s) (ha : EchoAction.BySystem w (.client a))
    (hstep : Link.step w s.echo.link (.left a) = some l) :
    Orderly crc args w { s with echo := { s.echo with link := l } } := by
  have hdraw : ∀ env, a = .command env → env.newV4 = w.left := by
    rintro env rfl
    exact ha
  rcases Link.step_cases hstep with ⟨b, heq, hright, hend⟩ | ⟨b, heq, -, -⟩
  · cases heq
    obtain ⟨hleft, -, -, -⟩ := TcpBackend.stepEnd_eq_some hend
    obtain ⟨hcmd, hevents, hreceived⟩ := TcpBackend.handle_step ha.backend hleft
    obtain ⟨new, htaken, hsend, hnew⟩ := TcpBackend.taken_step hleft w.left
    have hclient := h.client.backend hcmd hevents
    -- a packet for the connection is taken once the connection is registered
    have hsent : s.echo.link.left.sendOf w.left a = new := by
      rw [hsend]
      cases new with
      | none => exact ite_self _
      | some x =>
        obtain ⟨cmds, hlog, hcmds⟩ := h.client.commands
        have hmem : BackendCommand.send w.left x.1 x.2 ∈ s.client.peer.cmdTx.log := hnew x rfl
        rw [hlog, List.mem_cons] at hmem
        have hconnected := (hcmds _ (hmem.resolve_left nofun)).1
        exact if_pos (h.dials.opened h.forth.left.registered hconnected rfl).2
    have hforth : Link.Conveys w (l.left.takenSends w.left) l := by
      rw [htaken, ← hsent]
      refine Link.conveys_step h.forth hstep fun x hx => ?_
      have hx' : x ∈ l.left.takenSends w.left := by
        rw [htaken, ← hsent]
        exact hx
      exact length_packetOf (length_of_introduced hclient ((taken_isPrefix _ _).subset hx')) hsize
    have hsends : sends { s.client with peer := l.left.peer } = sends s.client := by
      rw [sends, hcmd]
      rfl
    obtain ⟨sent, hconveys, hcounts⟩ := h.back
    refine
      { client := hclient
        numbered := numbered_of_eq h.numbered hsends rfl id
        rows := ?_
        dials := TcpBackend.dials_step h.dials (bind_not_mem h.client) hdraw hleft
        forth := hforth
        back := ⟨sent, ?_, ?_⟩
        replies := ?_ }
    · obtain ⟨ms, hms, hrows⟩ := h.rows
      refine ⟨ms, ?_, hrows⟩
      show ms.Sublist (l.left.peer.eventRx.received.filterMap GameNetworkEvent.delivered)
      rw [hreceived]
      exact hms
    · have hnone : Link.sendOf w.swap s.echo.link.swap (LinkAction.swap (.left a)) = none := rfl
      have hback := Link.conveys_step hconveys (Link.step_swap hstep) fun x hx => ?_
      · rw [hnone, Option.toList_none, List.append_nil] at hback
        exact hback
      · rw [hnone, Option.toList_none, List.append_nil] at hx
        have hx' := h.answers_subset.subset ((taken_isPrefix _ _).subset (hcounts.suffix.subset hx))
        exact length_packetOf
          (length_of_introduced h.client ((taken_isPrefix _ _).subset hx')) hsize
    · show l.right.Counts w.right sent
      rw [hright]
      exact hcounts
    · show Server.Replies crc { s.echo.server with peer := l.right.peer }
      rw [hright]
      exact h.replies
  · cases heq

/-- The server's backend takes a step. -/
theorem orderly_backend {s : Bench} {l : Link} {a : Action}
    (hsize : BenchmarkPacket.headerSize + args.packetSize + 2 ≤ maxFrame)
    (h : Orderly crc args w s) (ha : a.byApplication = false)
    (hstep : Link.step w s.echo.link (.right a) = some l) :
    Orderly crc args w { s with echo := { s.echo with link := l } } := by
  rcases Link.step_cases hstep with ⟨b, heq, -, -⟩ | ⟨b, heq, hleft, hend⟩
  · cases heq
  · cases heq
    obtain ⟨hright, -, -, -⟩ := TcpBackend.stepEnd_eq_some hend
    obtain ⟨hcmd, hevents, hreceived⟩ := TcpBackend.handle_step ha hright
    have hclient : client { s with echo := { s.echo with link := l } } = s.client := by
      rw [client, client]
      dsimp only
      rw [hleft]
    have hshort : ∀ x ∈ s.echo.link.left.takenSends w.left, (packetOf x).length ≤ maxFrame := by
      intro x hx
      exact length_packetOf (length_of_introduced h.client ((taken_isPrefix _ _).subset hx)) hsize
    obtain ⟨sent, hconveys, hcounts⟩ := h.back
    have hcounts' := TcpBackend.counts_step hcounts hright
    refine
      { client := hclient ▸ h.client
        numbered := hclient ▸ h.numbered
        rows := hclient ▸ h.rows
        dials := ?_
        forth := ?_
        back := ⟨_, Link.conveys_step hconveys (Link.step_swap hstep) fun x hx => ?_, hcounts'⟩
        replies := h.replies.backend hcmd hreceived }
    · show l.left.Dials w.left
      rw [hleft]
      exact h.dials
    · have hforth := Link.conveys_step h.forth hstep fun x hx => ?_
      · rw [Link.sendOf, Option.toList_none, List.append_nil] at hforth
        show Link.Conveys w (l.left.takenSends w.left) l
        rw [hleft]
        exact hforth
      · rw [Link.sendOf, Option.toList_none, List.append_nil] at hx
        exact hshort x hx
    · -- an answer taken now was issued before the step
      have hx' := (taken_isPrefix _ _).subset (hcounts'.suffix.subset hx)
      rw [hcmd] at hx'
      exact hshort x (h.answers_subset.subset hx')

/-- The server's loop makes a pass. -/
theorem orderly_serve {s : Bench} {st : Server.ServerState} (h : Orderly crc args w s)
    (hstep : Server.step crc s.echo.server = some st) :
    Orderly crc args w
      { s with echo :=
          { link :=
              { s.echo.link with right := { s.echo.link.right with peer := st.peer } },
            clients := st.clients, phase := st.phase } } := by
  have huses := Server.uses_step hstep
  have hlog : st.peer.eventRx.log = s.echo.link.right.peer.eventRx.log := huses.events
  obtain ⟨sent, hconveys, hcounts⟩ := h.back
  have htaken : TcpBackend.takenSends { s.echo.link.right with peer := st.peer } w.right =
      s.echo.link.right.takenSends w.right := by
    show sendsTo w.right st.peer.cmdTx.received =
      sendsTo w.right s.echo.server.peer.cmdTx.received
    rw [huses.received]
  exact
    { client := h.client
      numbered := h.numbered
      rows := h.rows
      dials := h.dials
      forth := h.forth.withRightPeer hlog
      back := ⟨sent, hconveys.withLeftPeer hlog, htaken ▸ hcounts.suffix, hcounts.unregistered⟩
      replies := Server.replies_step h.replies hstep }

theorem orderly_step {s t : Bench} {a : BenchAction}
    (hsize : BenchmarkPacket.headerSize + args.packetSize + 2 ≤ maxFrame)
    (h : Orderly crc args w s) (hstep : step crc entropy args w s a = some t) :
    Orderly crc args w t := by
  cases a with
  | poll r =>
    obtain ⟨st, hst, rfl⟩ := Option.map_eq_some_iff.mp hstep
    exact orderly_turn h (Or.inl ⟨r, rfl⟩) hst
  | pace r =>
    obtain ⟨st, hst, rfl⟩ := Option.map_eq_some_iff.mp hstep
    exact orderly_turn h (Or.inr ⟨r, rfl⟩) hst
  | system a =>
    simp only [step] at hstep
    split at hstep
    · next hsystem =>
      obtain ⟨e, he, rfl⟩ := Option.map_eq_some_iff.mp hstep
      cases a with
      | client a =>
        obtain ⟨l, hl, rfl⟩ := Option.map_eq_some_iff.mp he
        exact orderly_client hsize h hsystem hl
      | backend a =>
        simp only [EchoLink.step] at he
        split at he
        · cases he
        · next happ =>
          obtain ⟨l, hl, rfl⟩ := Option.map_eq_some_iff.mp he
          exact orderly_backend hsize h (Bool.eq_false_iff.mpr happ) hl
      | serve =>
        obtain ⟨st, hst, rfl⟩ := Option.map_eq_some_iff.mp he
        exact orderly_serve h hst
    · cases hstep

theorem orderly_of_run {t60 t20 : Nat} {ip : String} {port : UInt16} {actions : List BenchAction}
    {s : Bench} (hsize : BenchmarkPacket.headerSize + args.packetSize + 2 ≤ maxFrame)
    (hrun : Run.run (step crc entropy args w) (init args t60 t20 ip port) actions = some s) :
    Orderly crc args w s :=
  Run.invariant_of_run (fun _ _ _ => orderly_step hsize) (orderly_init t60 t20 ip port) hrun

/-! ## Rows and packets -/

theorem Orderly.heard_onWire {s : Bench} (h : Orderly crc args w s) :
    ∀ m ∈ Client.heard s.client, m.connection = w.left := by
  intro m hm
  obtain ⟨e, he, hdelivered⟩ := List.mem_filterMap.mp hm
  rw [GameNetworkEvent.delivered_eq_some] at hdelivered
  exact (h.dials.opened h.forth.left.registered (Channel.mem_log_of_received he)
    (hdelivered ▸ rfl)).1

theorem Orderly.sends_onWire {s : Bench} (h : Orderly crc args w s) :
    ∀ m ∈ Client.sends s.client, m.connection = w.left := by
  intro m hm
  exact (h.dials.opened h.forth.left.registered (connected_of_sends h.client hm) rfl).1

theorem Orderly.heard_infix {s : Bench} (h : Orderly crc args w s) :
    Client.heard s.client <:+: Client.sends s.client := by
  rw [← map_onWire h.heard_onWire, ← map_onWire h.sends_onWire]
  exact h.polled.map _

variable (crc entropy args w)

/-- What the client has polled at any moment is a stretch of what it has sent.  Its rows are those
of some of these packets in their order, each with the time since that packet was stamped, and so
the ids recorded for a stream rise. -/
theorem echoes_in_order (hsize : BenchmarkPacket.headerSize + args.packetSize + 2 ≤ maxFrame)
    (t60 t20 : Nat) (ip : String) (port : UInt16) (actions : List BenchAction) (s : Bench)
    (hrun : Run.run (step crc entropy args w) (init args t60 t20 ip port) actions = some s) :
    Client.heard s.client <:+: Client.sends s.client ∧
      (∃ ms, ms.Sublist (Client.sends s.client) ∧ List.Forall₂ Measures s.client.recorder ms) ∧
      ∀ id, ((Stats.streamRecords s.client.recorder id).map (·.packetId)).Pairwise (· < ·) := by
  have h := orderly_of_run hsize hrun
  obtain ⟨ms, hms, hrows⟩ := h.rows
  have hsent := hms.trans h.heard_infix.sublist
  refine ⟨h.heard_infix, ⟨ms, hsent, hrows⟩, fun id => ?_⟩
  obtain ⟨k, hk, hids, -⟩ := h.numbered.ids { streamId := id }
  have hsub := idsOf_sublist (hsent.map packetKey) id
  rw [← key_of_measures hrows, idsOf_rowKey, idsOf_packetKey, hids] at hsub
  exact (firstIds_increasing hk).sublist hsub

end Bench

/-! ## Two packets -/

/-- The client sends two packets, and polls the echo of the first one late enough to record
it. -/
def firstEcho : List BenchAction :=
  let pollAt (instant : Nat) : BenchAction := .poll { instant := instant, micros := 0 }
  let paceAt (now : Nat) : BenchAction :=
    .pace { elapsedAt := now, now := now, micros60hz := 0, micros20hz := 0 }
  let command : BenchAction := .system (.client (.command TcpBackend.allOk))
  let frame := benchmarkFrame 0
  [.system (.backend (.command TcpBackend.allOk)), command,
    .system (.backend (.announce 0 Uuid.nil)),
    .system (.backend (.spawn 0)), .system (.backend (.handOver 0)), .system (.backend .register),
    pollAt 0, command, command, pollAt 0, pollAt 0, pollAt 0, paceAt interval60hz,
    pollAt 0, paceAt (2 * interval60hz), command, command,
    .system (.client (.handler Uuid.nil .take)),
    .system (.client (.handler Uuid.nil (.write frame.length))),
    .system (.backend (.handler Uuid.nil (.read frame))),
    .system (.backend (.handler Uuid.nil .decode)), .system .serve, .system .serve, .system .serve,
    .system (.backend (.command TcpBackend.allOk)), .system (.backend (.handler Uuid.nil .take)),
    .system (.backend (.handler Uuid.nil (.write frame.length))),
    .system (.client (.handler Uuid.nil (.read frame))),
    .system (.client (.handler Uuid.nil .decode)), pollAt nanosPerSec, pollAt nanosPerSec]

theorem echoes_in_order_firstEcho :
    ∃ s, Run.run (step crc32 [] emptyPackets (evenWire 64)) (init emptyPackets 0 0 "0.0.0.0" 8080)
        firstEcho = some s ∧
      s.client.recorder.map rowKey = [(4, 0, 0)] ∧ (Client.sends s.client).length = 2 ∧
      Client.heard s.client <:+: Client.sends s.client := by
  have hview : (Run.run (step crc32 [] emptyPackets (evenWire 64))
      (init emptyPackets 0 0 "0.0.0.0" 8080) firstEcho).map (fun s =>
        (s.client.recorder.map rowKey, (Client.sends s.client).length)) =
          some ([(4, 0, 0)], 2) := by
    decide +kernel
  obtain ⟨s, hrun, hs⟩ := Option.map_eq_some_iff.mp hview
  rw [Prod.mk.injEq] at hs
  exact ⟨s, hrun, hs.1, hs.2,
    (echoes_in_order crc32 [] emptyPackets (evenWire 64) (by decide) 0 0 "0.0.0.0" 8080 firstEcho s
      hrun).1⟩

end Bench

end Tcp
end GameSockets

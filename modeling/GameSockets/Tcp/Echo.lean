/-
A benchmark over TCP: one client, one echo server, and the connection between them.
-/
import GameSockets.Tcp.Deadlock
import GameSockets.Tcp.Exit

namespace GameSockets
namespace Tcp

open Library Duplex

/-- The client is at the left end and the server at the right end.  The server's
handle is the one of its backend. -/
structure EchoLink where
  link : Link
  clients : List GameConnection
  phase : Server.Phase

inductive EchoAction where
  /-- of the client: its application, or its backend -/
  | client (a : Action)
  /-- of the server's backend, whose application is the server's loop -/
  | backend (a : Action)
  /-- one pass of the server's loop -/
  | serve

namespace EchoLink

section Echo

variable (crc : Bytes → UInt32) (w : Wire)

def server (s : EchoLink) : Server.ServerState :=
  { peer := s.link.right.peer, clients := s.clients, phase := s.phase }

def init (ip : String) (port : UInt16) : EchoLink :=
  let st := Server.init ip port
  { link := { Link.init with right := { TcpBackend.init with peer := st.peer } },
    clients := st.clients, phase := st.phase }

def step (s : EchoLink) : EchoAction → Option EchoLink
  | .client a => (Link.step w s.link (.left a)).map fun l => { s with link := l }
  | .backend a =>
    if a.byApplication then none
    else (Link.step w s.link (.right a)).map fun l => { s with link := l }
  | .serve =>
    (Server.step crc s.server).map fun st =>
      { link := { s.link with right := { s.link.right with peer := st.peer } },
        clients := st.clients, phase := st.phase }

/-- The handler of the client or of the server takes a step. -/
def Advances (s t : EchoLink) : Prop :=
  ∃ b : HandlerAction, b.Advances ∧
    (step crc w s (.client (.handler w.left b)) = some t ∨
      step crc w s (.backend (.handler w.right b)) = some t)

/-- Neither handler begins a packet that does not fit its buffer while the other has
more to write than its own buffer takes. -/
def InRoom (s : EchoLink) : EchoAction → Prop
  | .client a => Link.InRoom w s.link (.left a)
  | .backend a => Link.InRoom w s.link (.right a)
  | .serve => True

instance (s : EchoLink) : ∀ a, Decidable (InRoom w s a)
  | .client a => inferInstanceAs (Decidable (Link.InRoom w s.link (.left a)))
  | .backend a => inferInstanceAs (Decidable (Link.InRoom w s.link (.right a)))
  | .serve => .isTrue trivial

variable {crc w}

theorem advances_iff {s : EchoLink} :
    (∃ t, Advances crc w s t) ↔ ∃ l, Link.Advances w s.link l := by
  constructor
  · rintro ⟨t, b, hb, h | h⟩
    · obtain ⟨l, hl, -⟩ := Option.map_eq_some_iff.mp h
      exact ⟨l, b, hb, Or.inl hl⟩
    · obtain ⟨l, hl, -⟩ := Option.map_eq_some_iff.mp h
      exact ⟨l, b, hb, Or.inr hl⟩
  · rintro ⟨l, b, hb, h | h⟩
    · exact ⟨_, b, hb, Or.inl (congrArg (Option.map _) h)⟩
    · exact ⟨_, b, hb, Or.inr (congrArg (Option.map _) h)⟩

/-- The server's loop moves no byte and touches no connection. -/
theorem open_serve {s t : EchoLink} (h : Link.Open w s.link)
    (hstep : step crc w s .serve = some t) : Link.Open w t.link := by
  obtain ⟨st, hst, rfl⟩ := Option.map_eq_some_iff.mp hstep
  have hlog := (Server.step_sends hst).1
  have hreg := h.right.registered
  refine ⟨h.left, ⟨?_, h.right.handlers⟩, h.bounded, h.open_⟩
  exact TcpBackend.registered_of_sameLog hreg ⟨rfl, rfl, rfl, rfl⟩ (fun c => Iff.rfl) hlog
    hreg.waits

theorem open_init (ip : String) (port : UInt16) : Link.Open w (init ip port).link := by
  refine ⟨TcpBackend.sane_init, ⟨?_, TcpBackend.sane_init.handlers⟩, fun b => ?_, fun hjam => ?_⟩
  · exact TcpBackend.registered_of_sameLog TcpBackend.registered_init ⟨rfl, rfl, rfl, rfl⟩
      (fun c => Iff.rfl) rfl TcpBackend.registered_init.waits
  · cases b <;> exact Nat.zero_le _
  · have := hjam true
    cases this

theorem open_step {s t : EchoLink} {a : EchoAction} (h : Link.Open w s.link)
    (hroom : InRoom w s a) (hstep : step crc w s a = some t) : Link.Open w t.link := by
  cases a with
  | client a =>
    obtain ⟨l, hl, rfl⟩ := Option.map_eq_some_iff.mp hstep
    exact Link.open_step h hroom hl
  | backend a =>
    simp only [step] at hstep
    split at hstep
    · cases hstep
    · obtain ⟨l, hl, rfl⟩ := Option.map_eq_some_iff.mp hstep
      exact Link.open_step h hroom hl
  | serve => exact open_serve h hstep

/-- As long as no handler begins a packet that jams the connection, the echo never
comes to a standstill: with anything pending on a healthy connection one of the
handlers can go on, and the two never block each other. -/
theorem echo_advances (crc : Bytes → UInt32) (w : Wire) (hcap : ∀ b, 0 < w.cap b) (ip : String)
    (port : UInt16) (actions : List EchoAction) (s : EchoLink)
    (hroom : Run.Along (step crc w) (InRoom w) (init ip port) actions)
    (hrun : Run.run (step crc w) (init ip port) actions = some s) :
    (Link.Healthy w s.link → Link.Pending w s.link → ∃ t, Advances crc w s t) ∧
      ¬ Link.Blocked w s.link := by
  have hopen : Link.Open w s.link :=
    Run.invariant (fun _ _ _ => open_step) actions (open_init ip port) hroom hrun
  refine ⟨fun hhealthy hpending => ?_, Link.not_blocked_of_open hopen⟩
  exact advances_iff.mpr (Link.advances_of_open hcap hopen hhealthy hpending)

end Echo

/-! ## Two packets -/

/-- Each end calls the connection by the nil UUID, and its buffer holds `cap` bytes. -/
def evenWire (cap : Nat) : Wire :=
  { left := Uuid.nil, right := Uuid.nil, capRight := cap, capLeft := cap }

/-- The frame of a benchmark packet without payload, on stream 4. -/
def benchmarkFrame (id : UInt64) : Bytes :=
  Framing.frame lengthSize (packet { streamId := 4 }
    (BenchmarkPacket.toBytes crc32 { id := id, timestamp := 0, payload := [] }))

/-- The client connects and sends two benchmark packets; the server has echoed the
first one, and its handler has yet to take the echo. -/
def twoEchoes : List EchoAction :=
  let send (id : UInt64) : List EchoAction :=
    [.client (.issue (.send Uuid.nil { streamId := 4 }
        (BenchmarkPacket.toBytes crc32 { id := id, timestamp := 0, payload := [] }))),
      .client (.command TcpBackend.allOk)]
  [.backend (.command TcpBackend.allOk), .client (.issue (.connect "127.0.0.1" 8080)),
      .client (.command TcpBackend.allOk), .backend (.announce 0 Uuid.nil), .backend (.spawn 0),
      .backend (.handOver 0), .backend .register] ++
    send 0 ++ send 1 ++
    [.client (.handler Uuid.nil .take), .client (.handler Uuid.nil (.write 16)),
      .backend (.handler Uuid.nil (.read ((benchmarkFrame 0).take 16))),
      .client (.handler Uuid.nil (.write 10)),
      .backend (.handler Uuid.nil (.read ((benchmarkFrame 0).drop 16))),
      .backend (.handler Uuid.nil .decode), .serve, .serve, .serve,
      .backend (.command TcpBackend.allOk)]

theorem echo_advances_twoEchoes :
    ∃ s, Run.run (step crc32 (evenWire 16)) (init "0.0.0.0" 8080) twoEchoes = some s ∧
      ∃ t, Advances crc32 (evenWire 16) s t := by
  have hview : (Run.run (step crc32 (evenWire 16)) (init "0.0.0.0" 8080) twoEchoes).map (fun s =>
      (decide (Link.Healthy (evenWire 16) s.link),
        (s.link.left.handlerOf Uuid.nil).writeRx.pending.length)) = some (true, 1) := by
    decide +kernel
  obtain ⟨s, hrun, hs⟩ := Option.map_eq_some_iff.mp hview
  simp only [Prod.mk.injEq, decide_eq_true_eq] at hs
  obtain ⟨hhealthy, hqueue⟩ := hs
  have hpending : Link.Pending (evenWire 16) s.link := by
    refine Or.inr (Or.inl (List.ne_nil_of_length_pos ?_))
    exact Nat.lt_of_lt_of_eq Nat.one_pos hqueue.symm
  have hcap : ∀ b, 0 < (evenWire 16).cap b := by decide
  exact ⟨s, hrun, (echo_advances crc32 (evenWire 16) hcap "0.0.0.0" 8080 twoEchoes s
    (by decide +kernel) hrun).1 hhealthy hpending⟩

/-- The client's handler takes the second packet and the server's handler the echo of
the first: each fills its buffer, and neither reads. -/
def bothBegin : List EchoAction :=
  twoEchoes ++
    [.client (.handler Uuid.nil .take), .client (.handler Uuid.nil (.write 16)),
      .backend (.handler Uuid.nil .take), .backend (.handler Uuid.nil (.write 16))]

theorem echo_deadlock :
    ∃ s, Run.run (step crc32 (evenWire 16)) (init "0.0.0.0" 8080) bothBegin = some s ∧
      Link.Healthy (evenWire 16) s.link ∧ Link.Pending (evenWire 16) s.link ∧
      Link.Blocked (evenWire 16) s.link ∧ ¬ ∃ t, Advances crc32 (evenWire 16) s t := by
  have hview : (Run.run (step crc32 (evenWire 16)) (init "0.0.0.0" 8080) bothBegin).map (fun s =>
      (decide (Link.Healthy (evenWire 16) s.link), decide (Link.Blocked (evenWire 16) s.link))) =
        some (true, true) := by
    decide +kernel
  obtain ⟨s, hrun, hs⟩ := Option.map_eq_some_iff.mp hview
  simp only [Prod.mk.injEq, decide_eq_true_eq] at hs
  obtain ⟨hhealthy, hblocked⟩ := hs
  have hbytes : 0 < s.link.toRight.length :=
    Nat.lt_of_lt_of_le (by decide) hblocked.2.2.1
  refine ⟨s, hrun, hhealthy, Or.inl ⟨true, Or.inr hbytes⟩, hblocked, ?_⟩
  rw [advances_iff]
  rintro ⟨l, hl⟩
  exact Link.not_advances_of_blocked hblocked hl

end EchoLink

end Tcp
end GameSockets
